import Mathlib.Data.List.Induction
import PocketCalc.Proofs.Runs

/-!
# What was shown last is what is held

A user sees the registers only through the answers to lines. `Calculator.registers_lastShown` says
that this is enough: in a session from the start, the latest answer `Result: …` shows the result
that is held, the latest answer `Memory: …` the memory that is held, and a register of which no
answer was given yet reads `0`. Errors, help and refused divisions may come in between.

Three tables have to agree for that: which register an operator writes, which status it returns,
and which register is shown under that status. The first two are tied together by
`Operator.result_apply` and `Operator.memory_apply`, and the order of things, to execute first and
to render afterwards, is that of `Calculator.enter`.
-/

namespace PocketCalc

/-- Whether a value is the one that outcomes of a status showed last, under its label. Before there
is such an outcome the value is shown as zero is. -/
def IsLastShown (status : Status) (label : String) (value : Float)
    (outcomes : List Outcome) : Prop :=
  match outcomes.reverse.find? (·.status = status) with
  | none => Layout.plain.write value = "0".toList
  | some outcome => outcome.output = some (label.toList ++ Layout.plain.write value)

/-- What an outcome tells of the step from one state to the next. -/
structure Outcome.Discloses (outcome : Outcome) (before after : Calculator) : Prop where
  result : after.registers.result ≠ before.registers.result → outcome.status = .ok
  memory : after.registers.memory ≠ before.registers.memory → outcome.status = .memory
  notBoth : after.registers.result = before.registers.result ∨
    after.registers.memory = before.registers.memory
  silent : outcome.output = none ↔ outcome.status = .exit

/-- One more outcome either shows the value anew, or has another status and leaves it alone. -/
theorem IsLastShown.concat {status : Status} {label : String} {value next : Float}
    {outcomes : List Outcome} {outcome : Outcome} (h : IsLastShown status label value outcomes)
    (hShown : outcome.status = status →
      outcome.output = some (label.toList ++ Layout.plain.write next))
    (hKept : outcome.status ≠ status → next = value) :
    IsLastShown status label next (outcomes ++ [outcome]) := by
  have hReverse : (outcomes ++ [outcome]).reverse = outcome :: outcomes.reverse := by simp
  rw [IsLastShown, hReverse, List.find?_cons]
  by_cases hStatus : outcome.status = status
  · have hFound : decide (outcome.status = status) = true := decide_eq_true hStatus
    simp only [hFound]
    exact hShown hStatus
  · have hOther : decide (outcome.status = status) = false := decide_eq_false hStatus
    simp only [hOther]
    rw [hKept hStatus]
    exact h

namespace Calculator

/-! ## One line -/

/-- A line is rejected and leaves the registers as they were, or an operator is applied to them. -/
theorem enter_cases (calculator : Calculator) (text : Text) :
    ((calculator.enter text).2.status = .invalidInput ∧
      (calculator.enter text).1.registers = calculator.registers) ∨
    ∃ operator left right, ((calculator.enter text).1.registers,
      (calculator.enter text).2.status) = Operator.apply operator calculator.registers left right := by
  cases hCommand : calculator.command (Line.ofText text).words with
  | error reason =>
    have hProcess := process_of_command_error hCommand
    exact .inl (by simp only [enter, hProcess, and_self])
  | ok command =>
    have hProcess := process_of_command_ok hCommand
    refine .inr ⟨(calculator.put command).operator, (calculator.put command).left,
      (calculator.put command).right, ?_⟩
    simp only [enter, hProcess, execute, registers_put]

theorem output_enter (calculator : Calculator) (text : Text) :
    (calculator.enter text).2.output =
      Message.render (calculator.enter text).2.status (calculator.enter text).1.registers := rfl

theorem result_enter {calculator : Calculator} {text : Text}
    (h : (calculator.enter text).2.status ≠ .ok) :
    (calculator.enter text).1.registers.result = calculator.registers.result := by
  obtain ⟨_, hSame⟩ | ⟨operator, left, right, hApply⟩ := calculator.enter_cases text
  · rw [hSame]
  · obtain ⟨hRegisters, hStatus⟩ := Prod.mk.inj hApply
    rw [hStatus] at h
    rw [hRegisters]
    exact Operator.result_apply h

theorem memory_enter {calculator : Calculator} {text : Text}
    (h : (calculator.enter text).2.status ≠ .memory) :
    (calculator.enter text).1.registers.memory = calculator.registers.memory := by
  obtain ⟨_, hSame⟩ | ⟨operator, left, right, hApply⟩ := calculator.enter_cases text
  · rw [hSame]
  · obtain ⟨hRegisters, hStatus⟩ := Prod.mk.inj hApply
    rw [hStatus] at h
    rw [hRegisters]
    exact Operator.memory_apply h

/-- No register changes silently. -/
theorem discloses_enter (calculator : Calculator) (text : Text) :
    (calculator.enter text).2.Discloses calculator (calculator.enter text).1 where
  result hChanged := Decidable.byContradiction fun hStatus => hChanged (result_enter hStatus)
  memory hChanged := Decidable.byContradiction fun hStatus => hChanged (memory_enter hStatus)
  notBoth := by
    by_cases hStatus : (calculator.enter text).2.status = .ok
    · refine .inr (memory_enter ?_)
      rw [hStatus]
      exact Status.noConfusion
    · exact .inl (result_enter hStatus)
  silent := by
    rw [output_enter]
    exact Message.render_eq_none_iff

/-! ## A session -/

theorem outcomes_concat (calculator : Calculator) (texts : List Text) (text : Text) :
    calculator.outcomes (texts ++ [text]) =
      calculator.outcomes texts ++ [((calculator.after (texts.map .line)).enter text).2] := by
  rw [outcomes_append]
  rfl

theorem after_concat (calculator : Calculator) (texts : List Text) (text : Text) :
    calculator.after ((texts ++ [text]).map .line) =
      ((calculator.after (texts.map .line)).enter text).1 := by
  rw [List.map_append, after_append]
  rfl

theorem result_lastShown (texts : List Text) :
    IsLastShown .ok "Result: " (initial.after (texts.map .line)).registers.result
      (initial.outcomes texts) := by
  induction texts using List.reverseRecOn with
  | nil => exact Layout.plain.write_zero
  | append_singleton texts text ih =>
    rw [outcomes_concat, after_concat]
    refine ih.concat (fun hStatus => ?_) result_enter
    rw [output_enter, hStatus]
    rfl

theorem memory_lastShown (texts : List Text) :
    IsLastShown .memory "Memory: " (initial.after (texts.map .line)).registers.memory
      (initial.outcomes texts) := by
  induction texts using List.reverseRecOn with
  | nil => exact Layout.plain.write_zero
  | append_singleton texts text ih =>
    rw [outcomes_concat, after_concat]
    refine ih.concat (fun hStatus => ?_) memory_enter
    rw [output_enter, hStatus]
    rfl

/-- **What was shown last is what is held.** After any lines from the start of a session both
registers are the ones that were shown last, and the next line, whatever it is, discloses what it
does to them. -/
theorem registers_lastShown (texts : List Text) :
    let final := initial.after (texts.map .line)
    IsLastShown .ok "Result: " final.registers.result (initial.outcomes texts) ∧
      IsLastShown .memory "Memory: " final.registers.memory (initial.outcomes texts) ∧
      ∀ text, (final.enter text).2.Discloses final (final.enter text).1 :=
  ⟨result_lastShown texts, memory_lastShown texts, fun text => discloses_enter _ text⟩

end Calculator
end PocketCalc
