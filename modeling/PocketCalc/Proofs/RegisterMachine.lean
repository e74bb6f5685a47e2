import PocketCalc.Proofs.Runs
import PocketCalc.Proofs.Sentences

/-!
# A calculator that is entered lines is a machine of two registers

Between lines a calculator keeps operands and an operator that no later line makes use of. The
register machine does without them: its state is the memory and the last result, and it obeys a
command at once (`Registers.obey`). `observe_serve_lines` says that nothing that is answered, and
nothing that is in a register, tells the two apart.

## Where left-overs could show

A standalone command is executed with the operands that were left over, whatever they are. That
it makes no difference is due to `Sentence.isStandalone`: a command that sets no operands has an
operator that looks at none. A line that is no command executes nothing, and one that joins two
operands overwrites all that was left over, so from there on calculators with equal registers are
equal (`enter_eq_of_binary`).
-/

namespace PocketCalc

/-! ## The register machine -/

namespace Registers

/-- Carries a command out. A standalone operator is given zeros for the operands it has no use
for. -/
def obey (registers : Registers) : Command → Registers × Status
  | .standalone operator => operator.apply registers 0 0
  | .binary left right operator => operator.apply registers left right

/-- Processes a line. -/
def enter (registers : Registers) (text : Text) : Registers × Outcome :=
  let line := Line.ofText text
  let (after, status) :=
    match Command.ofWords registers.memory registers.result line.words with
    | .error _ => (registers, .invalidInput)
    | .ok command => registers.obey command
  (after,
    { status
      truncation := line.truncation
      output := Message.render status after })

/-- Processes lines one after the other: the registers after each, and the reply to it. -/
def run (registers : Registers) : List Text → List (Registers × Reply)
  | [] => []
  | text :: rest =>
    let (after, outcome) := registers.enter text
    (after, .line outcome) :: after.run rest

end Registers

/-! ## One line -/

/-- A sentence that sets no operands has an operator that looks at none. -/
theorem Sentence.isStandalone {registers : Registers} {words : List Text} {operator : Operator}
    (h : Sentence registers words (.standalone operator)) : operator.isStandalone = true :=
  (Command.phrase_map_reading_iff.mpr h).isStandalone

namespace Calculator

/-- The part of a calculator that the register machine has, with the reply. -/
def observe (served : Calculator × Reply) : Registers × Reply := (served.1.registers, served.2)

/-- What words load and execute, the registers can obey. -/
theorem execute_put {calculator : Calculator} {words : List Text} {command : Command}
    (h : calculator.command words = .ok command) :
    ((calculator.put command).execute.1.registers, (calculator.put command).execute.2) =
      calculator.registers.obey command := by
  cases command with
  | standalone operator =>
    have hStandalone := (Command.ofWords_eq_ok_iff.mp h).isStandalone
    exact Operator.apply_of_isStandalone hStandalone ..
  | binary left right operator => rfl

/-- To process a line takes nothing but the registers. -/
theorem registers_enter (calculator : Calculator) (text : Text) :
    ((calculator.enter text).1.registers, (calculator.enter text).2) =
      calculator.registers.enter text := by
  rw [enter, Registers.enter]
  cases hCommand : calculator.command (Line.ofText text).words with
  | error reason =>
    rw [process_of_command_error hCommand]
    rw [command] at hCommand
    simp only [hCommand]
  | ok command =>
    have hObey := execute_put hCommand
    rw [process_of_command_ok hCommand]
    rw [Calculator.command] at hCommand
    simp only [hCommand, ← hObey]

/-- Two operands and an operator overwrite all that the registers do not hold. -/
theorem enter_eq_of_binary {c d : Calculator} {text : Text} {left right : Float}
    {operator : Operator} (hRegisters : c.registers = d.registers)
    (h : c.command (Line.ofText text).words = .ok (.binary left right operator)) :
    c.enter text = d.enter text := by
  have h' : d.command (Line.ofText text).words = .ok (.binary left right operator) := by
    rw [← h, command, command, hRegisters]
  simp only [enter, process_of_command_ok h, process_of_command_ok h', put, hRegisters]

/-! ## Many lines -/

/-- A calculator and the register machine answer lines alike and have the same in their
registers after each. -/
theorem observe_serve_lines (calculator : Calculator) (texts : List Text) :
    (calculator.serve (texts.map .line)).map observe = calculator.registers.run texts := by
  induction texts generalizing calculator with
  | nil => rfl
  | cons text rest ih =>
    simp only [List.map_cons, serve, step, Registers.run, ← registers_enter, ih]
    rfl

theorem registers_after_lines {c d : Calculator} (hRegisters : c.registers = d.registers)
    (texts : List Text) :
    (c.after (texts.map .line)).registers = (d.after (texts.map .line)).registers := by
  induction texts generalizing c d with
  | nil => exact hRegisters
  | cons text rest ih =>
    refine ih ?_
    have hEnter := (registers_enter c text).trans (hRegisters ▸ (registers_enter d text).symm)
    exact congrArg Prod.fst hEnter

/-- **Left-over operands and operators never leak.** Calculators with equal registers answer lines
alike, status, truncation and output, and have equal registers after each line; so does the
machine that has nothing but registers. From the first line on that joins two operands they are
equal in everything. -/
theorem serve_lines_of_registers_eq (c d : Calculator) (hRegisters : c.registers = d.registers)
    (texts : List Text) :
    (c.serve (texts.map .line)).map observe = (d.serve (texts.map .line)).map observe ∧
    (c.serve (texts.map .line)).map observe = c.registers.run texts ∧
    ∀ (before : List Text) (text : Text) (rest : List Text), texts = before ++ text :: rest →
      (∃ left right operator, (c.after (before.map .line)).command (Line.ofText text).words =
        .ok (.binary left right operator)) →
      (c.serve (texts.map .line)).drop before.length =
        (d.serve (texts.map .line)).drop before.length := by
  refine ⟨?_, observe_serve_lines c texts, ?_⟩
  · rw [observe_serve_lines, observe_serve_lines, hRegisters]
  · rintro before text rest rfl ⟨left, right, operator, hBinary⟩
    have hEnter := enter_eq_of_binary (registers_after_lines hRegisters before) hBinary
    have hDrop (e : Calculator) :
        (e.serve ((before ++ text :: rest).map .line)).drop before.length =
          (e.after (before.map .line)).serve ((text :: rest).map .line) := by
      rw [List.map_append, serve_append]
      exact List.drop_left' (by rw [length_serve, List.length_map])
    rw [hDrop, hDrop]
    simp only [List.map_cons, serve, step, hEnter]

/-- A calculator at the start of a session but for what an earlier division has left over. -/
def withLeftovers : Calculator := { initial with left := 1, right := 2, operator := .divide }

/-- The left-overs are there to begin with, and gone with the second of three lines. -/
theorem serve_lines_withLeftovers :
    withLeftovers ≠ initial ∧ withLeftovers.registers = initial.registers ∧
      (withLeftovers.serve [.line "MR".toList, .line "MR + MR".toList, .line "MC".toList]).map
          observe =
        (initial.serve [.line "MR".toList, .line "MR + MR".toList, .line "MC".toList]).map
          observe ∧
      (withLeftovers.serve [.line "MR".toList, .line "MR + MR".toList, .line "MC".toList]).drop 1 =
        (initial.serve [.line "MR".toList, .line "MR + MR".toList, .line "MC".toList]).drop 1 := by
  have hServe := serve_lines_of_registers_eq withLeftovers initial rfl
    ["MR".toList, "MR + MR".toList, "MC".toList]
  have hWords : (Line.ofText "MR + MR".toList).words =
      ["MR".toList, "+".toList, "MR".toList] := by decide
  have hBinary : ∃ left right operator, (withLeftovers.after [.line "MR".toList]).command
      (Line.ofText "MR + MR".toList).words = .ok (.binary left right operator) := by
    rw [hWords]
    exact ⟨_, _, .add, Command.ofWords_eq_ok_iff.mpr
      (.full (.recalled rfl) (by decide) (.recalled rfl))⟩
  exact ⟨by decide, rfl, hServe.1,
    hServe.2.2 ["MR".toList] "MR + MR".toList ["MC".toList] rfl hBinary⟩

end Calculator
end PocketCalc
