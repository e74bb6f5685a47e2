import PocketCalc.Proofs.Provenance
import PocketCalc.Proofs.Sentences

/-!
# Repeating a line

A line that is entered twice is answered twice in the same way, and the second time changes nothing,
unless it accumulates: it adds the result to the memory, subtracts it from there, or computes a new
result from the last one (`Calculator.Accumulates`). `Calculator.enter_enter` says so of every other
line, be it a command or not, and of any number of repetitions.

Two things have to come out the same the second time. The words have to form the same command, although
the registers that gave them their values have changed in the meantime (`Sentence.of_registers`); and
the command has to have nothing left to do (`Operator.apply_apply`). The second is true of all
operators but the two that accumulate in the memory, since none of the others reads the register that
it writes. The first is true of a command without operands, which reads no register, and of one with
two of them, which reads the memory alone. One that goes on from the last result reads both registers,
and it is here that the status matters: only a division that is refused leaves the result as it was.
-/

namespace PocketCalc

/-- What an operator does is done once and for all, unless it accumulates in the memory. -/
theorem Operator.apply_apply {operator : Operator} (hAdd : operator ≠ .memoryAdd)
    (hSubtract : operator ≠ .memorySubtract) (registers : Registers) (left right : Float) :
    operator.apply (operator.apply registers left right).1 left right =
      operator.apply registers left right := by
  cases operator with
  | memoryAdd => exact absurd rfl hAdd
  | memorySubtract => exact absurd rfl hSubtract
  | divide =>
    simp only [apply_divide]
    split <;> rfl
  | _ => rfl

/-- An operator between operands does not touch the memory. -/
theorem Operator.memory_apply_of_joins {operator : Operator} (h : operator.isStandalone = false)
    (registers : Registers) (left right : Float) :
    (operator.apply registers left right).1.memory = registers.memory := by
  cases operator with
  | divide =>
    simp only [apply_divide]
    split <;> rfl
  | add | subtract | multiply | power => rfl
  | memoryAdd | memorySubtract | memoryRecall | memoryClear | help | exit => cases h

/-- A sentence that sets two operands has an operator between them. -/
theorem Sentence.joins {registers : Registers} {words : List Text} {left right : Float}
    {operator : Operator} (h : Sentence registers words (.binary left right operator)) :
    operator.isStandalone = false :=
  (Command.phrase_map_reading_iff.mpr h).joins

/-- Words form the same command as long as the registers that they read hold the same: the memory if
there is an operand, and the result if there are two words. -/
theorem Sentence.of_registers {registers after : Registers} {words : List Text} {command : Command}
    (h : Sentence registers words command)
    (hMemory : command.operator.isStandalone = false → after.memory = registers.memory)
    (hResult : words.length = 2 → after.result = registers.result) :
    Sentence after words command := by
  cases h with
  | standalone hMem => exact .standalone hMem
  | chained hJoint hRight =>
    rw [← hMemory (mem_joiningSymbols.mp hJoint).2] at hRight
    rw [← hResult rfl]
    exact .chained hJoint hRight
  | full hLeft hJoint hRight =>
    rw [← hMemory (mem_joiningSymbols.mp hJoint).2] at hLeft hRight
    exact .full hLeft hJoint hRight

namespace Calculator

/-! ## One line, twice -/

/-- A line that has more to do each time: it adds to the memory, subtracts from it, or computes a
result from the one before. -/
inductive Accumulates (calculator : Calculator) (text : Text) : Prop
  | adds (h : calculator.command (Line.ofText text).words = .ok (.standalone .memoryAdd))
  | subtracts (h : calculator.command (Line.ofText text).words = .ok (.standalone .memorySubtract))
  | chains (hWords : (Line.ofText text).words.length = 2)
      (hStatus : (calculator.enter text).2.status = .ok)

/-- What is loaded already can be loaded again. -/
theorem put_execute_put (calculator : Calculator) (command : Command) :
    (calculator.put command).execute.1.put command = (calculator.put command).execute.1 := by
  cases command <;> rfl

theorem execute_execute {calculator : Calculator} (hAdd : calculator.operator ≠ .memoryAdd)
    (hSubtract : calculator.operator ≠ .memorySubtract) :
    calculator.execute.1.execute = calculator.execute := by
  have hApply := Operator.apply_apply hAdd hSubtract calculator.registers calculator.left
    calculator.right
  unfold execute
  dsimp only
  rw [hApply]

/-- A command that does not accumulate loads an operator that does not. -/
theorem operator_ne_of_not_accumulates {calculator : Calculator} {text : Text} {command : Command}
    (h : ¬ calculator.Accumulates text)
    (hCommand : calculator.command (Line.ofText text).words = .ok command) :
    command.operator ≠ .memoryAdd ∧ command.operator ≠ .memorySubtract := by
  have hSentence := Command.ofWords_eq_ok_iff.mp hCommand
  cases command with
  | standalone operator =>
    constructor
    · rintro rfl
      exact h (.adds hCommand)
    · rintro rfl
      exact h (.subtracts hCommand)
  | binary left right operator =>
    have hJoins := hSentence.joins
    constructor
    · rintro rfl
      cases hJoins
    · rintro rfl
      cases hJoins

/-- After a line that does not accumulate its words are still the command that they were. -/
theorem command_again {calculator : Calculator} {text : Text} {command : Command}
    (h : ¬ calculator.Accumulates text)
    (hCommand : calculator.command (Line.ofText text).words = .ok command) :
    (calculator.put command).execute.1.command (Line.ofText text).words = .ok command := by
  have hSentence := Command.ofWords_eq_ok_iff.mp hCommand
  refine Command.ofWords_eq_ok_iff.mpr (hSentence.of_registers (fun hJoins => ?_) fun hPair => ?_)
  · rw [← calculator.operator_put command] at hJoins
    exact (Operator.memory_apply_of_joins hJoins _ _ _).trans
      (congrArg Registers.memory (calculator.registers_put command))
  · have hStatus : (calculator.put command).execute.2 ≠ .ok := by
      intro hOk
      refine h (.chains hPair ?_)
      simp only [enter, process_of_command_ok hCommand]
      exact hOk
    exact (Operator.result_apply hStatus).trans
      (congrArg Registers.result (calculator.registers_put command))

/-- **One step**: the second time a line is entered it does what it did the first time, and leaves the
calculator as it is. -/
theorem enter_of_not_accumulates {calculator : Calculator} {text : Text}
    (h : ¬ calculator.Accumulates text) :
    (calculator.enter text).1.enter text = calculator.enter text := by
  cases hCommand : calculator.command (Line.ofText text).words with
  | error reason =>
    have hSame : (calculator.enter text).1 = calculator := by
      simp only [enter, process_of_command_error hCommand]
    rw [hSame]
  | ok command =>
    have hOperator := operator_ne_of_not_accumulates h hCommand
    rw [← calculator.operator_put command] at hOperator
    have hAgain := command_again h hCommand
    have hExecute : ((calculator.put command).execute.1.put command).execute =
        (calculator.put command).execute := by
      rw [put_execute_put, execute_execute hOperator.1 hOperator.2]
    have hEnter : (calculator.enter text).1 = (calculator.put command).execute.1 := by
      simp only [enter, process_of_command_ok hCommand]
    rw [hEnter]
    simp only [enter, process_of_command_ok hAgain, process_of_command_ok hCommand, hExecute]

/-! ## One line, many times -/

/-- Where a line changes nothing, it never will. -/
theorem outcomes_replicate {calculator : Calculator} {text : Text} {outcome : Outcome}
    (h : calculator.enter text = (calculator, outcome)) (count : Nat) :
    calculator.outcomes (List.replicate count text) = List.replicate count outcome ∧
      calculator.after ((List.replicate count text).map .line) = calculator := by
  induction count with
  | zero => exact ⟨rfl, rfl⟩
  | succ count ih =>
    simp only [List.replicate_succ, List.map_cons, outcomes, after, step, h]
    exact ⟨congrArg _ ih.1, ih.2⟩

/-- **Repeating a line is harmless** except where it has to accumulate. Any other line is answered the
second time as it was the first, with the same status, truncation and output, and leaves everything
in the calculator as it was after the first time; and so it goes on, however often it is repeated. -/
theorem enter_enter (calculator : Calculator) (text : Text) (h : ¬ calculator.Accumulates text) :
    let first := calculator.enter text
    let second := first.1.enter text
    (second.2 = first.2 ∧ second.1 = first.1) ∧
      ∀ count,
        calculator.outcomes (List.replicate (count + 1) text) =
            List.replicate (count + 1) first.2 ∧
          calculator.after ((List.replicate (count + 1) text).map .line) = first.1 := by
  intro first second
  have hSecond : first.1.enter text = (first.1, first.2) := enter_of_not_accumulates h
  refine ⟨⟨congrArg Prod.snd hSecond, congrArg Prod.fst hSecond⟩, fun count => ?_⟩
  obtain ⟨hOutcomes, hAfter⟩ := outcomes_replicate hSecond count
  exact ⟨congrArg (first.2 :: ·) hOutcomes, hAfter⟩

/-- A calculator whose last result is a seven. -/
def withSeven : Calculator := ofRegisters { memory := 0, result := 7 }

/-- A division that goes on from the last result and is refused. -/
theorem enter_enter_refused :
    ¬ withSeven.Accumulates "/ 9e-11".toList ∧
      (withSeven.enter "/ 9e-11".toList).2.status = .divisionByZero ∧
      (withSeven.enter "/ 9e-11".toList).1 ≠ withSeven ∧
      (withSeven.enter "/ 9e-11".toList).1.enter "/ 9e-11".toList =
        withSeven.enter "/ 9e-11".toList := by
  have hWords : (Line.ofText "/ 9e-11".toList).words = ["/".toList, "9E-11".toList] := by decide
  have hStatus : (withSeven.enter "/ 9e-11".toList).2.status = .divisionByZero := by
    decide +kernel
  have hRefused : ¬ withSeven.Accumulates "/ 9e-11".toList := by
    have hAlone (operator : Operator) :
        withSeven.command (Line.ofText "/ 9e-11".toList).words ≠ .ok (.standalone operator) := by
      rw [hWords]
      intro hCommand
      cases Command.ofWords_eq_ok_iff.mp hCommand
    rintro (hAdds | hSubtracts | ⟨_, hOk⟩)
    · exact hAlone _ hAdds
    · exact hAlone _ hSubtracts
    · rw [hStatus] at hOk
      cases hOk
  obtain ⟨hTwice, _⟩ := enter_enter withSeven "/ 9e-11".toList hRefused
  exact ⟨hRefused, hStatus, by decide +kernel, Prod.ext hTwice.2 hTwice.1⟩

end Calculator
end PocketCalc
