import PocketCalc.Proofs.KeptText
import PocketCalc.Proofs.Provenance
import PocketCalc.Proofs.Sentences

/-!
# The memory is read through its recall alone

Two calculators that hold the same but for the memory (`Calculator.AgreeButMemory`) cannot be told
apart by lines without the recall of the memory, except by what is shown of the memory itself.
`Calculator.serve_lines_of_agreeButMemory` says so of runs, and that a line which clears the memory
ends the difference: from there on the two are one and the same calculator, and the recall tells
nothing either.

## The two ways in

The memory gets at the other fields in two places. Where words are given values, it is the value of
the recall's symbol and of no other word (`Token.ofWords_congr`). Where a command is executed, it is
read by the operators that add to it, subtract from it and recall it; the first two write it back
where it came from, and the third is not loaded by a line that lacks its symbol
(`Sentence.mem_of_memoryRecall`). So one line keeps the relation, and a run keeps it by induction.

A calculator may hold the recall as an operator that is left over. That is no third way, since a
line executes only what it has loaded itself.
-/

namespace PocketCalc

/-- Two calculators that hold the same but for the memory. -/
structure Calculator.AgreeButMemory (c d : Calculator) : Prop where
  result : c.registers.result = d.registers.result
  left : c.left = d.left
  right : c.right = d.right
  operator : c.operator = d.operator

/-- Two outcomes that tell the same, but for an answer that shows the memory. -/
structure Outcome.AgreeButMemory (o p : Outcome) : Prop where
  status : o.status = p.status
  truncation : o.truncation = p.truncation
  output : o.status ≠ .memory → o.output = p.output

/-- Two lines that were served alike but for the memory: the states after them, and the replies. -/
inductive ServedAgreeButMemory : Calculator × Reply → Calculator × Reply → Prop where
  | line {c d : Calculator} {o p : Outcome} (hState : c.AgreeButMemory d)
      (hOutcome : o.AgreeButMemory p) : ServedAgreeButMemory (c, .line o) (d, .line p)

/-! ## Words and their values -/

theorem Token.wordValue_congr {word : Text}
    (h : Operator.ofSymbol? word ≠ some .memoryRecall) (memory memory' : Float) :
    wordValue memory word = wordValue memory' word := by
  rw [wordValue, wordValue, if_neg h, if_neg h]

/-- Words have the same values whatever the memory holds, if none of them recalls it. -/
theorem Token.ofWords_congr {words : List Text}
    (h : ∀ word ∈ words, Operator.ofSymbol? word ≠ some .memoryRecall) (memory memory' : Float) :
    ofWords memory words = ofWords memory' words := by
  induction words with
  | nil => rfl
  | cons word rest ih =>
    rw [List.forall_mem_cons] at h
    rw [ofWords, ofWords, ofWord, ofWord, wordValue_congr h.1 memory memory', ih h.2]

/-- The only sentence that loads the recall of the memory is its symbol. -/
theorem Sentence.mem_of_memoryRecall {registers : Registers} {words : List Text}
    {command : Command} (h : Sentence registers words command)
    (hRecall : command.operator = .memoryRecall) :
    ∃ word ∈ words, Operator.ofSymbol? word = some .memoryRecall := by
  cases h with
  | @standalone word operator hMem =>
    have hOperator : operator = .memoryRecall := hRecall
    exact ⟨word, List.mem_cons_self .., hOperator ▸ (mem_standaloneSymbols.mp hMem).1⟩
  | chained hJoint _ => exact absurd hRecall (ne_memoryRecall_of_mem_joiningSymbols hJoint)
  | full _ hJoint _ => exact absurd hRecall (ne_memoryRecall_of_mem_joiningSymbols hJoint)

/-- A kept word is the symbol of the recall only if it is `MR`. -/
theorem Line.eq_of_ofSymbol?_memoryRecall {text word : Text} (h : word ∈ (ofText text).words)
    (hRecall : Operator.ofSymbol? word = some .memoryRecall) : word = "MR".toList := by
  have hCapital : ∀ c ∈ word, c.toUpper = c := by
    intro c hc
    have hLower := (isCapital_of_mem_ofText h hc).isLower_eq_false
    exact Char.toUpper_eq_of_not_isLower (by simp [hLower])
  calc word
      = word.map Char.toUpper := ((List.map_congr_left hCapital).trans (List.map_id' word)).symm
    _ = "MR".toList := by
        rw [← asciiCapitals_eq_recall_iff.mpr hRecall, asciiCapitals, String.toList_ofList]

/-! ## One line -/

/-- What an operator does to the result, and how it says it went, does not depend on the memory
unless it recalls it. -/
theorem Operator.apply_agree {operator : Operator} (h : operator ≠ .memoryRecall)
    {registers registers' : Registers} (hResult : registers.result = registers'.result)
    (left right : Float) :
    (operator.apply registers left right).1.result =
        (operator.apply registers' left right).1.result ∧
      (operator.apply registers left right).2 = (operator.apply registers' left right).2 := by
  cases operator with
  | memoryRecall => exact absurd rfl h
  | divide =>
    simp only [apply_divide]
    split
    · exact ⟨hResult, rfl⟩
    · exact ⟨rfl, rfl⟩
  | memoryAdd | memorySubtract | memoryClear | help | exit => exact ⟨hResult, rfl⟩
  | add | subtract | multiply | power => exact ⟨rfl, rfl⟩

theorem Message.render_agree {status : Status} (h : status ≠ .memory)
    {registers registers' : Registers} (hResult : registers.result = registers'.result) :
    render status registers = render status registers' := by
  cases status with
  | memory => exact absurd rfl h
  | ok => rw [render, render, hResult]
  | help | invalidInput | divisionByZero | exit => rfl

namespace Calculator

variable {c d : Calculator}

theorem AgreeButMemory.put (h : c.AgreeButMemory d) (command : Command) :
    (c.put command).AgreeButMemory (d.put command) := by
  cases command with
  | standalone operator => exact ⟨h.result, h.left, h.right, rfl⟩
  | binary left right operator => exact ⟨h.result, rfl, rfl, rfl⟩

theorem AgreeButMemory.execute (h : c.AgreeButMemory d) (hRecall : c.operator ≠ .memoryRecall) :
    c.execute.1.AgreeButMemory d.execute.1 ∧ c.execute.2 = d.execute.2 := by
  have hApply := Operator.apply_agree hRecall h.result c.left c.right
  simp only [Calculator.execute, ← h.left, ← h.right, ← h.operator]
  exact ⟨⟨hApply.1, rfl, rfl, rfl⟩, hApply.2⟩

theorem AgreeButMemory.command_eq (h : c.AgreeButMemory d) {words : List Text}
    (hNone : ∀ word ∈ words, Operator.ofSymbol? word ≠ some .memoryRecall) :
    c.command words = d.command words := by
  rw [Calculator.command, Calculator.command, Command.ofWords, Command.ofWords, h.result,
    Token.ofWords_congr hNone c.registers.memory d.registers.memory]

/-- **One step**: a line that does not recall the memory keeps two calculators the same but for it,
and is answered alike unless the answer shows it. -/
theorem AgreeButMemory.enter (h : c.AgreeButMemory d) {text : Text}
    (hNone : "MR".toList ∉ (Line.ofText text).words) :
    (c.enter text).1.AgreeButMemory (d.enter text).1 ∧
      (c.enter text).2.AgreeButMemory (d.enter text).2 := by
  have hSymbols : ∀ word ∈ (Line.ofText text).words,
      Operator.ofSymbol? word ≠ some .memoryRecall := by
    intro word hMem hRecall
    exact hNone (Line.eq_of_ofSymbol?_memoryRecall hMem hRecall ▸ hMem)
  have hProcess : (c.process (Line.ofText text).words).1.AgreeButMemory
        (d.process (Line.ofText text).words).1 ∧
      (c.process (Line.ofText text).words).2 = (d.process (Line.ofText text).words).2 := by
    have hSame := h.command_eq hSymbols
    cases hCommand : c.command (Line.ofText text).words with
    | error reason =>
      rw [process_of_command_error hCommand, process_of_command_error (hSame ▸ hCommand)]
      exact ⟨h, rfl⟩
    | ok command =>
      rw [process_of_command_ok hCommand, process_of_command_ok (hSame ▸ hCommand)]
      refine (h.put command).execute fun hRecall => ?_
      rw [operator_put] at hRecall
      obtain ⟨word, hMem, hSymbol⟩ :=
        (Command.ofWords_eq_ok_iff.mp hCommand).mem_of_memoryRecall hRecall
      exact hSymbols word hMem hSymbol
  obtain ⟨hState, hStatus⟩ := hProcess
  refine ⟨hState, hStatus, rfl, fun hShown => ?_⟩
  simp only [Calculator.enter] at hShown ⊢
  rw [← hStatus]
  exact Message.render_agree hShown hState.result

/-- Clearing the memory ends the difference. -/
theorem AgreeButMemory.enter_clear (h : c.AgreeButMemory d) {text : Text}
    (hClear : (Line.ofText text).words = ["MC".toList]) : c.enter text = d.enter text := by
  have hCommand (e : Calculator) :
      e.command (Line.ofText text).words = .ok (.standalone .memoryClear) := by
    rw [hClear]
    exact Command.ofWords_eq_ok_iff.mpr (.standalone (by decide))
  obtain ⟨⟨memory, result⟩, left, right, operator⟩ := c
  obtain ⟨⟨memory', result'⟩, left', right', operator'⟩ := d
  obtain ⟨hResult, hLeft, hRight, _⟩ := h
  subst hResult hLeft hRight
  simp only [Calculator.enter, process_of_command_ok (hCommand _)]
  rfl

/-! ## Many lines -/

/-- Lines without the recall keep two runs the same but for the memory, the states and the
replies. -/
theorem AgreeButMemory.serve_lines (h : c.AgreeButMemory d) {texts : List Text}
    (hNone : ∀ text ∈ texts, "MR".toList ∉ (Line.ofText text).words) :
    List.Forall₂ ServedAgreeButMemory (c.serve (texts.map .line)) (d.serve (texts.map .line)) ∧
      (c.after (texts.map .line)).AgreeButMemory (d.after (texts.map .line)) := by
  induction texts generalizing c d with
  | nil => exact ⟨.nil, h⟩
  | cons text rest ih =>
    rw [List.forall_mem_cons] at hNone
    obtain ⟨hState, hOutcome⟩ := h.enter hNone.1
    obtain ⟨hServe, hAfter⟩ := ih hState hNone.2
    exact ⟨.cons (.line hState hOutcome) hServe, hAfter⟩

/-- **The memory is read through its recall alone, and forgotten once it is cleared.** Calculators
that hold the same but for the memory stay so through lines none of whose kept words is the recall,
and answer them alike in status and truncation, and in output but where the memory is shown. From a
line on that clears the memory they are equal in everything, whatever lines come later. -/
theorem serve_lines_of_agreeButMemory (c d : Calculator) (h : c.AgreeButMemory d)
    (texts : List Text) (hNone : ∀ text ∈ texts, "MR".toList ∉ (Line.ofText text).words) :
    List.Forall₂ ServedAgreeButMemory (c.serve (texts.map .line)) (d.serve (texts.map .line)) ∧
      ∀ (clear : Text) (later : List Text), (Line.ofText clear).words = ["MC".toList] →
        (c.serve ((texts ++ clear :: later).map .line)).drop texts.length =
          (d.serve ((texts ++ clear :: later).map .line)).drop texts.length := by
  obtain ⟨hServe, hAfter⟩ := h.serve_lines hNone
  refine ⟨hServe, fun clear later hClear => ?_⟩
  rw [drop_serve_lines, drop_serve_lines]
  simp only [List.map_cons, serve, step, hAfter.enter_clear hClear]

/-- A calculator at the start of a session but for a one in its memory. -/
def withMemory : Calculator := ofRegisters { memory := 1, result := 0 }

/-- The difference is there to begin with and shown by the first line. The second line ends it, so
that the third, which recalls the memory, does not show it again. -/
theorem serve_lines_withMemory :
    withMemory.AgreeButMemory initial ∧ withMemory ≠ initial ∧
      "MR".toList ∉ (Line.ofText "m+".toList).words ∧
      (Line.ofText "mc".toList).words = ["MC".toList] ∧
      List.Forall₂ ServedAgreeButMemory (withMemory.serve [.line "m+".toList])
        (initial.serve [.line "m+".toList]) ∧
      (withMemory.serve [.line "m+".toList, .line "mc".toList, .line "mr + 1".toList]).drop 1 =
        (initial.serve [.line "m+".toList, .line "mc".toList, .line "mr + 1".toList]).drop 1 := by
  have hAgree : withMemory.AgreeButMemory initial := ⟨rfl, rfl, rfl, rfl⟩
  have hNone : "MR".toList ∉ (Line.ofText "m+".toList).words := by decide
  have hClear : (Line.ofText "mc".toList).words = ["MC".toList] := by decide
  have hServe := serve_lines_of_agreeButMemory withMemory initial hAgree ["m+".toList]
    (List.forall_mem_singleton.mpr hNone)
  exact ⟨hAgree, by decide, hNone, hClear, hServe.1,
    hServe.2 "mc".toList ["mr + 1".toList] hClear⟩

end Calculator
end PocketCalc
