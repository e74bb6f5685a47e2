import PocketCalc.Proofs.Readback
import PocketCalc.Proofs.Respelling

/-!
# Operands that are spelled out

An operand can be left implicit in two ways. A line of two words has the last result for its left
operand, and the recall of the memory stands for the memory. `Calculator.enter_spelledOut` says that
it makes no difference to write out what is shown of the result or the memory instead, be the line a
command or not.

The two lines are parsed by different rules, one of which never looks at a numeral, so the argument
goes through the grammar. What is shown of a finite value is a numeral with just that value
(`denotes_write_iff`) and is no symbol. In a sentence of two or more words it is therefore good for
the same as the recall (`sameUse_recall_write`): an operand of that value, and no operator. A
sentence with an operand more in front says the same as the one without
(`sentence_write_result_iff`). Lines with the same sentences are processed alike, and where there is
no sentence both are rejected, although not always for the same reason (`process_congr`).

For a line of one word this fails: the recall by itself is a command, and a numeral is none.
-/

namespace PocketCalc

/-- A word as it stands, or what is shown of the memory in the place of its recall. -/
def IsSpelledOut (memory : Float) (word spelled : Text) : Prop :=
  spelled = word ∨ asciiCapitals word = "MR" ∧ spelled = Layout.plain.write memory

/-! ## Words that are good for the same -/

/-- Words that are good for the same beside other words: as operands they have the same values, and
as operators they are the same. -/
structure SameUse (memory : Float) (word other : Text) : Prop where
  denotes : ∀ value, Denotes memory word value ↔ Denotes memory other value
  joins : ∀ operator, (asciiCapitals word, operator) ∈ joiningSymbols ↔
    (asciiCapitals other, operator) ∈ joiningSymbols

theorem SameUse.refl (memory : Float) (word : Text) : SameUse memory word word :=
  ⟨fun _ => Iff.rfl, fun _ => Iff.rfl⟩

theorem SameUse.symm {memory : Float} {word other : Text} (h : SameUse memory word other) :
    SameUse memory other word :=
  ⟨fun value => (h.denotes value).symm, fun operator => (h.joins operator).symm⟩

/-- What is shown of a finite value denotes that value and no other. -/
theorem denotes_write_iff {x : Float} (h : Binary64.isFinite x = true) {memory value : Float} :
    Denotes memory (Layout.plain.write x) value ↔ value = x := by
  have hShown : Denotes memory (Layout.plain.write x) x := .numeral (Numeral.read?_write h)
  rw [← Token.wordValue_eq_some_iff] at hShown ⊢
  rw [hShown, Option.some.injEq, eq_comm]

/-- What is shown of a finite value joins no operands. -/
theorem write_not_mem_joiningSymbols {x : Float} (h : Binary64.isFinite x = true)
    (operator : Operator) : (asciiCapitals (Layout.plain.write x), operator) ∉ joiningSymbols := by
  intro hJoins
  have hNone := Numeral.read?_eq_none_of_ofSymbol? (mem_joiningSymbols.mp hJoins).1
  rw [Numeral.read?_write h] at hNone
  cases hNone

/-- The recall of the memory is good for the same as what is shown of the memory. -/
theorem sameUse_recall_write {memory : Float} (hFinite : Binary64.isFinite memory = true)
    {word : Text} (hRecall : asciiCapitals word = "MR") :
    SameUse memory word (Layout.plain.write memory) where
  denotes value := by rw [denotes_recall_iff hRecall, denotes_write_iff hFinite]
  joins operator := by
    have hWord : (asciiCapitals word, operator) ∉ joiningSymbols :=
      fun hJoins => ne_recall_of_mem_joiningSymbols hJoins hRecall
    simp only [hWord, write_not_mem_joiningSymbols hFinite operator]

/-! ## Sentences that say the same -/

theorem Sentence.of_sameUse {registers : Registers} {words others : List Text} {command : Command}
    (hSame : List.Forall₂ (SameUse registers.memory) words others) (hMany : 2 ≤ words.length)
    (h : Sentence registers words command) : Sentence registers others command := by
  cases h with
  | standalone _ => simp at hMany
  | chained hJoint hRight =>
    cases hSame with
    | cons hJoint' hSame =>
      cases hSame with
      | cons hRight' hSame =>
        cases hSame
        exact .chained ((hJoint'.joins _).mp hJoint) ((hRight'.denotes _).mp hRight)
  | full hLeft hJoint hRight =>
    cases hSame with
    | cons hLeft' hSame =>
      cases hSame with
      | cons hJoint' hSame =>
        cases hSame with
        | cons hRight' hSame =>
          cases hSame
          exact .full ((hLeft'.denotes _).mp hLeft) ((hJoint'.joins _).mp hJoint)
            ((hRight'.denotes _).mp hRight)

/-- Words that are good for the same, one by one, form the same commands. -/
theorem sentence_iff_of_sameUse {registers : Registers} {words others : List Text}
    (hSame : List.Forall₂ (SameUse registers.memory) words others) (hMany : 2 ≤ words.length)
    (command : Command) : Sentence registers words command ↔ Sentence registers others command := by
  have hFlip : List.Forall₂ (SameUse registers.memory) others words :=
    hSame.flip.imp fun _ _ h => h.symm
  exact ⟨Sentence.of_sameUse hSame hMany,
    Sentence.of_sameUse hFlip (hSame.length_eq ▸ hMany)⟩

/-- The last result in front of two words changes nothing of what they say. -/
theorem sentence_write_result_iff {registers : Registers}
    (h : Binary64.isFinite registers.result = true) (joint right : Text) (command : Command) :
    Sentence registers [joint, right] command ↔
      Sentence registers [Layout.plain.write registers.result, joint, right] command := by
  constructor
  · intro hSentence
    cases hSentence with
    | chained hJoint hRight => exact .full ((denotes_write_iff h).mpr rfl) hJoint hRight
  · intro hSentence
    cases hSentence with
    | full hLeft hJoint hRight =>
      rw [(denotes_write_iff h).mp hLeft]
      exact .chained hJoint hRight

/-! ## Short lines -/

/-- A line that is short enough and has few enough words is read as the upper cases of its words. -/
theorem Line.ofText_of_length_le {text : Text} (hLength : (Text.upper text).length ≤ 80)
    (hWords : (Text.words text).length ≤ 3) :
    ofText text = { words := (Text.words text).map Text.upper, isCut := false } := by
  have hAll : ((Text.words text).map Text.upper).take maxWords =
      (Text.words text).map Text.upper := List.take_of_length_le (by rwa [List.length_map])
  rw [ofText_of_fits hLength, hAll]
  simp [maxWords, Nat.not_lt.mpr hWords]

theorem Text.upper_plain_write {x : Float} (h : Binary64.isFinite x = true) :
    upper (Layout.plain.write x) = Layout.plain.write x :=
  upper_eq_self fun _ hc => isCapital_of_toNat (Layout.toNat_of_mem_plain_write h hc)

theorem Text.isWord_plain_write {x : Float} (h : Binary64.isFinite x = true) :
    IsWord (Layout.plain.write x) :=
  ⟨Layout.plain_write_ne_nil h, fun _ hc => isBlank_eq_false (Layout.toNat_of_mem_plain_write h hc)⟩

/-- Spelled out or not, words are good for the same once they are in upper case. -/
theorem IsSpelledOut.sameUse_upper {memory : Float} (hFinite : Binary64.isFinite memory = true)
    {word spelled : Text} (h : IsSpelledOut memory word spelled) :
    SameUse memory (Text.upper word) (Text.upper spelled) := by
  rcases h with rfl | ⟨hRecall, rfl⟩
  · exact SameUse.refl memory _
  · have hUpper : Text.upper word = "MR".toList :=
      calc Text.upper word
          = Text.upper "MR".toList := Text.upper_congr hRecall
        _ = "MR".toList := by decide
    rw [hUpper, Text.upper_plain_write hFinite]
    exact sameUse_recall_write hFinite rfl

namespace Calculator

/-- Words with the same sentences are processed alike. -/
theorem process_congr {calculator : Calculator} {words others : List Text}
    (h : ∀ command, Sentence calculator.registers words command ↔
      Sentence calculator.registers others command) :
    calculator.process words = calculator.process others := by
  cases hWords : calculator.command words with
  | ok command =>
    have hOthers : calculator.command others = .ok command :=
      Command.ofWords_eq_ok_iff.mpr ((h command).mp (Command.ofWords_eq_ok_iff.mp hWords))
    rw [process_of_command_ok hWords, process_of_command_ok hOthers]
  | error reason =>
    cases hOthers : calculator.command others with
    | ok command =>
      have hSame : calculator.command words = .ok command :=
        Command.ofWords_eq_ok_iff.mpr ((h command).mpr (Command.ofWords_eq_ok_iff.mp hOthers))
      rw [hWords] at hSame
      cases hSame
    | error reason' => rw [process_of_command_error hWords, process_of_command_error hOthers]

/-- Lines that are short enough to be read in full are processed alike if their words are. -/
theorem enter_congr {calculator : Calculator} {line other : Text}
    (hLine : (Text.upper line).length ≤ 80) (hOther : (Text.upper other).length ≤ 80)
    (hWords : (Text.words line).length ≤ 3) (hOthers : (Text.words other).length ≤ 3)
    (h : calculator.process ((Text.words line).map Text.upper) =
      calculator.process ((Text.words other).map Text.upper)) :
    calculator.enter line = calculator.enter other := by
  rw [enter, enter, Line.ofText_of_length_le hLine hWords, Line.ofText_of_length_le hOther hOthers]
  simp only [h, Line.truncation, Bool.false_eq_true, if_false]

theorem enter_write_result (calculator : Calculator)
    (hFinite : Binary64.isFinite calculator.registers.result = true) {u v : Text}
    (hu : Text.IsWord u) (hv : Text.IsWord v)
    (hLength : (Text.upper (Layout.plain.write calculator.registers.result ++
      ' ' :: (u ++ ' ' :: v))).length ≤ 80) :
    calculator.enter (u ++ ' ' :: v) =
      calculator.enter (Layout.plain.write calculator.registers.result ++
        ' ' :: (u ++ ' ' :: v)) := by
  have hBlank : Text.isBlank ' ' = true := by decide
  have hShown := Text.words_of_isWord (Text.isWord_plain_write hFinite)
  have hPair : Text.words (u ++ ' ' :: v) = [u, v] := by
    rw [Text.words_append_blank hBlank, Text.words_of_isWord hu, Text.words_of_isWord hv]
    rfl
  have hTriple : Text.words (Layout.plain.write calculator.registers.result ++
      ' ' :: (u ++ ' ' :: v)) = [Layout.plain.write calculator.registers.result, u, v] := by
    rw [Text.words_append_blank hBlank, hShown, hPair]
    rfl
  have hShorter : (Text.upper (u ++ ' ' :: v)).length ≤ 80 := by
    rw [Text.upper_append, Text.upper_cons, List.length_append, List.length_append] at hLength
    omega
  refine enter_congr hShorter hLength (by simp [hPair]) (by simp [hTriple]) ?_
  simp only [hPair, hTriple, List.map_cons, List.map_nil, Text.upper_plain_write hFinite]
  exact process_congr (sentence_write_result_iff hFinite _ _)

theorem enter_write_memory (calculator : Calculator)
    (hFinite : Binary64.isFinite calculator.registers.memory = true) {line spelled : Text}
    (hWords : 2 ≤ (Text.words line).length ∧ (Text.words line).length ≤ 3)
    (hSpelled : List.Forall₂ (IsSpelledOut calculator.registers.memory) (Text.words line)
      (Text.words spelled))
    (hLine : (Text.upper line).length ≤ 80) (hOther : (Text.upper spelled).length ≤ 80) :
    calculator.enter line = calculator.enter spelled := by
  refine enter_congr hLine hOther hWords.2 (hSpelled.length_eq ▸ hWords.2) ?_
  refine process_congr (sentence_iff_of_sameUse ?_ (by rw [List.length_map]; exact hWords.1))
  rw [List.forall₂_map_left_iff, List.forall₂_map_right_iff]
  exact hSpelled.imp fun _ _ h => h.sameUse_upper hFinite

/-- **Operands can be spelled out.** Two words are processed as they are with what is shown of the
last result in front of them, and a line of two or three words as it is with what is shown of the
memory in the place of any words that recall it: the same status, truncation and answer, and the
same calculator after it. The lines are to be short enough to be read in full, and the value that is
shown finite. -/
theorem enter_spelledOut (calculator : Calculator) :
    (Binary64.isFinite calculator.registers.result = true →
      ∀ u v : Text, Text.IsWord u → Text.IsWord v →
        let spelled := Layout.plain.write calculator.registers.result ++ ' ' :: (u ++ ' ' :: v)
        (Text.upper spelled).length ≤ 80 →
        calculator.enter (u ++ ' ' :: v) = calculator.enter spelled) ∧
    (Binary64.isFinite calculator.registers.memory = true →
      ∀ line spelled : Text, 2 ≤ (Text.words line).length ∧ (Text.words line).length ≤ 3 →
        List.Forall₂ (IsSpelledOut calculator.registers.memory) (Text.words line)
          (Text.words spelled) →
        (Text.upper line).length ≤ 80 → (Text.upper spelled).length ≤ 80 →
        calculator.enter line = calculator.enter spelled) := by
  constructor
  · intro hFinite u v hu hv spelled hLength
    exact enter_write_result calculator hFinite hu hv hLength
  · intro hFinite line spelled hWords hSpelled hLine hOther
    exact enter_write_memory calculator hFinite hWords hSpelled hLine hOther

/-- A calculator with a tenth in its memory and a negative zero for its result. -/
def withTenth : Calculator :=
  ofRegisters { memory := 0.1, result := Float.ofBits 0x8000000000000000 }

/-- A negative zero and a tenth are spelled out, the first with its sign. The lines of the second pair
are no commands, with the recall or without. -/
theorem enter_spelledOut_withTenth :
    Binary64.isFinite withTenth.registers.result = true ∧
      Binary64.isFinite withTenth.registers.memory = true ∧
      withTenth.enter "/ Mr".toList = withTenth.enter "-0 / Mr".toList ∧
      withTenth.enter "5 Mr mR".toList = withTenth.enter "5 0.1 mR".toList := by
  have hResult : Binary64.isFinite withTenth.registers.result = true := by decide
  have hMemory : Binary64.isFinite withTenth.registers.memory = true := by decide
  have hZero : Layout.plain.write withTenth.registers.result = "-0".toList := by decide
  have hTenth : Layout.plain.write withTenth.registers.memory = "0.1".toList := by decide +kernel
  obtain ⟨hFront, hPlace⟩ := enter_spelledOut withTenth
  have hWord {text : Text} (h : Text.words text = [text]) : Text.IsWord text :=
    Text.isWord_of_mem_words (h ▸ List.mem_singleton_self text)
  have hFirst := hFront hResult "/".toList "Mr".toList (hWord (by decide)) (hWord (by decide))
  rw [hZero] at hFirst
  have hSpelled : List.Forall₂ (IsSpelledOut withTenth.registers.memory)
      (Text.words "5 Mr mR".toList) (Text.words "5 0.1 mR".toList) := by
    have hLine : Text.words "5 Mr mR".toList = ["5".toList, "Mr".toList, "mR".toList] := by decide
    have hOther : Text.words "5 0.1 mR".toList = ["5".toList, "0.1".toList, "mR".toList] := by
      decide
    rw [hLine, hOther]
    exact .cons (.inl rfl) (.cons (.inr ⟨rfl, hTenth.symm⟩) (.cons (.inl rfl) .nil))
  exact ⟨hResult, hMemory, hFirst (by decide),
    hPlace hMemory _ _ (by decide) hSpelled (by decide) (by decide)⟩

end Calculator
end PocketCalc
