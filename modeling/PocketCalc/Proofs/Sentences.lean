import PocketCalc.Calculator
import PocketCalc.Proofs.Phrases

/-!
# The sentences that words can form

`Sentence` says which lists of words are commands, and which ones, as a grammar with three rules:
a standalone symbol; a joining symbol and an operand; or a joining symbol between two operands.
An operand is a numeral or the symbol of the memory recall, and `Denotes` is its value.

`Command.ofWords_eq_ok_iff` says that words form a command exactly if they are a sentence, and
`step_load_iff_sentence` what becomes of a calculator that loads them.

## Why the two passes amount to the grammar

The first pass gives each word its value and stops at an unknown word; the second looks for a
phrase of the tokens (`Phrase`). The three rules of a sentence are those of a phrase, so all that
is needed is what a word's token is good for: as an operand (`wordValue_eq_some_iff`), by itself
(`isAlone_reading_iff`) and between operands (`isJoint_reading_iff`). The symbol of the memory
recall is the one word that is good for two of them: it has a value, and it is standalone. It is
no joining symbol, so it never stands between operands.
-/

namespace PocketCalc

/-! ## The grammar -/

/-- A word that is an operand, and its value. -/
inductive Denotes (memory : Float) (word : Text) : Float → Prop where
  | numeral {value : Float} (h : Numeral.read? word = some value) : Denotes memory word value
  | recalled (h : asciiCapitals word = "MR") : Denotes memory word memory

/-- A word that is neither a numeral nor a symbol. -/
def IsUnknown (word : Text) : Prop :=
  Numeral.read? word = none ∧
    ∀ entry ∈ standaloneSymbols ++ joiningSymbols, asciiCapitals word ≠ entry.1

/-- The words of a command, given the registers. -/
inductive Sentence (registers : Registers) : List Text → Command → Prop where
  | standalone {word : Text} {operator : Operator}
      (h : (asciiCapitals word, operator) ∈ standaloneSymbols) :
      Sentence registers [word] (.standalone operator)
  | chained {joint right : Text} {operator : Operator} {y : Float}
      (hJoint : (asciiCapitals joint, operator) ∈ joiningSymbols)
      (hRight : Denotes registers.memory right y) :
      Sentence registers [joint, right] (.binary registers.result y operator)
  | full {left joint right : Text} {operator : Operator} {x y : Float}
      (hLeft : Denotes registers.memory left x)
      (hJoint : (asciiCapitals joint, operator) ∈ joiningSymbols)
      (hRight : Denotes registers.memory right y) :
      Sentence registers [left, joint, right] (.binary x y operator)

/-! ## What a word is good for -/

theorem asciiCapitals_eq_recall_iff {word : Text} :
    asciiCapitals word = "MR" ↔ Operator.ofSymbol? word = some .memoryRecall := by
  rw [Operator.ofSymbol?_eq_some_iff]
  rfl

namespace Token

/-- The token of a known word. -/
def reading (memory : Float) (word : Text) : Token := ⟨word, wordValue memory word⟩

theorem ofWord_of_isKnown {memory : Float} {word : Text} (h : isKnown word = true) :
    ofWord memory word = .ok (reading memory word) :=
  if_pos h

theorem ofWords_of_isKnown {memory : Float} {words : List Text}
    (h : ∀ word ∈ words, isKnown word = true) :
    ofWords memory words = .ok (words.map (reading memory)) := by
  induction words with
  | nil => rfl
  | cons word rest ih =>
    rw [List.forall_mem_cons] at h
    rw [ofWords, ofWord_of_isKnown h.1, ih h.2]
    rfl

theorem isKnown_of_ofWords {memory : Float} {words : List Text} {tokens : List Token}
    (h : ofWords memory words = .ok tokens) : ∀ word ∈ words, isKnown word = true := by
  induction words generalizing tokens with
  | nil => simp
  | cons word rest ih =>
    rw [List.forall_mem_cons]
    by_cases hKnown : isKnown word = true
    · rw [ofWords, ofWord_of_isKnown hKnown] at h
      cases hRest : ofWords memory rest with
      | error rejection => simp [hRest] at h
      | ok tokens' => exact ⟨hKnown, ih hRest⟩
    · simp [ofWords, ofWord, hKnown] at h

/-- Words have tokens exactly if each of them is known. -/
theorem ofWords_eq_ok_iff {memory : Float} {words : List Text} {tokens : List Token} :
    ofWords memory words = .ok tokens ↔
      (∀ word ∈ words, isKnown word = true) ∧ tokens = words.map (reading memory) := by
  constructor
  · intro h
    have hKnown := isKnown_of_ofWords h
    rw [ofWords_of_isKnown hKnown, Except.ok.injEq] at h
    exact ⟨hKnown, h.symm⟩
  · intro h
    rw [h.2]
    exact ofWords_of_isKnown h.1

theorem isKnown_of_ofSymbol? {word : Text} {operator : Operator}
    (h : Operator.ofSymbol? word = some operator) : isKnown word = true := by
  simp [isKnown, h]

/-- As an operand a word is worth what it denotes. -/
theorem wordValue_eq_some_iff {memory value : Float} {word : Text} :
    wordValue memory word = some value ↔ Denotes memory word value := by
  rw [wordValue]
  split
  · rename_i hRecall
    constructor
    · intro h
      cases h
      exact .recalled (asciiCapitals_eq_recall_iff.mpr hRecall)
    · intro h
      cases h with
      | numeral hNumeral =>
        rw [Numeral.read?_eq_none_of_ofSymbol? hRecall] at hNumeral
        cases hNumeral
      | recalled _ => rfl
  · rename_i hOther
    constructor
    · exact .numeral
    · intro h
      cases h with
      | numeral hNumeral => exact hNumeral
      | recalled hRecall => exact absurd (asciiCapitals_eq_recall_iff.mp hRecall) hOther

theorem isKnown_of_denotes {memory value : Float} {word : Text} (h : Denotes memory word value) :
    isKnown word = true := by
  cases h with
  | numeral hNumeral => simp [isKnown, isNumber, hNumeral]
  | recalled hRecall => exact isKnown_of_ofSymbol? (asciiCapitals_eq_recall_iff.mp hRecall)

/-- Of the symbols only that of the memory recall has a value. -/
theorem wordValue_of_ofSymbol? {memory : Float} {word : Text} {operator : Operator}
    (h : Operator.ofSymbol? word = some operator) :
    wordValue memory word = if operator = .memoryRecall then some memory else none := by
  rw [wordValue, h, Numeral.read?_eq_none_of_ofSymbol? h]
  simp

/-- By itself a word is a command exactly if it is a standalone symbol: of these only the memory
recall has a value. -/
theorem isAlone_reading_iff {memory : Float} {word : Text} {operator : Operator} :
    (reading memory word).IsAlone operator ↔
      (asciiCapitals word, operator) ∈ standaloneSymbols := by
  refine ⟨IsAlone.symbol, fun h => ⟨h, fun hOther => ?_⟩⟩
  show wordValue memory word = none
  rw [wordValue_of_ofSymbol? (mem_standaloneSymbols.mp h).1, if_neg hOther]

/-- Between operands a word is an operator exactly if it is a joining symbol. -/
theorem isJoint_reading_iff {memory : Float} {word : Text} {operator : Operator} :
    (reading memory word).IsJoint operator ↔
      (asciiCapitals word, operator) ∈ joiningSymbols := by
  refine ⟨IsJoint.symbol, fun h => ⟨h, ?_⟩⟩
  show wordValue memory word = none
  rw [wordValue_of_ofSymbol? (mem_joiningSymbols.mp h).1,
    if_neg (ne_memoryRecall_of_mem_joiningSymbols h)]

end Token

/-- The symbol of the memory recall denotes the memory and nothing else. -/
theorem denotes_recall_iff {word : Text} (h : asciiCapitals word = "MR") {memory value : Float} :
    Denotes memory word value ↔ value = memory := by
  have hRecalled : Denotes memory word memory := .recalled h
  rw [← Token.wordValue_eq_some_iff] at hRecalled ⊢
  rw [hRecalled, Option.some.injEq, eq_comm]

namespace Command

/-- A sentence is a phrase of the tokens that its words have. -/
theorem phrase_map_reading_iff {registers : Registers} {words : List Text} {command : Command} :
    Phrase registers.result (words.map (Token.reading registers.memory)) command ↔
      Sentence registers words command := by
  constructor
  · intro h
    match words with
    | [] => cases h
    | [word] =>
      cases h with
      | standalone hAlone => exact .standalone (Token.isAlone_reading_iff.mp hAlone)
    | [joint, right] =>
      cases h with
      | chained hJoint hRight =>
        exact .chained (Token.isJoint_reading_iff.mp hJoint)
          (Token.wordValue_eq_some_iff.mp hRight)
    | [left, joint, right] =>
      cases h with
      | full hLeft hJoint hRight =>
        exact .full (Token.wordValue_eq_some_iff.mp hLeft) (Token.isJoint_reading_iff.mp hJoint)
          (Token.wordValue_eq_some_iff.mp hRight)
    | _ :: _ :: _ :: _ :: _ => cases h
  · intro h
    cases h with
    | standalone hMem => exact .standalone (Token.isAlone_reading_iff.mpr hMem)
    | chained hJoint hRight =>
      exact .chained (Token.isJoint_reading_iff.mpr hJoint)
        (Token.wordValue_eq_some_iff.mpr hRight)
    | full hLeft hJoint hRight =>
      exact .full (Token.wordValue_eq_some_iff.mpr hLeft) (Token.isJoint_reading_iff.mpr hJoint)
        (Token.wordValue_eq_some_iff.mpr hRight)

/-- No sentence has an unknown word in it. -/
theorem isKnown_of_sentence {registers : Registers} {words : List Text} {command : Command}
    (h : Sentence registers words command) : ∀ word ∈ words, Token.isKnown word = true := by
  have hJoins {word : Text} {operator : Operator}
      (hMem : (asciiCapitals word, operator) ∈ joiningSymbols) : Token.isKnown word = true :=
    Token.isKnown_of_ofSymbol? (mem_joiningSymbols.mp hMem).1
  cases h with
  | standalone hMem =>
    simpa using Token.isKnown_of_ofSymbol? (mem_standaloneSymbols.mp hMem).1
  | chained hJoint hRight => simpa using ⟨hJoins hJoint, Token.isKnown_of_denotes hRight⟩
  | full hLeft hJoint hRight =>
    simpa using ⟨Token.isKnown_of_denotes hLeft, hJoins hJoint, Token.isKnown_of_denotes hRight⟩

/-- **Words form a command exactly if they are a sentence.** -/
theorem ofWords_eq_ok_iff {registers : Registers} {words : List Text} {command : Command} :
    ofWords registers.memory registers.result words = .ok command ↔
      Sentence registers words command := by
  rw [← phrase_map_reading_iff, ← ofTokens?_eq_some_iff, ofWords]
  cases hTokens : Token.ofWords registers.memory words with
  | error rejection =>
    simp only [reduceCtorEq, false_iff, ofTokens?_eq_some_iff, phrase_map_reading_iff]
    intro hSentence
    rw [Token.ofWords_of_isKnown (isKnown_of_sentence hSentence)] at hTokens
    cases hTokens
  | ok tokens =>
    obtain ⟨_, rfl⟩ := Token.ofWords_eq_ok_iff.mp hTokens
    simp only
    split
    · rename_i command' hCommand
      rw [hCommand, Except.ok.injEq, Option.some.injEq]
    · rename_i hNone
      simp [hNone]

end Command

/-! ## What is never a sentence -/

/-- Words that fail for one of four reasons: there are none or too many of them, one of them is
unknown, or the memory recall stands where an operator should. -/
def IsHopeless (words : List Text) : Prop :=
  (words = [] ∨ 3 < words.length) ∨ (∃ word ∈ words, IsUnknown word) ∨
    (∃ joint right, words = [joint, right] ∧ asciiCapitals joint = "MR") ∨
    ∃ left joint right, words = [left, joint, right] ∧ asciiCapitals joint = "MR"

theorem not_isKnown_of_isUnknown {word : Text} (h : IsUnknown word) :
    ¬ Token.isKnown word = true := by
  intro hKnown
  rw [Token.isKnown, Token.isNumber, h.1, Option.isSome_none, Bool.false_or,
    Option.isSome_iff_exists] at hKnown
  obtain ⟨operator, hSymbol⟩ := hKnown
  cases hStandalone : operator.isStandalone with
  | true =>
    have hMem := mem_standaloneSymbols.mpr ⟨hSymbol, hStandalone⟩
    exact h.2 _ (List.mem_append_left _ hMem) rfl
  | false =>
    have hMem := mem_joiningSymbols.mpr ⟨hSymbol, hStandalone⟩
    exact h.2 _ (List.mem_append_right _ hMem) rfl

theorem ne_recall_of_mem_joiningSymbols {word : Text} {operator : Operator}
    (h : (asciiCapitals word, operator) ∈ joiningSymbols) : asciiCapitals word ≠ "MR" := by
  intro hRecall
  have hSymbol := (mem_joiningSymbols.mp h).1
  rw [asciiCapitals_eq_recall_iff.mp hRecall, Option.some.injEq] at hSymbol
  exact ne_memoryRecall_of_mem_joiningSymbols h hSymbol.symm

theorem not_sentence_of_isHopeless {registers : Registers} {words : List Text}
    (h : IsHopeless words) : ¬∃ command, Sentence registers words command := by
  intro hCommand
  obtain ⟨command, hSentence⟩ := hCommand
  rcases h with (rfl | hMany) | ⟨word, hMem, hUnknown⟩ | ⟨joint, right, rfl, hRecall⟩ |
    ⟨left, joint, right, rfl, hRecall⟩
  · cases hSentence
  · cases hSentence <;> simp at hMany
  · exact not_isKnown_of_isUnknown hUnknown (Command.isKnown_of_sentence hSentence word hMem)
  · cases hSentence with
    | chained hJoint _ => exact ne_recall_of_mem_joiningSymbols hJoint hRecall
  · cases hSentence with
    | full _ hJoint _ => exact ne_recall_of_mem_joiningSymbols hJoint hRecall

namespace Calculator

/-! ## Loading a sentence -/

theorem step_load_of_sentence {calculator : Calculator} {words : List Text} {command : Command}
    (h : Sentence calculator.registers words command) :
    calculator.step (.load words) = (calculator.put command, .loaded) := by
  have hCommand : calculator.command words = .ok command := Command.ofWords_eq_ok_iff.mpr h
  simp [step, load, hCommand]

theorem step_load_of_not_sentence {calculator : Calculator} {words : List Text}
    (h : ¬∃ command, Sentence calculator.registers words command) :
    ∃ reason, calculator.step (.load words) = (calculator, .rejected reason) := by
  cases hCommand : calculator.command words with
  | ok command => exact absurd ⟨command, Command.ofWords_eq_ok_iff.mp hCommand⟩ h
  | error reason => exact ⟨reason, by simp [step, load, hCommand]⟩

/-- **What it takes to load words, and what it does.** Words are loaded exactly if they are a
sentence. A standalone symbol then leaves the operands alone, and the other sentences set them.
Words that are no sentence are invalid input and change nothing, and those that fail for one of
the four reasons are among them. -/
theorem step_load_iff_sentence (calculator : Calculator) (words : List Text) :
    (∀ after, calculator.step (.load words) = (after, .loaded) ↔
      (∃ operator, Sentence calculator.registers words (.standalone operator) ∧
        after = { calculator with operator }) ∨
      ∃ left right operator, Sentence calculator.registers words (.binary left right operator) ∧
        after = { calculator with left, right, operator }) ∧
    ((¬∃ command, Sentence calculator.registers words command) ↔
      (calculator.step (.load words)).1 = calculator ∧
        (calculator.step (.load words)).2.status? = some .invalidInput) ∧
    (IsHopeless words → (calculator.step (.load words)).1 = calculator ∧
      (calculator.step (.load words)).2.status? = some .invalidInput) := by
  have hRejected (h : ¬∃ command, Sentence calculator.registers words command) :
      (calculator.step (.load words)).1 = calculator ∧
        (calculator.step (.load words)).2.status? = some .invalidInput := by
    obtain ⟨reason, hStep⟩ := step_load_of_not_sentence h
    rw [hStep]
    exact ⟨rfl, rfl⟩
  refine ⟨fun after => ⟨fun h => ?_, ?_⟩, ⟨hRejected, ?_⟩,
    fun h => hRejected (not_sentence_of_isHopeless h)⟩
  · by_cases hSentence : ∃ command, Sentence calculator.registers words command
    · obtain ⟨command, hSentence⟩ := hSentence
      rw [step_load_of_sentence hSentence, Prod.mk.injEq] at h
      obtain ⟨rfl, _⟩ := h
      cases command with
      | standalone operator => exact .inl ⟨operator, hSentence, rfl⟩
      | binary left right operator => exact .inr ⟨left, right, operator, hSentence, rfl⟩
    · obtain ⟨reason, hStep⟩ := step_load_of_not_sentence hSentence
      rw [hStep] at h
      cases h
  · intro h
    obtain ⟨operator, hSentence, rfl⟩ | ⟨left, right, operator, hSentence, rfl⟩ := h
    · exact step_load_of_sentence hSentence
    · exact step_load_of_sentence hSentence
  · intro hRefused hCommand
    obtain ⟨_, hStatus⟩ := hRefused
    obtain ⟨command, hSentence⟩ := hCommand
    rw [step_load_of_sentence hSentence] at hStatus
    cases hStatus

/-- The memory recall between two operands. -/
theorem step_load_recall_between :
    IsHopeless ["5".toList, "MR".toList, "5".toList] ∧
      (initial.step (.load ["5".toList, "MR".toList, "5".toList])).1 = initial ∧
      (initial.step (.load ["5".toList, "MR".toList, "5".toList])).2.status? =
        some .invalidInput := by
  have hHopeless : IsHopeless ["5".toList, "MR".toList, "5".toList] :=
    .inr (.inr (.inr ⟨_, _, _, rfl, rfl⟩))
  exact ⟨hHopeless, (step_load_iff_sentence initial _).2.2 hHopeless⟩

end Calculator
end PocketCalc
