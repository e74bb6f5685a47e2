import PocketCalc.Proofs.KeptText
import PocketCalc.Proofs.Provenance
import PocketCalc.Proofs.RecordTexts
import PocketCalc.Proofs.Sentences

/-!
# The log of a line

What is logged for a line is told by the line, by how it ended and by the registers after it. `Story`
says what there is to tell, in one of three versions: there is a word that is neither a number nor a
symbol; there is none, and the words are no command all the same; or they are one, and it was
executed. `Calculator.story_iff_enterRecords` says that the records of a line in ASCII are this story
and no other, and that they are printed as `Prints` spells it out.

The records are made on the way, by parts of the program that do not know how the line is going to
end, and left out where one of these parts gives up. So the three versions are three ways through all
of them. The words up to the first unknown one are recorded in each (`wordRecords_append_unknown`,
`wordRecords_of_known`), and what ends a version is what ends the way.

The fourth way is one that no line goes. An operator without an operation would be warned of, and
every operator has one (`Operator.exists_operation`).
-/

namespace PocketCalc

/-! ## What there is to tell -/

namespace Story

/-- What comes first, whatever the words are: what is left of the line, if it was cut, and the words
that are kept. -/
def heading (outcome : Outcome) (words : List Text) : List Record :=
  (outcome.truncation.map Record.truncated).toList ++ [.split words]

/-- That a word is known, and whether it is a number by itself. -/
def recognized (word : Text) : Record := .known word (Numeral.read? word).isSome

end Story

/-- The story of a line that has the given words and ends as it does. It is told from the registers
before the line and after it. -/
inductive Story (before after : Registers) (words : List Text) (outcome : Outcome) :
    List Record → Prop where
  | unknownWord {known later : List Text} {word : Text} (hWords : words = known ++ word :: later)
      (hKnown : ∀ word ∈ known, ¬ IsUnknown word) (hUnknown : IsUnknown word)
      (hStatus : outcome.status = .invalidInput) :
      Story before after words outcome
        (Story.heading outcome words ++ known.map Story.recognized ++ [.unknown word])
  | noCommand (hKnown : ∀ word ∈ words, ¬ IsUnknown word)
      (hStatus : outcome.status = .invalidInput) :
      Story before after words outcome (Story.heading outcome words ++ words.map Story.recognized)
  | executed {command : Command} (hKnown : ∀ word ∈ words, ¬ IsUnknown word)
      (hStatus : outcome.status ≠ .invalidInput) (hCommand : Sentence before words command) :
      Story before after words outcome
        (Story.heading outcome words ++ words.map Story.recognized ++
          [.resolved command, .executed command.operator outcome.status after])

/-! ## Known words -/

theorem Token.isKnown_iff {word : Text} : isKnown word = true ↔ ¬ IsUnknown word := by
  constructor
  · exact fun hKnown hUnknown => not_isKnown_of_isUnknown hUnknown hKnown
  · intro h
    by_contra hKnown
    rw [isKnown, isNumber, Bool.or_eq_true, not_or, Option.not_isSome_iff_eq_none,
      Option.not_isSome_iff_eq_none] at hKnown
    refine h ⟨hKnown.1, fun entry hMem hSame => ?_⟩
    have hEntry : (asciiCapitals word, entry.2) ∈ standaloneSymbols ++ joiningSymbols := by
      rw [hSame]
      exact hMem
    rcases List.mem_append.mp hEntry with hAlone | hJoins
    · rw [(mem_standaloneSymbols.mp hAlone).1] at hKnown
      cases hKnown.2
    · rw [(mem_joiningSymbols.mp hJoins).1] at hKnown
      cases hKnown.2

namespace Calculator

/-! ## The records of words -/

theorem wordRecords_append {known : List Text} (h : ∀ word ∈ known, ¬ IsUnknown word)
    (rest : List Text) :
    wordRecords (known ++ rest) = known.map Story.recognized ++ wordRecords rest := by
  induction known with
  | nil => rfl
  | cons word known ih =>
    obtain ⟨hWord, hKnown⟩ := List.forall_mem_cons.mp h
    rw [List.cons_append, wordRecords, if_pos (Token.isKnown_iff.mpr hWord), ih hKnown]
    rfl

theorem wordRecords_of_known {words : List Text} (h : ∀ word ∈ words, ¬ IsUnknown word) :
    wordRecords words = words.map Story.recognized := by
  have hAppend := wordRecords_append h []
  rwa [wordRecords, List.append_nil, List.append_nil] at hAppend

theorem wordRecords_append_unknown {known : List Text} {word : Text}
    (hKnown : ∀ word ∈ known, ¬ IsUnknown word) (hUnknown : IsUnknown word) (later : List Text) :
    wordRecords (known ++ word :: later) = known.map Story.recognized ++ [.unknown word] := by
  have hNot : ¬ Token.isKnown word = true := not_isKnown_of_isUnknown hUnknown
  rw [wordRecords_append hKnown, wordRecords, if_neg hNot]

/-- Of the words that are not all known one is the first that is not. -/
theorem exists_first_unknown {words : List Text} (h : ¬ ∀ word ∈ words, ¬ IsUnknown word) :
    ∃ known word later, words = known ++ word :: later ∧
      (∀ word ∈ known, ¬ IsUnknown word) ∧ IsUnknown word := by
  induction words with
  | nil => exact absurd (fun _ hMem => absurd hMem List.not_mem_nil) h
  | cons word rest ih =>
    by_cases hWord : IsUnknown word
    · exact ⟨[], word, rest, rfl, fun _ hMem => absurd hMem List.not_mem_nil, hWord⟩
    · have hRest : ¬ ∀ word ∈ rest, ¬ IsUnknown word :=
        fun hKnown => h (List.forall_mem_cons.mpr ⟨hWord, hKnown⟩)
      obtain ⟨known, unknown, later, rfl, hKnown, hUnknown⟩ := ih hRest
      exact ⟨word :: known, unknown, later, rfl, List.forall_mem_cons.mpr ⟨hWord, hKnown⟩,
        hUnknown⟩

/-! ## The records of a line -/

theorem lineRecords_eq_heading (calculator : Calculator) (text : Text) :
    lineRecords (Line.ofText text) =
      Story.heading (calculator.enter text).2 (Line.ofText text).words := by
  show _ = ((Line.ofText text).truncation.map Record.truncated).toList ++ _
  rw [lineRecords, Line.truncation]
  cases (Line.ofText text).isCut <;> rfl

/-- An execution is recorded with the operator that was loaded and with what came of it. -/
theorem executeRecords_eq (calculator : Calculator) :
    calculator.executeRecords =
      [.executed calculator.operator calculator.execute.2 calculator.execute.1.registers] := by
  obtain ⟨operation, hOperation⟩ := calculator.operator.exists_operation
  rw [executeRecords, execute, Operator.apply, hOperation]

section

variable {calculator : Calculator} {text : Text}

theorem enterRecords_of_error {reason : Rejection}
    (h : calculator.command (Line.ofText text).words = .error reason) :
    calculator.enterRecords text =
      Story.heading (calculator.enter text).2 (Line.ofText text).words ++
        wordRecords (Line.ofText text).words := by
  simp only [enterRecords, loadRecords, load, h, List.append_nil, lineRecords_eq_heading calculator]

theorem enterRecords_of_ok {command : Command}
    (h : calculator.command (Line.ofText text).words = .ok command) :
    calculator.enterRecords text =
      Story.heading (calculator.enter text).2 (Line.ofText text).words ++
        wordRecords (Line.ofText text).words ++
        [.resolved command, .executed command.operator (calculator.enter text).2.status
          (calculator.enter text).1.registers] := by
  have hEnter : ((calculator.enter text).2.status, (calculator.enter text).1) =
      ((calculator.put command).execute.2, (calculator.put command).execute.1) := by
    simp only [enter, process_of_command_ok h]
  obtain ⟨hStatus, hAfter⟩ := Prod.mk.inj hEnter
  simp only [enterRecords, loadRecords, load, h, executeRecords_eq,
    lineRecords_eq_heading calculator, hStatus, hAfter, operator_put, List.append_assoc]
  rfl

/-- A line is invalid input just if its words are no command. -/
theorem status_enter_eq_invalidInput_iff :
    (calculator.enter text).2.status = .invalidInput ↔
      ∃ reason, calculator.command (Line.ofText text).words = .error reason := by
  cases hCommand : calculator.command (Line.ofText text).words with
  | error reason => simp [enter, process_of_command_error hCommand]
  | ok command =>
    have hStatus : (calculator.enter text).2.status = (calculator.put command).execute.2 := by
      simp only [enter, process_of_command_ok hCommand]
    have hExecuted : (calculator.put command).execute.2 ≠ .invalidInput :=
      Operator.apply_ne_invalidInput _ _ _ _
    rw [hStatus]
    exact iff_of_false hExecuted (by simp)

/-- Words with an unknown one among them are no command. -/
theorem command_of_isUnknown {word : Text} (hMem : word ∈ (Line.ofText text).words)
    (hUnknown : IsUnknown word) :
    ∃ reason, calculator.command (Line.ofText text).words = .error reason := by
  cases hCommand : calculator.command (Line.ofText text).words with
  | error reason => exact ⟨reason, rfl⟩
  | ok command =>
    have hKnown := Command.isKnown_of_sentence (Command.ofWords_eq_ok_iff.mp hCommand) word hMem
    exact absurd hKnown (not_isKnown_of_isUnknown hUnknown)

/-- The first unknown word ends the records. -/
theorem enterRecords_of_isUnknown {known later : List Text} {word : Text}
    (hWords : (Line.ofText text).words = known ++ word :: later)
    (hKnown : ∀ word ∈ known, ¬ IsUnknown word) (hUnknown : IsUnknown word) :
    calculator.enterRecords text =
      Story.heading (calculator.enter text).2 (Line.ofText text).words ++
        known.map Story.recognized ++ [.unknown word] := by
  have hMem : word ∈ (Line.ofText text).words := by simp [hWords]
  obtain ⟨reason, hCommand⟩ := command_of_isUnknown hMem hUnknown
  have hRecords := wordRecords_append_unknown hKnown hUnknown later
  rw [← hWords] at hRecords
  rw [enterRecords_of_error hCommand, hRecords, List.append_assoc]

/-- The records are a story. -/
theorem story_enterRecords :
    Story calculator.registers (calculator.enter text).1.registers (Line.ofText text).words
      (calculator.enter text).2 (calculator.enterRecords text) := by
  by_cases hKnown : ∀ word ∈ (Line.ofText text).words, ¬ IsUnknown word
  · cases hCommand : calculator.command (Line.ofText text).words with
    | error reason =>
      rw [enterRecords_of_error hCommand, wordRecords_of_known hKnown]
      exact .noCommand hKnown (status_enter_eq_invalidInput_iff.mpr ⟨reason, hCommand⟩)
    | ok command =>
      rw [enterRecords_of_ok hCommand, wordRecords_of_known hKnown]
      refine .executed hKnown (fun hStatus => ?_) (Command.ofWords_eq_ok_iff.mp hCommand)
      obtain ⟨reason, hReason⟩ := status_enter_eq_invalidInput_iff.mp hStatus
      rw [hCommand] at hReason
      cases hReason
  · obtain ⟨known, word, later, hWords, hBefore, hUnknown⟩ := exists_first_unknown hKnown
    have hMem : word ∈ (Line.ofText text).words := by simp [hWords]
    have hRejected : ∃ reason, calculator.command (Line.ofText text).words = .error reason :=
      command_of_isUnknown hMem hUnknown
    rw [enterRecords_of_isUnknown hWords hBefore hUnknown]
    exact .unknownWord hWords hBefore hUnknown (status_enter_eq_invalidInput_iff.mpr hRejected)

/-- A story is the records. -/
theorem eq_enterRecords_of_story {story : List Record}
    (h : Story calculator.registers (calculator.enter text).1.registers (Line.ofText text).words
      (calculator.enter text).2 story) :
    story = calculator.enterRecords text := by
  cases h with
  | unknownWord hWords hBefore hUnknown =>
    exact (enterRecords_of_isUnknown hWords hBefore hUnknown).symm
  | noCommand hKnown hStatus =>
    obtain ⟨reason, hCommand⟩ := status_enter_eq_invalidInput_iff.mp hStatus
    rw [enterRecords_of_error hCommand, wordRecords_of_known hKnown]
  | executed hKnown _ hSentence =>
    rw [enterRecords_of_ok (Command.ofWords_eq_ok_iff.mpr hSentence),
      wordRecords_of_known hKnown]

end

end Calculator

/-! ## Lines in ASCII -/

/-- The words of a line in ASCII are in ASCII. -/
theorem Line.isAscii_of_mem_ofText {text word : Text} (hAscii : text.IsAscii)
    (h : word ∈ (ofText text).words) : word.IsAscii := by
  have hCapital : ∀ code < 0x80, (Char.ofNat code).toUpper.toNat < 0x80 := by decide +kernel
  intro c hc
  have hUpper : c ∈ Text.upper text :=
    List.mem_of_mem_take (Text.mem_of_mem_words ((sublist_words_ofText text).subset h) hc)
  obtain ⟨source, hSource, hMem⟩ := List.mem_flatMap.mp hUpper
  have hCode := hCapital source.toNat (hAscii source hSource)
  rw [Text.upperChar_ascii (hAscii source hSource), List.mem_singleton] at hMem
  rwa [hMem, ← Char.ofNat_toNat source]

theorem Line.isAscii_text {text : Text} (hAscii : text.IsAscii) : (ofText text).text.IsAscii := by
  intro c hc
  rcases Text.mem_joinWords hc with rfl | ⟨word, hWord, hMem⟩
  · decide
  · exact isAscii_of_mem_ofText hAscii hWord c hMem

namespace Story

variable {before after : Registers} {words : List Text} {outcome : Outcome} {story : List Record}

/-- A story about texts in ASCII can be printed. -/
theorem isPrintable (h : Story before after words outcome story)
    (hWords : ∀ word ∈ words, word.IsAscii) (hKept : ∀ kept ∈ outcome.truncation, kept.IsAscii) :
    ∀ record ∈ story, record.IsPrintable := by
  have hHeading : ∀ record ∈ heading outcome words, record.IsPrintable := by
    refine List.forall_mem_append.mpr ⟨fun record hRecord => ?_, List.forall_mem_singleton.mpr hWords⟩
    obtain ⟨kept, hTruncation, rfl⟩ := Option.map_eq_some_iff.mp (Option.mem_toList.mp hRecord)
    exact hKept kept hTruncation
  have hRecognized {known : List Text} (hKnown : ∀ word ∈ known, word.IsAscii) :
      ∀ record ∈ known.map recognized, record.IsPrintable :=
    List.forall_mem_map.mpr hKnown
  cases h with
  | @unknownWord known later word hSplit =>
    rw [hSplit, List.forall_mem_append, List.forall_mem_cons] at hWords
    refine List.forall_mem_append.mpr ⟨List.forall_mem_append.mpr ⟨hHeading, ?_⟩, ?_⟩
    · exact hRecognized hWords.1
    · exact List.forall_mem_singleton.mpr hWords.2.1
  | noCommand => exact List.forall_mem_append.mpr ⟨hHeading, hRecognized hWords⟩
  | executed =>
    refine List.forall_mem_append.mpr
      ⟨List.forall_mem_append.mpr ⟨hHeading, hRecognized hWords⟩, ?_⟩
    exact List.forall_mem_cons.mpr ⟨trivial, List.forall_mem_singleton.mpr trivial⟩

/-- A word that is recorded as a number is one by itself. -/
theorem isSome_read?_of_mem (h : Story before after words outcome story) {word : Text}
    (hMem : Record.known word true ∈ story) : (Numeral.read? word).isSome = true := by
  have hHeading : Record.known word true ∉ heading outcome words := by
    cases hTruncation : outcome.truncation <;> simp [heading, hTruncation]
  have hRecognized {known : List Text} (hMem : Record.known word true ∈ known.map recognized) :
      (Numeral.read? word).isSome = true := by
    obtain ⟨known, _, hKnown⟩ := List.mem_map.mp hMem
    obtain ⟨rfl, hNumber⟩ := Record.known.inj hKnown
    exact hNumber
  cases h with
  | unknownWord =>
    simp only [List.mem_append, hHeading, false_or, List.mem_singleton, reduceCtorEq,
      or_false] at hMem
    exact hRecognized hMem
  | noCommand =>
    simp only [List.mem_append, hHeading, false_or] at hMem
    exact hRecognized hMem
  | executed =>
    simp only [List.mem_append, hHeading, false_or, List.mem_cons, List.not_mem_nil, reduceCtorEq,
      or_false] at hMem
    exact hRecognized hMem

end Story

/-- **The log tells the whole story of a line** in ASCII, in order, with nothing left out and nothing
else in it, and each record is printed as `Prints` says and in no other way. A word that is not a
number by itself is not recorded as one, not even the memory recall, although it has a value. Nothing
is ever warned of. -/
theorem Calculator.story_iff_enterRecords (calculator : Calculator) {text : Text}
    (hAscii : text.IsAscii) :
    let words := (Line.ofText text).words
    let after := (calculator.enter text).1.registers
    let outcome := (calculator.enter text).2
    let records := calculator.enterRecords text
    (∀ story, Story calculator.registers after words outcome story ↔ story = records) ∧
      (∀ log, List.Forall₂ Prints records log ↔ log = records.map Record.entry) ∧
      (∀ word, asciiCapitals word = "MR" → Record.known word true ∉ records) ∧
      ∀ entry ∈ records.map Record.entry, entry.1 ≠ "WARN" := by
  intro words after outcome records
  have hStory : Story calculator.registers after words outcome records := story_enterRecords
  have hKept : ∀ kept ∈ outcome.truncation, kept.IsAscii := by
    intro kept hTruncation
    have hText : (Line.ofText text).truncation = some kept := hTruncation
    rw [Line.truncation, Option.ite_none_right_eq_some, Option.some.injEq] at hText
    exact hText.2 ▸ Line.isAscii_text hAscii
  have hPrintable : ∀ record ∈ records, record.IsPrintable :=
    hStory.isPrintable (fun _ => Line.isAscii_of_mem_ofText hAscii) hKept
  refine ⟨fun story => ⟨eq_enterRecords_of_story, ?_⟩, fun log => ?_, fun word hRecall hMem => ?_, ?_⟩
  · rintro rfl
    exact hStory
  · exact forall₂_iff_eq_map fun record hRecord _ => prints_iff (hPrintable record hRecord)
  · have hRead := Numeral.read?_eq_none_of_ofSymbol? (asciiCapitals_eq_recall_iff.mp hRecall)
    have hSome := hStory.isSome_read?_of_mem hMem
    rw [hRead] at hSome
    cases hSome
  · refine List.forall_mem_map.mpr fun record hRecord => ?_
    exact ((prints_iff (hPrintable record hRecord)).mpr rfl).level_ne_warn

namespace Calculator

/-- A sum is told to the end. Of a line that is cut, and in which something unknown stands beside the
memory recall, there is less to tell. -/
theorem story_iff_enterRecords_sumAndPercent :
    let sum : Text := "2 + 3".toList
    let percent : Text := "mr % 2 3".toList
    (sum.IsAscii ∧ List.Forall₂ Prints (initial.enterRecords sum)
      [("DEBUG", "lex", "tokens: [\"2\", \"+\", \"3\"]".toList),
        ("TRACE", "lex", "\"2\" numeric=true".toList),
        ("TRACE", "lex", "\"+\" numeric=false".toList),
        ("TRACE", "lex", "\"3\" numeric=true".toList),
        ("DEBUG", "parse",
          "resolved Binary \x7b operand1: 2.0, operand2: 3.0, operator: Add \x7d".toList),
        ("DEBUG", "exec", "Add -> Ok Registers \x7b memory: 0.0, result: 5.0 \x7d".toList)]) ∧
      percent.IsAscii ∧ List.Forall₂ Prints (initial.enterRecords percent)
        [("DEBUG", "lex", "input truncated to \"MR % 2\"".toList),
          ("DEBUG", "lex", "tokens: [\"MR\", \"%\", \"2\"]".toList),
          ("TRACE", "lex", "\"MR\" numeric=false".toList),
          ("DEBUG", "lex", "unrecognized token \"%\"".toList)] := by
  intro sum percent
  have hSum : sum.IsAscii := by decide
  have hPercent : percent.IsAscii := by decide
  refine ⟨⟨hSum, ?_⟩, hPercent, ?_⟩
  · obtain ⟨hStory, hPrints, _⟩ := story_iff_enterRecords initial hSum
    have hWords : (Line.ofText sum).words = ["2".toList, "+".toList, "3".toList] := by
      decide +kernel
    have hLeft : Numeral.read? "2".toList = some 2 := by decide +kernel
    have hRight : Numeral.read? "3".toList = some 3 := by decide +kernel
    have hSentence : Sentence initial.registers (Line.ofText sum).words (.binary 2 3 .add) := by
      rw [hWords]
      exact .full (.numeral hLeft) (mem_joiningSymbols.mpr ⟨rfl, rfl⟩) (.numeral hRight)
    have hKnown : ∀ word ∈ (Line.ofText sum).words, ¬ IsUnknown word :=
      fun word hMem => Token.isKnown_iff.mp (Command.isKnown_of_sentence hSentence word hMem)
    have hStatus : (initial.enter sum).2.status = .ok := by decide +kernel
    have hTruncation : (initial.enter sum).2.truncation = none := by decide +kernel
    have hAfter : (initial.enter sum).1.registers = ⟨0, 5⟩ := by decide +kernel
    have hExecuted : (initial.enter sum).2.status ≠ .invalidInput := by simp [hStatus]
    have hRecords := (hStory _).mp (.executed hKnown hExecuted hSentence)
    rw [hPrints, ← hRecords, Story.heading, hTruncation, hStatus, hAfter, hWords]
    decide +kernel
  · obtain ⟨hStory, hPrints, _⟩ := story_iff_enterRecords initial hPercent
    have hWords : (Line.ofText percent).words = ["MR".toList] ++ "%".toList :: ["2".toList] := by
      decide +kernel
    have hRecall : ∀ word ∈ ["MR".toList], ¬ IsUnknown word := by
      intro word hMem hUnknown
      rw [List.mem_singleton.mp hMem] at hUnknown
      exact hUnknown.2 ("MR", .memoryRecall) (by decide) (by decide)
    have hUnknown : IsUnknown "%".toList := ⟨by decide, by decide⟩
    have hStatus : (initial.enter percent).2.status = .invalidInput := by decide +kernel
    have hTruncation : (initial.enter percent).2.truncation = some "MR % 2".toList := by
      decide +kernel
    have hRecords := (hStory _).mp (.unknownWord hWords hRecall hUnknown hStatus)
    rw [hPrints, ← hRecords, Story.heading, hTruncation, hWords]
    decide +kernel

end Calculator
end PocketCalc
