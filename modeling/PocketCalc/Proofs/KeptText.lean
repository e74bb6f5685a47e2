import PocketCalc.Calculator
import PocketCalc.Proofs.Capitals
import PocketCalc.Proofs.Words

/-!
# What is left of a line is the whole of it

A line that is cut is processed as if what is left of it had been typed. What is left is the
kept words with single spaces between them, and it is what the warning about the cut shows.

The reason is that this text passes through unchanged. Its scalars are capitals or spaces, so
upper-casing does nothing to it; it is no longer than the part of the line that was kept, so
nothing is cut off; and its words are read back as they were. Where the line was cut has no part
in this, so it makes no difference that a cut can fall within a word, or between the scalars
that the upper case of one letter consists of.
-/

namespace PocketCalc.Line

open PocketCalc.Text

theorem sublist_words_ofText (text : Text) :
    (ofText text).words.Sublist (Text.words ((Text.upper text).take maxLength)) :=
  List.take_sublist ..

theorem isWord_of_mem_ofText {text word : Text} (h : word ∈ (ofText text).words) : IsWord word :=
  isWord_of_mem_words ((sublist_words_ofText text).subset h)

/-- The kept words consist of capitals. -/
theorem isCapital_of_mem_ofText {text word : Text} (h : word ∈ (ofText text).words) {c : Char}
    (hc : c ∈ word) : IsCapital c :=
  isCapital_of_mem_upper
    (List.mem_of_mem_take (mem_of_mem_words ((sublist_words_ofText text).subset h) hc))

theorem length_text_le (text : Text) : (ofText text).text.length ≤ maxLength := by
  calc (ofText text).text.length
      ≤ ((Text.upper text).take maxLength).length :=
        length_joinWords_sublist_le (sublist_words_ofText text)
    _ ≤ maxLength := List.length_take_le ..

theorem length_le_of_mem_ofText {text word : Text} (h : word ∈ (ofText text).words) :
    word.length ≤ maxLength :=
  calc word.length
      = (joinWords [word]).length := congrArg List.length (joinWords_singleton word).symm
    _ ≤ ((Text.upper text).take maxLength).length :=
        length_joinWords_sublist_le
          ((List.singleton_sublist.mpr h).trans (sublist_words_ofText text))
    _ ≤ maxLength := List.length_take_le ..

/-- Words in capitals, joined by single spaces, are read as they are if they fit into a line. -/
theorem ofText_joinWords {words : List Text} (hWords : ∀ word ∈ words, IsWord word)
    (hCapital : ∀ word ∈ words, ∀ c ∈ word, IsCapital c)
    (hLength : (joinWords words).length ≤ maxLength) (hCount : words.length ≤ maxWords) :
    ofText (joinWords words) = { words, isCut := false } := by
  have hUpper : Text.upper (joinWords words) = joinWords words := by
    apply upper_eq_self
    intro c hc
    rcases mem_joinWords hc with rfl | ⟨word, hMem, hWord⟩
    · exact isCapital_of_ascii (by decide) (by decide)
    · exact hCapital word hMem c hWord
  rw [ofText, hUpper, List.take_of_length_le hLength, words_joinWords hWords,
    List.take_of_length_le hCount]
  simp [Nat.not_lt.mpr hLength, Nat.not_lt.mpr hCount]

/-- **What is left of a line is read as the same words**, and nothing of it is cut off. -/
theorem ofText_text (text : Text) :
    ofText (ofText text).text = { words := (ofText text).words, isCut := false } := by
  have hWords : ∀ word ∈ (ofText text).words, IsWord word := fun _ h => isWord_of_mem_ofText h
  have hCapital : ∀ word ∈ (ofText text).words, ∀ c ∈ word, IsCapital c :=
    fun _ h _ hc => isCapital_of_mem_ofText h hc
  exact ofText_joinWords hWords hCapital (length_text_le text) (length_words_ofText_le text)

end PocketCalc.Line

namespace PocketCalc.Calculator

/-- A line and the text that is left of it: the same words, and from every state the same status,
the same answer and the same state after it. The text that is left is never cut, and it is what
a cut line is said to be cut to. -/
theorem enter_keptText (text : Text) :
    let line := Line.ofText text
    let kept := Text.joinWords line.words
    (Line.ofText kept).words = line.words ∧
      (Line.ofText kept).truncation = none ∧
      (line.truncation = none ∨ line.truncation = some kept) ∧
      ∀ calculator : Calculator,
        (calculator.enter text).2.truncation = line.truncation ∧
        (calculator.enter kept).2.truncation = none ∧
        (calculator.enter kept).2.status = (calculator.enter text).2.status ∧
        (calculator.enter kept).2.output = (calculator.enter text).2.output ∧
        (calculator.enter kept).1 = (calculator.enter text).1 := by
  intro line kept
  have hKept : Line.ofText kept = { words := line.words, isCut := false } := Line.ofText_text text
  refine ⟨by rw [hKept], by rw [hKept]; rfl, ?_, fun calculator => ?_⟩
  · rw [Line.truncation]
    split
    · exact .inr rfl
    · exact .inl rfl
  · simp only [enter, hKept]
    exact ⟨rfl, rfl, rfl, rfl, rfl⟩

end PocketCalc.Calculator
