import PocketCalc.Line
import PocketCalc.Proofs.Capitals
import PocketCalc.Proofs.Words

/-!
# Upper-casing keeps words apart

Upper-casing changes the number of scalars of a text, but not where its blanks are: a blank is its
own upper case, and the upper case of any other scalar is not empty and has no blank in it
(`isBlank_of_mem_upperChar`). So the words of a text in upper case are the upper cases of its words
(`words_upper`), and it makes no difference that a line is put in upper case before it is taken
apart.

For the table of capitals this means that neither the small letters of a run nor their capitals meet
a range of blanks, nor do the longer upper cases. The ends of the ranges show that.
-/

namespace PocketCalc.Text

/-! ## Blanks and the table -/

/-- A code of a blank. -/
def IsBlankCode (code : Nat) : Prop := ∃ range ∈ blankRanges, range.1 ≤ code ∧ code ≤ range.2

theorem isBlank_iff {c : Char} : isBlank c = true ↔ IsBlankCode c.toNat := by
  simp only [isBlank, IsBlankCode, List.any_eq_true, Bool.and_eq_true, decide_eq_true_eq]

/-- No range of blanks meets the small letters of a run, or its capitals. -/
theorem blankRanges_apart : ∀ run ∈ smallRuns, ∀ range ∈ blankRanges,
    (run.last < range.1 ∨ range.2 < run.first) ∧
      (run.lastCapital < range.1 ∨ range.2 < run.capital) := by
  decide +kernel

/-- Nor does it meet a longer upper case, or the scalar that has it. -/
theorem blankRanges_apart_expansions : ∀ entry ∈ caseExpansions, ∀ code ∈ entry.1 :: entry.2,
    ∀ range ∈ blankRanges, code < range.1 ∨ range.2 < code := by
  decide +kernel

theorem ne_nil_of_mem_caseExpansions : ∀ entry ∈ caseExpansions, entry.2 ≠ [] := by
  decide +kernel

theorem not_isBlankCode_of_run {run : CaseRun} (h : run ∈ smallRuns) {code capital : Nat}
    (hRun : run.capital? code = some capital) : ¬ IsBlankCode code ∧ ¬ IsBlankCode capital := by
  obtain ⟨⟨hFirst, hLast, _⟩, rfl⟩ := CaseRun.capital?_eq_some_iff.mp hRun
  constructor
  · rintro ⟨range, hRange, hLow, hHigh⟩
    have hApart := (blankRanges_apart run h range hRange).1
    omega
  · rintro ⟨range, hRange, hLow, hHigh⟩
    have hApart := (blankRanges_apart run h range hRange).2
    rw [CaseRun.lastCapital] at hApart
    omega

theorem not_isBlankCode_of_expansion {entry : Nat × List Nat} (h : entry ∈ caseExpansions)
    {code : Nat} (hCode : code ∈ entry.1 :: entry.2) : ¬ IsBlankCode code := by
  rintro ⟨range, hRange, hLow, hHigh⟩
  have hApart := blankRanges_apart_expansions entry h code hCode range hRange
  omega

/-! ## Scalars -/

theorem isBlank_ofNat {code : Nat} (hValid : code.isValidChar) (h : ¬ IsBlankCode code) :
    isBlank (Char.ofNat code) = false := by
  rwa [← Bool.not_eq_true, isBlank_iff, Char.toNat_ofNat, if_pos hValid]

/-- A blank is its own upper case. -/
theorem upperChar_of_isBlank {c : Char} (h : isBlank c = true) : upperChar c = [c] := by
  rw [isBlank_iff] at h
  cases upperCase c with
  | capital _ hUpper => exact hUpper
  | run hRun hCode _ => exact absurd h (not_isBlankCode_of_run hRun hCode).1
  | expansion hEntry _ =>
    exact absurd h (not_isBlankCode_of_expansion hEntry (List.mem_cons_self ..))

/-- There is no blank in the upper case of another scalar. -/
theorem isBlank_of_mem_upperChar {c d : Char} (h : isBlank c = false) (hd : d ∈ upperChar c) :
    isBlank d = false := by
  cases upperCase c with
  | capital _ hUpper =>
    rw [hUpper, List.mem_singleton] at hd
    rwa [hd]
  | run hRun hCode hUpper =>
    rw [hUpper, List.mem_singleton] at hd
    rw [hd]
    exact isBlank_ofNat (isCapitalCode_of_run hRun hCode).valid
      (not_isBlankCode_of_run hRun hCode).2
  | expansion hEntry hUpper =>
    rw [hUpper, List.mem_map] at hd
    obtain ⟨code, hCode, rfl⟩ := hd
    exact isBlank_ofNat (isCapitalCode_of_expansion hEntry hCode).valid
      (not_isBlankCode_of_expansion hEntry (List.mem_cons_of_mem _ hCode))

/-- Every scalar has an upper case. -/
theorem upperChar_ne_nil (c : Char) : upperChar c ≠ [] := by
  cases upperCase c with
  | capital _ hUpper => simp [hUpper]
  | run _ _ hUpper => simp [hUpper]
  | expansion hEntry hUpper => simpa [hUpper] using ne_nil_of_mem_caseExpansions _ hEntry

/-! ## Words -/

/-- The upper case of a word is a word. -/
theorem IsWord.upper {word : Text} (h : IsWord word) : IsWord (Text.upper word) where
  ne_nil := by
    obtain ⟨first, rest, rfl⟩ := List.exists_cons_of_ne_nil h.ne_nil
    simp [upperChar_ne_nil]
  noBlank d hd := by
    obtain ⟨c, hc, hMem⟩ := List.mem_flatMap.mp hd
    exact isBlank_of_mem_upperChar (h.noBlank c hc) hMem

/-- **Upper-casing keeps words apart**: the words of a text in upper case are the upper cases of its
words. -/
theorem words_upper (text : Text) : words (upper text) = (words text).map upper := by
  induction text using blankInduction with
  | nil => rfl
  | word word hWord => rw [words_of_isWord hWord.upper, words_of_isWord hWord, List.map_singleton]
  | append left blank right hBlank ihLeft ihRight =>
    rw [upper_append, upper_cons, upperChar_of_isBlank hBlank, List.singleton_append,
      words_append_blank hBlank, words_append_blank hBlank, ihLeft, ihRight, List.map_append]

end PocketCalc.Text

namespace PocketCalc.Line

/-- Of a line that is short enough the first words are kept, in upper case. -/
theorem ofText_of_fits {text : Text} (h : (Text.upper text).length ≤ maxLength) :
    ofText text =
      { words := ((Text.words text).map Text.upper).take maxWords
        isCut := maxWords < (Text.words text).length } := by
  rw [ofText, List.take_of_length_le h, Text.words_upper, List.length_map]
  simp [Nat.not_lt.mpr h]

end PocketCalc.Line
