import PocketCalc.Calculator
import PocketCalc.Proofs.Symbols
import PocketCalc.Proofs.UpperWords

/-!
# Case and spacing do not matter

A line can be spelled in other ways without saying anything else: with its ASCII letters in another
case, with other blanks between its words, and with more or fewer blanks around them
(`Text.IsRespelling`). `Calculator.enter_respelled` says that lines which differ in no more than that
are processed alike from every state, whatever else is in them and however many words they have.

The blanks are a matter of `Text.IsSpaced`, which builds texts from words. A text is built from the
words that `Text.words` finds in it and from no others (`isSpaced_iff`), so these are all that the
blanks leave to be seen. The case is a matter of single scalars: one that is an ASCII letter has the
same upper case in either case (`upperChar_toUpper`), and another one is not changed.

Both lines have to fit into 80 scalars. The cut counts blanks as well, so that without this a word
could be lost for the spaces in front of it.
-/

namespace PocketCalc.Text

/-! ## Spacing -/

/-- A text that has these words, in order, with blanks around them: one blank or more between two
words, and any number of them before the first word and after the last. -/
inductive IsSpaced : List Text → Text → Prop
  | blank {gap : Text} (hGap : isAllBlank gap = true) : IsSpaced [] gap
  | word {gap word rest : Text} {others : List Text} (hGap : isAllBlank gap = true)
      (hWord : IsWord word) (hApart : ∀ c ∈ rest.head?, isBlank c = true)
      (hRest : IsSpaced others rest) : IsSpaced (word :: others) (gap ++ (word ++ rest))

theorem words_cons_blank {blank : Char} (h : isBlank blank = true) (text : Text) :
    words (blank :: text) = words text :=
  words_append_blank h [] text

/-- Blanks in front belong to no word. -/
theorem words_append_of_isAllBlank {gap : Text} (h : isAllBlank gap = true) (text : Text) :
    words (gap ++ text) = words text := by
  unfold isAllBlank at h
  induction gap with
  | nil => rfl
  | cons blank rest ih =>
    rw [List.all_cons, Bool.and_eq_true] at h
    rw [List.cons_append, words_cons_blank h.1, ih h.2]

/-- A word ends where a blank or nothing follows. -/
theorem words_append_of_isWord {word rest : Text} (h : IsWord word)
    (hApart : ∀ c ∈ rest.head?, isBlank c = true) : words (word ++ rest) = word :: words rest := by
  cases rest with
  | nil => rw [List.append_nil, words_of_isWord h, words_nil]
  | cons blank rest =>
    have hBlank : isBlank blank = true := hApart blank rfl
    rw [words_append_blank hBlank, words_of_isWord h, words_cons_blank hBlank,
      List.singleton_append]

theorem IsSpaced.words_eq {found : List Text} {text : Text} (h : IsSpaced found text) :
    words text = found := by
  induction h with
  | @blank gap hGap =>
    have hNone := words_append_of_isAllBlank hGap []
    rwa [List.append_nil] at hNone
  | word hGap hWord hApart _ ih =>
    rw [words_append_of_isAllBlank hGap, words_append_of_isWord hWord hApart, ih]

theorem IsSpaced.append_gap {found : List Text} {text gap : Text} (h : IsSpaced found text)
    (hGap : isAllBlank gap = true) : IsSpaced found (gap ++ text) := by
  have hBoth {inner : Text} (hInner : isAllBlank inner = true) :
      isAllBlank (gap ++ inner) = true := by
    unfold isAllBlank at hGap hInner ⊢
    rw [List.all_append, hGap, hInner]
    rfl
  cases h with
  | blank hInner => exact .blank (hBoth hInner)
  | word hInner hWord hApart hRest =>
    rw [← List.append_assoc]
    exact .word (hBoth hInner) hWord hApart hRest

/-- Texts with a blank between them have the words of both. -/
theorem IsSpaced.append_blank {first second : List Text} {left right : Text} {blank : Char}
    (hBlank : isBlank blank = true) (hLeft : IsSpaced first left) (hRight : IsSpaced second right) :
    IsSpaced (first ++ second) (left ++ blank :: right) := by
  induction hLeft with
  | @blank gap hGap =>
    have hLonger : isAllBlank (gap ++ [blank]) = true := by
      unfold isAllBlank at hGap ⊢
      rw [List.all_append, hGap, List.all_cons, hBlank]
      rfl
    rw [List.nil_append, List.append_cons]
    exact hRight.append_gap hLonger
  | @word gap word rest others hGap hWord hApart _ ih =>
    have hNext : ∀ c ∈ (rest ++ blank :: right).head?, isBlank c = true := by
      intro c hc
      cases rest with
      | nil =>
        cases hc
        exact hBlank
      | cons next _ => exact hApart c hc
    rw [List.append_assoc, List.append_assoc]
    exact .word hGap hWord hNext ih

/-- **A text is spaced from its words** and from no others. -/
theorem isSpaced_iff {found : List Text} {text : Text} :
    IsSpaced found text ↔ words text = found := by
  refine ⟨IsSpaced.words_eq, ?_⟩
  rintro rfl
  induction text using blankInduction with
  | nil => exact .blank rfl
  | word word hWord =>
    have hAlone : IsSpaced [word] ([] ++ (word ++ [])) := .word rfl hWord nofun (.blank rfl)
    rw [List.nil_append, List.append_nil] at hAlone
    rwa [words_of_isWord hWord]
  | append left blank right hBlank ihLeft ihRight =>
    rw [words_append_blank hBlank]
    exact ihLeft.append_blank hBlank ihRight

/-! ## Case -/

/-- A scalar has the same upper case if it is put in ASCII capitals first. -/
theorem upperChar_toUpper (c : Char) : upperChar c.toUpper = upperChar c := by
  by_cases hLower : c.isLower = true
  · have hAscii : c.toNat < 0x80 := by
      rw [Char.isLower, Bool.and_eq_true, decide_eq_true_eq, decide_eq_true_eq] at hLower
      have hLast : c.toNat ≤ 0x7A := hLower.2
      omega
    have hMem : c.toUpper ∈ upperChar c := by
      rw [upperChar_ascii hAscii]
      exact List.mem_singleton_self _
    rw [upperChar_of_isCapital (isCapital_of_mem_upperChar hMem), upperChar_ascii hAscii]
  · rw [Char.toUpper_eq_of_not_isLower hLower]

/-- Words that are the same but for the case of ASCII letters have the same upper case. -/
theorem upper_congr {word other : Text} (h : asciiCapitals word = asciiCapitals other) :
    upper word = upper other := by
  have hMap : word.map Char.toUpper = other.map Char.toUpper := String.ofList_injective h
  have hCapitals (text : Text) : upper (text.map Char.toUpper) = upper text := by
    unfold upper
    rw [List.flatMap_map]
    exact List.flatMap_congr fun c _ => upperChar_toUpper c
  rw [← hCapitals word, hMap, hCapitals other]

/-! ## Respelling -/

/-- Lines with the same words but for the case of ASCII letters, whatever the blanks are between the
words and around them. -/
def IsRespelling (line other : Text) : Prop :=
  ∃ found others, IsSpaced found line ∧ IsSpaced others other ∧
    List.Forall₂ (fun word spelled => asciiCapitals word = asciiCapitals spelled) found others

theorem IsRespelling.map_upper_words {line other : Text} (h : IsRespelling line other) :
    (words line).map upper = (words other).map upper := by
  obtain ⟨found, others, hLine, hOther, hSame⟩ := h
  have hUpper : List.Forall₂ (· = ·) (found.map upper) (others.map upper) := by
    rw [List.forall₂_map_left_iff, List.forall₂_map_right_iff]
    exact hSame.imp fun _ _ hWord => upper_congr hWord
  rw [List.forall₂_eq_eq_eq] at hUpper
  rw [hLine.words_eq, hOther.words_eq, hUpper]

end PocketCalc.Text

namespace PocketCalc

/-- Respelled lines are read as the same words, if both are short enough to be read to the end. -/
theorem Line.ofText_respelled {line other : Text} (h : Text.IsRespelling line other)
    (hLine : (Text.upper line).length ≤ maxLength)
    (hOther : (Text.upper other).length ≤ maxLength) : ofText line = ofText other := by
  have hUpper := h.map_upper_words
  have hCount : (Text.words line).length = (Text.words other).length := by
    rw [← List.length_map Text.upper, hUpper, List.length_map]
  rw [ofText_of_fits hLine, ofText_of_fits hOther, hUpper, hCount]

namespace Calculator

/-- **Case and spacing do not matter.** Lines that differ in nothing but the case of ASCII letters and
the blanks between and around their words are processed alike from every state, with the same status,
truncation and answer and the same calculator after them, as long as neither has more than 80 scalars
in upper case. They may hold any other scalars and have any number of words. -/
theorem enter_respelled (calculator : Calculator) {line other : Text}
    (hRespelled : Text.IsRespelling line other) (hLine : (Text.upper line).length ≤ 80)
    (hOther : (Text.upper other).length ≤ 80) :
    calculator.enter line = calculator.enter other := by
  unfold enter
  rw [Line.ofText_respelled hRespelled hLine hOther]

/-- The third word is an exponent in another case, and the fourth, which is cut off, has letters in it
that are not ASCII. -/
theorem enter_respelled_fourWords :
    let line := "mr + 1e2 straße".toList
    let other := "\u3000MR\u2003+\t\t1E2 STRAßE\u2028".toList
    Text.IsRespelling line other ∧ (Text.upper line).length ≤ 80 ∧
      (Text.upper other).length ≤ 80 ∧ initial.enter line = initial.enter other := by
  intro line other
  have hWords : Text.words line =
      ["mr".toList, "+".toList, "1e2".toList, "straße".toList] := by decide
  have hOthers : Text.words other =
      ["MR".toList, "+".toList, "1E2".toList, "STRAßE".toList] := by decide
  have hRespelled : Text.IsRespelling line other :=
    ⟨_, _, Text.isSpaced_iff.mpr hWords, Text.isSpaced_iff.mpr hOthers,
      .cons (by decide) (.cons (by decide) (.cons (by decide) (.cons (by decide) .nil)))⟩
  have hLine : (Text.upper line).length ≤ 80 := by decide +kernel
  have hOther : (Text.upper other).length ≤ 80 := by decide +kernel
  exact ⟨hRespelled, hLine, hOther, enter_respelled initial hRespelled hLine hOther⟩

end Calculator
end PocketCalc
