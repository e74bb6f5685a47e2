import PocketCalc.Text.Words

/-!
# Words read back

`Text.words` takes a text apart at its blanks, and `Text.joinWords` puts words together again with
single spaces. This module relates the two:

* `words_joinWords`: joined words are read back as they were, if each of them is a word;
* `length_joinWords_sublist_le`: taken from a text, and with some of them left out, words joined
  by single spaces are never longer than the text was.

Everything about `words` follows from two equations, `words_append_blank` at a blank and
`words_of_isWord` where there is none, and from the induction that goes with them
(`blankInduction`). For lengths, a word is counted with one blank after it
(`spacedLength`): so counted, the pieces of a text make up the text and one blank.
-/

namespace PocketCalc.Text

/-- A text that can stand as a word. -/
structure IsWord (text : Text) : Prop where
  ne_nil : text ≠ []
  noBlank : ∀ c ∈ text, isBlank c = false

/-! ## Taking a text apart -/

@[simp] theorem words_nil : words [] = [] := rfl

theorem words_append_blank {blank : Char} (h : isBlank blank = true) (left right : Text) :
    words (left ++ blank :: right) = words left ++ words right := by
  rw [words, List.splitOnP_append_cons left right h, List.filter_append]
  rfl

theorem words_of_isWord {word : Text} (h : IsWord word) : words word = [word] := by
  rw [words, List.splitOnP_eq_singleton h.noBlank]
  simp [h.ne_nil]

private theorem noBlank_of_mem_splitOnP {text piece : Text} (h : piece ∈ text.splitOnP isBlank) :
    ∀ c ∈ piece, c ∈ text ∧ isBlank c = false := by
  induction text generalizing piece with
  | nil =>
    rw [List.splitOnP_nil, List.mem_singleton] at h
    simp [h]
  | cons first rest ih =>
    obtain ⟨head, tail, hRest⟩ := List.exists_cons_of_ne_nil (List.splitOnP_ne_nil isBlank rest)
    rw [List.splitOnP_cons_eq_if_modifyHead, hRest] at h
    rw [hRest] at ih
    intro c hc
    split at h
    · rcases List.mem_cons.mp h with rfl | hMem
      · cases hc
      · have hPiece := ih hMem c hc
        exact ⟨List.mem_cons_of_mem _ hPiece.1, hPiece.2⟩
    · rename_i hFirst
      rw [List.modifyHead_cons] at h
      rcases List.mem_cons.mp h with rfl | hMem
      · rcases List.mem_cons.mp hc with rfl | hHead
        · exact ⟨List.mem_cons_self .., by simpa using hFirst⟩
        · have hPiece := ih (List.mem_cons_self ..) c hHead
          exact ⟨List.mem_cons_of_mem _ hPiece.1, hPiece.2⟩
      · have hPiece := ih (List.mem_cons_of_mem _ hMem) c hc
        exact ⟨List.mem_cons_of_mem _ hPiece.1, hPiece.2⟩

theorem isWord_of_mem_words {text word : Text} (h : word ∈ words text) : IsWord word where
  ne_nil := ne_nil_of_mem_words h
  noBlank c hc := (noBlank_of_mem_splitOnP (List.mem_filter.mp h).1 c hc).2

/-- Words hold nothing that the text does not. -/
theorem mem_of_mem_words {text word : Text} (h : word ∈ words text) {c : Char} (hc : c ∈ word) :
    c ∈ text :=
  (noBlank_of_mem_splitOnP (List.mem_filter.mp h).1 c hc).1

/-- What holds of the empty text and of every word, and of a text with a blank in it if it holds of
what stands on either side, holds of every text. -/
@[elab_as_elim]
theorem blankInduction {motive : Text → Prop} (nil : motive [])
    (word : ∀ word, IsWord word → motive word)
    (append : ∀ left blank right, isBlank blank = true → motive left → motive right →
      motive (left ++ blank :: right)) (text : Text) : motive text := by
  induction hLength : text.length using Nat.strongRecOn generalizing text with
  | ind length ih =>
    by_cases hBlank : ∃ c ∈ text, isBlank c = true
    · obtain ⟨blank, hMem, hBlank⟩ := hBlank
      obtain ⟨left, right, rfl⟩ := List.append_of_mem hMem
      rw [List.length_append, List.length_cons] at hLength
      exact append left blank right hBlank (ih left.length (by omega) left rfl)
        (ih right.length (by omega) right rfl)
    · by_cases hNil : text = []
      · exact hNil ▸ nil
      · exact word text ⟨hNil, fun c hc => by simpa using fun h => hBlank ⟨c, hc, h⟩⟩

/-! ## Putting words together -/

@[simp] theorem joinWords_cons_cons (first second : Text) (rest : List Text) :
    joinWords (first :: second :: rest) = first ++ ' ' :: joinWords (second :: rest) := by
  simp [joinWords]

/-- **Joined words are read back**, whatever the words are. -/
theorem words_joinWords {ws : List Text} (h : ∀ word ∈ ws, IsWord word) :
    words (joinWords ws) = ws := by
  induction ws with
  | nil => rfl
  | cons first rest ih =>
    rw [List.forall_mem_cons] at h
    cases rest with
    | nil => rw [joinWords_singleton, words_of_isWord h.1]
    | cons second rest =>
      rw [joinWords_cons_cons, words_append_blank (by decide), words_of_isWord h.1, ih h.2,
        List.singleton_append]

/-- Joined words hold the scalars of the words, and spaces. -/
theorem mem_joinWords {ws : List Text} {c : Char} (h : c ∈ joinWords ws) :
    c = ' ' ∨ ∃ word ∈ ws, c ∈ word := by
  induction ws with
  | nil => cases h
  | cons first rest ih =>
    cases rest with
    | nil => exact .inr ⟨first, List.mem_cons_self .., by rwa [joinWords_singleton] at h⟩
    | cons second rest =>
      rw [joinWords_cons_cons, List.mem_append, List.mem_cons] at h
      rcases h with hFirst | rfl | hRest
      · exact .inr ⟨first, List.mem_cons_self .., hFirst⟩
      · exact .inl rfl
      · rcases ih hRest with rfl | ⟨word, hMem, hc⟩
        · exact .inl rfl
        · exact .inr ⟨word, List.mem_cons_of_mem _ hMem, hc⟩

/-! ## Lengths -/

/-- The length of pieces, each counted with one blank after it. -/
def spacedLength : List Text → Nat
  | [] => 0
  | piece :: rest => piece.length + 1 + spacedLength rest

theorem length_joinWords (ws : List Text) : (joinWords ws).length = spacedLength ws - 1 := by
  induction ws with
  | nil => rfl
  | cons first rest ih =>
    cases rest with
    | nil => simp [spacedLength]
    | cons second rest =>
      rw [joinWords_cons_cons, List.length_append, List.length_cons, ih]
      simp only [spacedLength]
      omega

theorem spacedLength_splitOnP (text : Text) :
    spacedLength (text.splitOnP isBlank) = text.length + 1 := by
  induction text with
  | nil => rfl
  | cons first rest ih =>
    obtain ⟨head, tail, hRest⟩ := List.exists_cons_of_ne_nil (List.splitOnP_ne_nil isBlank rest)
    rw [hRest] at ih
    rw [List.splitOnP_cons_eq_if_modifyHead, hRest]
    simp only [spacedLength] at ih
    split
    · simp only [spacedLength, List.length_nil, List.length_cons]
      omega
    · simp only [spacedLength, List.modifyHead_cons, List.length_cons]
      omega

theorem spacedLength_le_of_sublist {kept pieces : List Text} (h : kept.Sublist pieces) :
    spacedLength kept ≤ spacedLength pieces := by
  induction h with
  | slnil => exact Nat.le_refl _
  | cons piece _ ih =>
    simp only [spacedLength] at ih ⊢
    omega
  | cons_cons piece _ ih =>
    simp only [spacedLength] at ih ⊢
    omega

/-- Words of a text, joined by single spaces, are no longer than the text. -/
theorem length_joinWords_sublist_le {text : Text} {kept : List Text}
    (h : kept.Sublist (words text)) : (joinWords kept).length ≤ text.length := by
  have hPieces := spacedLength_le_of_sublist (h.trans List.filter_sublist)
  rw [spacedLength_splitOnP] at hPieces
  rw [length_joinWords]
  omega

end PocketCalc.Text
