import Mathlib
import PocketCalc.Proofs.KeptText

/-!
# The words of a line are its maximal runs

`Text.words` cuts a text at its blanks and drops the empty pieces. What a word is can be said
without cutting: a run of places that are filled, with a blank or an end of the text on either side
of it. `AreMaximalRuns` says of a list that it holds every such run and holds them from left to
right, and a text has only one such list (`AreMaximalRuns.unique`).

`exists_areMaximalRuns` says that these runs are the words. The proof follows the blanks. No run goes
across one (`IsMaximalRun.side`), so the runs of a text with a blank in it are those on the left, and
those on the right with their places moved. A text without blanks is a run by itself.

`Line.words_ofText_maximalRuns` says what this comes to for a line, which is put in upper case and
cut before its words are taken, so that two things can be lost, scalars and words. Only if neither is
does a line not own up to it, and then its words are all that is on it but the blanks.
-/

namespace PocketCalc.Text

/-! ## Runs -/

/-- Whether a scalar other than a blank stands at a place of a text. -/
def IsFilled (text : Text) (place : ℕ) : Prop := ∃ c, text[place]? = some c ∧ isBlank c = false

/-- The places of a text from `start` up to `stop`, and without it, are filled, and the places on
either side of them are not. -/
structure IsMaximalRun (text : Text) (start stop : ℕ) : Prop where
  start_lt_stop : start < stop
  filled : ∀ place, start ≤ place → place < stop → IsFilled text place
  before : ∀ place, place + 1 = start → ¬ IsFilled text place
  behind : ¬ IsFilled text stop

/-- All maximal runs of a text, from left to right. -/
structure AreMaximalRuns (text : Text) (runs : List (ℕ × ℕ)) : Prop where
  ordered : runs.Pairwise fun run next => run.1 < next.1
  mem_iff : ∀ run, run ∈ runs ↔ IsMaximalRun text run.1 run.2

/-- The scalars of a run. -/
def stretch (text : Text) (run : ℕ × ℕ) : Text := (text.take run.2).drop run.1

/-- A text has one list of maximal runs. -/
theorem AreMaximalRuns.unique {text : Text} {runs others : List (ℕ × ℕ)}
    (h : AreMaximalRuns text runs) (hOthers : AreMaximalRuns text others) : runs = others := by
  have hNodup {list : List (ℕ × ℕ)} (hList : AreMaximalRuns text list) : list.Nodup :=
    hList.ordered.imp fun hLess hSame => by
      rw [hSame] at hLess
      exact Nat.lt_irrefl _ hLess
  have hPerm : runs.Perm others :=
    (List.perm_ext_iff_of_nodup (hNodup h) (hNodup hOthers)).mpr fun run => by
      rw [h.mem_iff, hOthers.mem_iff]
  refine hPerm.eq_of_pairwise ?_ h.ordered hOthers.ordered
  intro run next _ _ hLess hMore
  exact absurd hLess (Nat.lt_asymm hMore)

/-! ## Runs on either side of a blank -/

theorem IsFilled.lt_length {text : Text} {place : ℕ} (h : IsFilled text place) :
    place < text.length := by
  obtain ⟨c, hc, _⟩ := h
  exact (List.getElem?_eq_some_iff.mp hc).1

theorem IsMaximalRun.stop_le_length {text : Text} {start stop : ℕ}
    (h : IsMaximalRun text start stop) : stop ≤ text.length := by
  have hOrder := h.start_lt_stop
  have hLast := (h.filled (stop - 1) (by omega) (by omega)).lt_length
  omega

/-- A run is one of any text that is filled in the same places, be it at a distance. -/
theorem isMaximalRun_shift {text other : Text} {start stop shift : ℕ}
    (hSame : ∀ place ≤ stop, IsFilled other (shift + place) ↔ IsFilled text place)
    (hEdge : ∀ place, place + 1 = shift → ¬ IsFilled other place) :
    IsMaximalRun other (shift + start) (shift + stop) ↔ IsMaximalRun text start stop := by
  constructor
  · intro h
    have hOrder := h.start_lt_stop
    refine ⟨by omega, fun place hStart hStop => ?_, fun place hPlace hFilled => ?_, fun hFilled => ?_⟩
    · exact (hSame place (by omega)).mp (h.filled (shift + place) (by omega) (by omega))
    · exact h.before (shift + place) (by omega) ((hSame place (by omega)).mpr hFilled)
    · exact h.behind ((hSame stop (Nat.le_refl _)).mpr hFilled)
  · intro h
    have hOrder := h.start_lt_stop
    refine ⟨by omega, fun place hStart hStop => ?_, fun place hPlace => ?_, fun hFilled => ?_⟩
    · obtain ⟨inner, rfl⟩ := Nat.exists_eq_add_of_le (Nat.le_trans (Nat.le_add_right _ _) hStart)
      exact (hSame inner (by omega)).mpr (h.filled inner (by omega) (by omega))
    · rcases Nat.eq_zero_or_pos start with rfl | hPos
      · exact hEdge place hPlace
      · obtain ⟨inner, rfl⟩ : ∃ inner, place = shift + inner := ⟨place - shift, by omega⟩
        exact fun hFilled => h.before inner (by omega) ((hSame inner (by omega)).mp hFilled)
    · exact h.behind ((hSame stop (Nat.le_refl _)).mp hFilled)

theorem isFilled_append_left {left : Text} {place : ℕ} (h : place < left.length) (right : Text) :
    IsFilled (left ++ right) place ↔ IsFilled left place := by
  rw [IsFilled, IsFilled, List.getElem?_append_left h]

theorem not_isFilled_blank {blank : Char} (hBlank : isBlank blank = true) (left right : Text) :
    ¬ IsFilled (left ++ blank :: right) left.length := by
  rintro ⟨c, hc, hFilled⟩
  rw [List.getElem?_append_right (Nat.le_refl _), Nat.sub_self, List.getElem?_cons_zero,
    Option.some.injEq] at hc
  rw [← hc, hBlank] at hFilled
  cases hFilled

theorem isFilled_append_right (left right : Text) (blank : Char) (place : ℕ) :
    IsFilled (left ++ blank :: right) (left.length + 1 + place) ↔ IsFilled right place := by
  have hBehind : left.length ≤ left.length + 1 + place := by omega
  have hPlace : left.length + 1 + place - left.length = place + 1 := by omega
  rw [IsFilled, IsFilled, List.getElem?_append_right hBehind, hPlace, List.getElem?_cons_succ]

section Blank

variable {left right : Text} {blank : Char} (hBlank : isBlank blank = true)
include hBlank

theorem isMaximalRun_append_left {start stop : ℕ} (h : stop ≤ left.length) :
    IsMaximalRun (left ++ blank :: right) start stop ↔ IsMaximalRun left start stop := by
  have hSame : ∀ place ≤ stop,
      IsFilled (left ++ blank :: right) (0 + place) ↔ IsFilled left place := by
    intro place hPlace
    rw [Nat.zero_add]
    rcases Nat.lt_or_eq_of_le (Nat.le_trans hPlace h) with hLess | rfl
    · exact isFilled_append_left hLess _
    · exact iff_of_false (not_isFilled_blank hBlank left right)
        fun hFilled => Nat.lt_irrefl _ hFilled.lt_length
  have hShift := @isMaximalRun_shift left _ start stop 0 hSame nofun
  rwa [Nat.zero_add, Nat.zero_add] at hShift

theorem isMaximalRun_append_right (start stop : ℕ) :
    IsMaximalRun (left ++ blank :: right) (left.length + 1 + start) (left.length + 1 + stop) ↔
      IsMaximalRun right start stop := by
  refine isMaximalRun_shift (fun place _ => isFilled_append_right left right blank place) ?_
  intro place hPlace
  obtain rfl : place = left.length := by omega
  exact not_isFilled_blank hBlank left right

/-- No run goes across a blank. -/
theorem IsMaximalRun.side {start stop : ℕ} (h : IsMaximalRun (left ++ blank :: right) start stop) :
    stop ≤ left.length ∨ left.length + 1 ≤ start := by
  by_contra hAcross
  exact not_isFilled_blank hBlank left right (h.filled left.length (by omega) (by omega))

end Blank

/-- A run farther to the right. -/
def moved (distance : ℕ) (run : ℕ × ℕ) : ℕ × ℕ := (distance + run.1, distance + run.2)

theorem AreMaximalRuns.append_blank {left right : Text} {blank : Char}
    (hBlank : isBlank blank = true) {first second : List (ℕ × ℕ)}
    (hFirst : AreMaximalRuns left first) (hSecond : AreMaximalRuns right second) :
    AreMaximalRuns (left ++ blank :: right)
      (first ++ second.map (moved (left.length + 1))) where
  ordered := by
    rw [List.pairwise_append, List.pairwise_map]
    refine ⟨hFirst.ordered, hSecond.ordered.imp fun hLess => Nat.add_lt_add_left hLess _, ?_⟩
    intro run hRun next hNext
    obtain ⟨later, _, rfl⟩ := List.mem_map.mp hNext
    have hMaximal := (hFirst.mem_iff run).mp hRun
    have hStart := hMaximal.start_lt_stop
    have hStop := hMaximal.stop_le_length
    show run.1 < left.length + 1 + later.1
    omega
  mem_iff run := by
    rw [List.mem_append, List.mem_map]
    constructor
    · rintro (hMem | ⟨later, hMem, rfl⟩)
      · have hRun := (hFirst.mem_iff run).mp hMem
        exact (isMaximalRun_append_left hBlank hRun.stop_le_length).mpr hRun
      · exact (isMaximalRun_append_right hBlank _ _).mpr ((hSecond.mem_iff later).mp hMem)
    · intro hRun
      have hOrder := hRun.start_lt_stop
      rcases hRun.side hBlank with hLeft | hRight
      · exact .inl ((hFirst.mem_iff run).mpr ((isMaximalRun_append_left hBlank hLeft).mp hRun))
      · obtain ⟨later, rfl⟩ : ∃ later, moved (left.length + 1) later = run :=
          ⟨(run.1 - (left.length + 1), run.2 - (left.length + 1)),
            Prod.ext (Nat.add_sub_cancel' hRight) (Nat.add_sub_cancel' (by omega))⟩
        refine .inr ⟨later, (hSecond.mem_iff later).mpr ?_, rfl⟩
        exact (isMaximalRun_append_right hBlank _ _).mp hRun

theorem stretch_append_left {left : Text} {run : ℕ × ℕ} (h : run.2 ≤ left.length) (right : Text) :
    stretch (left ++ right) run = stretch left run := by
  rw [stretch, stretch, List.take_append_of_le_length h]

theorem stretch_append_right (left right : Text) (blank : Char) (run : ℕ × ℕ) :
    stretch (left ++ blank :: right) (moved (left.length + 1) run) = stretch right run := by
  have hLength : left.length + 1 = (left ++ [blank]).length := by simp
  unfold stretch moved
  dsimp only
  rw [List.append_cons, hLength, List.take_length_add_append, List.drop_length_add_append]

theorem areMaximalRuns_of_isWord {word : Text} (h : IsWord word) :
    AreMaximalRuns word [(0, word.length)] where
  ordered := List.pairwise_singleton _ _
  mem_iff run := by
    have hFilled (place : ℕ) : IsFilled word place ↔ place < word.length :=
      ⟨IsFilled.lt_length, fun hPlace =>
        ⟨word[place], List.getElem?_eq_getElem hPlace, h.noBlank _ (List.getElem_mem hPlace)⟩⟩
    rw [List.mem_singleton]
    constructor
    · rintro rfl
      exact ⟨List.length_pos_iff.mpr h.ne_nil, fun place _ hStop => (hFilled place).mpr hStop,
        nofun, fun hBehind => Nat.lt_irrefl _ hBehind.lt_length⟩
    · intro hRun
      have hStart : run.1 = 0 := by
        by_contra hPos
        have hOrder := hRun.start_lt_stop
        have hStop := hRun.stop_le_length
        exact hRun.before (run.1 - 1) (by omega) ((hFilled _).mpr (by omega))
      have hStop : ¬ run.2 < word.length := fun hLess => hRun.behind ((hFilled _).mpr hLess)
      exact Prod.ext hStart (Nat.le_antisymm hRun.stop_le_length (Nat.le_of_not_lt hStop))

/-- **The words of a text are its maximal runs**, in order. -/
theorem exists_areMaximalRuns (text : Text) :
    ∃ runs, AreMaximalRuns text runs ∧ words text = runs.map (stretch text) := by
  induction text using blankInduction with
  | nil =>
    refine ⟨[], ⟨.nil, fun run => iff_of_false List.not_mem_nil fun hRun => ?_⟩, rfl⟩
    exact Nat.not_lt_zero _ (hRun.filled run.1 (Nat.le_refl _) hRun.start_lt_stop).lt_length
  | word word hWord =>
    refine ⟨_, areMaximalRuns_of_isWord hWord, ?_⟩
    rw [words_of_isWord hWord, List.map_singleton, stretch, List.take_length, List.drop_zero]
  | append left blank right hBlank ihLeft ihRight =>
    obtain ⟨first, hFirst, hLeft⟩ := ihLeft
    obtain ⟨second, hSecond, hRight⟩ := ihRight
    refine ⟨_, hFirst.append_blank hBlank hSecond, ?_⟩
    rw [words_append_blank hBlank, hLeft, hRight, List.map_append, List.map_map]
    congr 1
    · refine List.map_congr_left fun run hRun => ?_
      have hStop := ((hFirst.mem_iff run).mp hRun).stop_le_length
      exact (stretch_append_left hStop _).symm
    · exact List.map_congr_left fun run _ => (stretch_append_right left right blank run).symm

/-! ## What the words hold -/

/-- The words hold all of a text but its blanks. -/
theorem flatten_words (text : Text) : (words text).flatten = text.filter fun c => !isBlank c := by
  induction text using blankInduction with
  | nil => rfl
  | word word hWord =>
    rw [words_of_isWord hWord, List.flatten_singleton, List.filter_eq_self.mpr]
    exact fun c hc => by rw [hWord.noBlank c hc]; rfl
  | append left blank right hBlank ihLeft ihRight =>
    rw [words_append_blank hBlank, List.flatten_append, ihLeft, ihRight, List.filter_append,
      List.filter_cons_of_neg (by rw [hBlank]; exact Bool.false_ne_true)]

end PocketCalc.Text

namespace PocketCalc.Line

open PocketCalc.Text

theorem truncation_ofText_eq_none_iff (text : Text) :
    (ofText text).truncation = none ↔ (Text.upper text).length ≤ maxLength ∧
      (Text.words ((Text.upper text).take maxLength)).length ≤ maxWords := by
  unfold truncation
  rw [ite_eq_right_iff]
  simp [ofText]

theorem flatten_words_ofText_prefix (text : Text) :
    (ofText text).words.flatten <+: (Text.upper text).filter fun c => !isBlank c := by
  obtain ⟨dropped, hWords⟩ : (ofText text).words <+: Text.words ((Text.upper text).take maxLength) :=
    List.take_prefix ..
  have hClipped := (List.take_prefix maxLength (Text.upper text)).filter fun c => !isBlank c
  rw [← flatten_words, ← hWords, List.flatten_append] at hClipped
  exact (List.prefix_append ..).trans hClipped

theorem flatten_words_ofText {text : Text} (h : (ofText text).truncation = none) :
    (ofText text).words.flatten = (Text.upper text).filter fun c => !isBlank c := by
  obtain ⟨hLength, hWords⟩ := (truncation_ofText_eq_none_iff text).mp h
  unfold ofText
  dsimp only
  rw [List.take_of_length_le hWords, List.take_of_length_le hLength, flatten_words]

/-- **Nothing of a line is lost silently.** Let a line be put in upper case and be clipped to its
first 80 scalars. Its words are the first three maximal runs of what is left, in order, or all of
them if there are fewer; none of them is empty or has a blank in it, and with single spaces between
them they have at most 80 scalars. The line is said to be cut unless it has at most 80 scalars in
upper case and at most three runs. If it is not, the words hold all of the upper case but its blanks,
and in any case they hold the beginning of that. -/
theorem words_ofText_maximalRuns (text : Text) :
    let capitals := Text.upper text
    let clipped := capitals.take 80
    let line := ofText text
    ∃ runs, (∀ others, AreMaximalRuns clipped others ↔ others = runs) ∧
      line.words = (runs.take 3).map (stretch clipped) ∧
      (∀ word ∈ line.words, word ≠ [] ∧ ∀ c ∈ word, isBlank c = false) ∧
      (joinWords line.words).length ≤ 80 ∧
      (line.truncation = none ↔ capitals.length ≤ 80 ∧ runs.length ≤ 3) ∧
      (line.truncation = none → line.words.flatten = capitals.filter fun c => !isBlank c) ∧
      line.words.flatten <+: capitals.filter fun c => !isBlank c := by
  intro capitals clipped line
  obtain ⟨runs, hRuns, hWords⟩ := exists_areMaximalRuns clipped
  have hLine : line.words = (Text.words clipped).take 3 := rfl
  refine ⟨runs, fun others => ⟨fun hOthers => hOthers.unique hRuns, fun hSame => hSame ▸ hRuns⟩,
    ?_, fun word hMem => ?_, length_text_le text, ?_, flatten_words_ofText,
    flatten_words_ofText_prefix text⟩
  · rw [hLine, hWords, List.map_take]
  · have hWord := isWord_of_mem_ofText hMem
    exact ⟨hWord.ne_nil, hWord.noBlank⟩
  · have hCount : (Text.words clipped).length = runs.length := by rw [hWords, List.length_map]
    rw [← hCount]
    exact truncation_ofText_eq_none_iff text

/-- Here 41 scalars are 80 in upper case, where each sharp s is written as two letters, and that is
just what a line can have. -/
theorem words_ofText_eightyCapitals :
    let text := 'a' :: '\u3000' :: List.replicate 39 'ß'
    (Text.upper text).length = 80 ∧ (ofText text).truncation = none ∧
      (ofText text).words.flatten = (Text.upper text).filter fun c => !isBlank c := by
  intro text
  obtain ⟨_, _, _, _, _, _, hWhole, _⟩ := words_ofText_maximalRuns text
  have hNone : (ofText text).truncation = none := by decide +kernel
  exact ⟨by decide +kernel, hNone, hWhole hNone⟩

end PocketCalc.Line
