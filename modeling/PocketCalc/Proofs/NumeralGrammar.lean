import Mathlib
import PocketCalc.Number.Numeral
import PocketCalc.Proofs.PlainNumeral

/-!
# The grammar of numerals

`Numeral.Spells text spelling` is the grammar as it is written down, one inductive relation for each
optional part. What it speaks of is a `Numeral.Spelling`, the digits as they stand, and the number
that they write is a rational number (`Spelling.value`). There is no limit on exponents in it.

The scanner finds the spelling of a text if there is one, and finds nothing else
(`scan?_eq_some_iff`). It goes from left to right and never back. That suffices because no part can
begin with a scalar that would have made the part before it longer: what follows the sign begins
with a digit or the point, and what follows digits begins with none.
-/

namespace PocketCalc.Numeral

/-- Whether all of a text is digits. -/
def AllDigits (text : Text) : Prop := ∀ c ∈ text, c.isDigit = true

/-- A sign, and whether it makes negative. -/
inductive IsSign : Text → Bool → Prop
  | none : IsSign [] false
  | plus : IsSign ['+'] false
  | minus : IsSign ['-'] true

/-- A point with digits, and the digits. -/
inductive IsFraction : Text → Text → Prop
  | none : IsFraction [] []
  | point {digits : Text} : AllDigits digits → IsFraction ('.' :: digits) digits

/-- An exponent, whether it is negative, and its digits. -/
inductive IsExponent : Text → Bool → Text → Prop
  | none : IsExponent [] false []
  | mark {mark : Char} {sign : Text} {negative : Bool} {digits : Text} :
      mark = 'e' ∨ mark = 'E' → IsSign sign negative → digits ≠ [] → AllDigits digits →
      IsExponent (mark :: (sign ++ digits)) negative digits

/-- The digits of a numeral as they are written, and its two signs. -/
structure Spelling where
  negative : Bool
  whole : Text
  fraction : Text
  exponentNegative : Bool
  exponentDigits : Text
  deriving DecidableEq

/-- A text is a numeral: a sign, digits with a point somewhere among them, and an exponent. All of
that is optional but for one digit before or after the point. -/
inductive Spells : Text → Spelling → Prop
  | intro {sign whole point fraction exponent digits : Text} {negative exponentNegative : Bool} :
      IsSign sign negative → AllDigits whole → IsFraction point fraction →
      IsExponent exponent exponentNegative digits → ¬ (whole = [] ∧ fraction = []) →
      Spells (sign ++ (whole ++ (point ++ exponent)))
        { negative, whole, fraction, exponentNegative, exponentDigits := digits }

/-- A number with a sign. -/
def signed (negative : Bool) (magnitude : ℕ) : ℤ := if negative then -magnitude else magnitude

namespace Spelling

/-- The exponent that is written. -/
def exponent (spelling : Spelling) : ℤ :=
  signed spelling.exponentNegative (Nat.ofDigitChars 10 spelling.exponentDigits 0)

/-- The number that is written, without its sign. -/
def value (spelling : Spelling) : ℚ :=
  Nat.ofDigitChars 10 (spelling.whole ++ spelling.fraction) 0 *
    10 ^ (spelling.exponent - spelling.fraction.length)

/-- The numeral that the scanner makes of it, in which large exponents are cut short. -/
def numeral (spelling : Spelling) : Numeral where
  negative := spelling.negative
  whole := spelling.whole
  fraction := spelling.fraction
  exponent := signed spelling.exponentNegative (exponentValue spelling.exponentDigits)

end Spelling

/-! ## The parts, one after the other -/

/-- The scanner takes a sign off if there is one. -/
theorem isSign_scanSign (text : Text) :
    ∃ sign, IsSign sign (scanSign text).1 ∧ text = sign ++ (scanSign text).2 := by
  unfold scanSign
  split
  · exact ⟨_, .minus, rfl⟩
  · exact ⟨_, .plus, rfl⟩
  · exact ⟨_, .none, rfl⟩

/-- It takes the sign off that was written, if the rest does not begin with another. -/
theorem scanSign_append {sign rest : Text} {negative : Bool} (hSign : IsSign sign negative)
    (hRest : ∀ c ∈ rest.head?, c ≠ '-' ∧ c ≠ '+') : scanSign (sign ++ rest) = (negative, rest) := by
  cases hSign with
  | plus => rfl
  | minus => rfl
  | none =>
    rw [List.nil_append]
    unfold scanSign
    split
    · exact absurd rfl (hRest '-' rfl).1
    · exact absurd rfl (hRest '+' rfl).2
    · rfl

theorem ne_sign_of_isDigit {c : Char} (h : c.isDigit = true) : c ≠ '-' ∧ c ≠ '+' := by
  constructor
  · rintro rfl
    exact absurd h (by decide)
  · rintro rfl
    exact absurd h (by decide)

/-- Digits do not begin with a sign. -/
theorem ne_sign_of_head?_digits {digits : Text} (hDigits : AllDigits digits)
    (hNonempty : digits ≠ []) (rest : Text) :
    ∀ c ∈ (digits ++ rest).head?, c ≠ '-' ∧ c ≠ '+' := by
  obtain ⟨first, others, rfl⟩ := List.exists_cons_of_ne_nil hNonempty
  intro c hc
  cases hc
  exact ne_sign_of_isDigit (hDigits first (List.mem_cons_self ..))

theorem isDigits_iff {text : Text} : isDigits text = true ↔ text ≠ [] ∧ AllDigits text := by
  simp [isDigits, AllDigits]

theorem scanExponent?_eq_some_iff {text : Text} {exponent : ℤ} :
    scanExponent? text = some exponent ↔
      ∃ negative digits, IsExponent text negative digits ∧
        signed negative (exponentValue digits) = exponent := by
  constructor
  · intro h
    cases text with
    | nil =>
      cases h
      exact ⟨false, [], .none, rfl⟩
    | cons mark rest =>
      obtain ⟨sign, hSign, hText⟩ := isSign_scanSign rest
      simp only [scanExponent?] at h
      split at h
      · rename_i hMark
        obtain ⟨hNonempty, hDigits⟩ := isDigits_iff.mp hMark.2
        refine ⟨(scanSign rest).1, (scanSign rest).2, ?_, Option.some.inj h⟩
        have hExponent := IsExponent.mark hMark.1 hSign hNonempty hDigits
        rw [← hText] at hExponent
        exact hExponent
      · cases h
  · rintro ⟨negative, digits, hExponent, rfl⟩
    cases hExponent with
    | none => rfl
    | mark hMark hSign hNonempty hDigits =>
      rename_i sign
      have hHead := ne_sign_of_head?_digits hDigits hNonempty []
      rw [List.append_nil] at hHead
      have hScan : scanSign (sign ++ digits) = (negative, digits) := scanSign_append hSign hHead
      simp only [scanExponent?, hScan, hMark, isDigits_iff.mpr ⟨hNonempty, hDigits⟩, and_true,
        if_true]
      rfl

/-- An exponent begins with its mark. -/
theorem head?_isExponent {text digits : Text} {negative : Bool}
    (h : IsExponent text negative digits) : ∀ c ∈ text.head?, c.isDigit = false ∧ c ≠ '.' := by
  intro c hc
  cases h with
  | none => cases hc
  | mark hMark =>
    cases hc
    rcases hMark with rfl | rfl <;> decide

theorem isFraction_scanFraction (text : Text) :
    ∃ point, IsFraction point (scanFraction text).1 ∧ text = point ++ (scanFraction text).2 := by
  unfold scanFraction
  split
  · rename_i rest
    refine ⟨_, .point fun c hc => List.mem_takeWhile_imp hc, ?_⟩
    rw [List.cons_append, List.takeWhile_append_dropWhile]
  · exact ⟨_, .none, rfl⟩

theorem scanFraction_append {point fraction rest : Text} (hFraction : IsFraction point fraction)
    (hRest : ∀ c ∈ rest.head?, c.isDigit = false ∧ c ≠ '.') :
    scanFraction (point ++ rest) = (fraction, rest) := by
  cases hFraction with
  | none =>
    rw [List.nil_append]
    unfold scanFraction
    split
    · exact absurd rfl (hRest '.' rfl).2
    · rfl
  | point hDigits =>
    obtain ⟨hTake, hDrop⟩ := takeWhile_isDigit_append hDigits fun c hc => (hRest c hc).1
    rw [List.cons_append, scanFraction, hTake, hDrop]

/-- What follows the whole digits begins with the point or the mark. -/
theorem head?_isFraction_append {point fraction rest : Text} (hFraction : IsFraction point fraction)
    (hRest : ∀ c ∈ rest.head?, c.isDigit = false) :
    ∀ c ∈ (point ++ rest).head?, c.isDigit = false := by
  intro c hc
  cases hFraction with
  | none => exact hRest c hc
  | point =>
    cases hc
    rfl

/-- What follows the sign is no sign. -/
theorem ne_sign_of_head? {whole point fraction rest : Text} (hWhole : AllDigits whole)
    (hFraction : IsFraction point fraction) (hNonempty : ¬ (whole = [] ∧ fraction = [])) :
    ∀ c ∈ (whole ++ (point ++ rest)).head?, c ≠ '-' ∧ c ≠ '+' := by
  by_cases hWholeEmpty : whole = []
  · cases hFraction with
    | none => exact absurd ⟨hWholeEmpty, rfl⟩ hNonempty
    | point =>
      intro c hc
      rw [hWholeEmpty] at hc
      cases hc
      decide
  · exact ne_sign_of_head?_digits hWhole hWholeEmpty _

/-! ## All parts -/

theorem scan?_of_spells {text : Text} {spelling : Spelling} (h : Spells text spelling) :
    scan? text = some spelling.numeral := by
  obtain ⟨hSign, hWhole, hFraction, hExponent, hNonempty⟩ := h
  rename_i sign whole point fraction exponent digits negative exponentNegative
  have hHead := head?_isExponent hExponent
  have hSignScan : scanSign (sign ++ (whole ++ (point ++ exponent))) = _ :=
    scanSign_append hSign (ne_sign_of_head? hWhole hFraction hNonempty)
  obtain ⟨hTake, hDrop⟩ := takeWhile_isDigit_append hWhole
    (head?_isFraction_append hFraction fun c hc => (hHead c hc).1)
  have hExponentScan : scanExponent? exponent =
      some (signed exponentNegative (exponentValue digits)) :=
    scanExponent?_eq_some_iff.mpr ⟨_, _, hExponent, rfl⟩
  have hDigits : (whole.isEmpty && fraction.isEmpty) = false := by
    simpa [List.isEmpty_iff] using hNonempty
  simp only [scan?, hSignScan, hTake, hDrop, scanFraction_append hFraction hHead, hExponentScan,
    hDigits]
  rfl

theorem exists_spells_of_scan? {text : Text} {numeral : Numeral} (h : scan? text = some numeral) :
    ∃ spelling, Spells text spelling ∧ spelling.numeral = numeral := by
  obtain ⟨sign, hSign, hText⟩ := isSign_scanSign text
  obtain ⟨point, hFraction, hRest⟩ :=
    isFraction_scanFraction ((scanSign text).2.dropWhile Char.isDigit)
  simp only [scan?] at h
  split at h
  · cases h
  · rename_i hDigits
    obtain ⟨value, hExponent, rfl⟩ := Option.map_eq_some_iff.mp h
    obtain ⟨negative, digits, hExponentText, rfl⟩ := scanExponent?_eq_some_iff.mp hExponent
    have hWhole : AllDigits ((scanSign text).2.takeWhile Char.isDigit) :=
      fun c hc => List.mem_takeWhile_imp hc
    have hSpells := Spells.intro hSign hWhole hFraction hExponentText
      (by simpa [List.isEmpty_iff] using hDigits)
    rw [← hRest, List.takeWhile_append_dropWhile, ← hText] at hSpells
    exact ⟨_, hSpells, rfl⟩

/-- **The scanner recognises the grammar**, and yields the parts of the spelling. -/
theorem scan?_eq_some_iff {text : Text} {numeral : Numeral} :
    scan? text = some numeral ↔ ∃ spelling, Spells text spelling ∧ spelling.numeral = numeral := by
  refine ⟨exists_spells_of_scan?, ?_⟩
  rintro ⟨spelling, hSpells, rfl⟩
  exact scan?_of_spells hSpells

end PocketCalc.Numeral
