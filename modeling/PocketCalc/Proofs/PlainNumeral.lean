import Mathlib
import PocketCalc.Number.Layout
import PocketCalc.Number.Numeral
import PocketCalc.Proofs.ShortestDecimal

/-!
# Plain numerals

A plain numeral has digits before its point and no exponent. Its text is read as the numeral that
it is (`scan?_plainText`), because nothing in it can be taken for anything else: the first scalar
after the sign is a digit, and the point ends the digits before it.

`Numeral.ofDecimal` is the numeral whose text the plain layout writes for a decimal
(`plainText_ofDecimal`). Zeros that only fill the gap between the point and the digits are part of
it. In front they change nothing, while those at the end are a factor that the exponent of the
decimal used to be, so the two are the same number but not the same decimal
(`nearest_decimal_ofDecimal`).
-/

namespace PocketCalc

namespace Numeral

/-- The sign of a numeral, which is written only if it is a minus. -/
def signText (negative : Bool) : Text := if negative then ['-'] else []

/-- Digits after a point, which is not written if there are none. -/
def fractionText (fraction : Text) : Text := if fraction.isEmpty then [] else '.' :: fraction

/-- The text of a plain numeral. -/
def plainText (numeral : Numeral) : Text :=
  signText numeral.negative ++ (numeral.whole ++ fractionText numeral.fraction)

/-- What makes a numeral plain. -/
structure IsPlain (numeral : Numeral) : Prop where
  whole_ne_nil : numeral.whole ≠ []
  isDigit_whole : ∀ c ∈ numeral.whole, c.isDigit = true
  isDigit_fraction : ∀ c ∈ numeral.fraction, c.isDigit = true
  exponent_eq : numeral.exponent = 0

/-! ## Reading the text of a plain numeral -/

theorem scanSign_signText (negative : Bool) {first : Char} (h : first.isDigit = true)
    (rest : Text) : scanSign (signText negative ++ first :: rest) = (negative, first :: rest) := by
  cases negative with
  | true => rfl
  | false =>
    show scanSign (first :: rest) = (false, first :: rest)
    unfold scanSign
    split
    · rename_i hMinus
      obtain ⟨rfl, _⟩ := List.cons.inj hMinus
      exact absurd h (by decide)
    · rename_i hPlus
      obtain ⟨rfl, _⟩ := List.cons.inj hPlus
      exact absurd h (by decide)
    · rfl

/-- Digits end where the rest does not begin with one. -/
theorem takeWhile_isDigit_append {digits rest : Text} (hDigits : ∀ c ∈ digits, c.isDigit = true)
    (hRest : ∀ c ∈ rest.head?, c.isDigit = false) :
    (digits ++ rest).takeWhile Char.isDigit = digits ∧
      (digits ++ rest).dropWhile Char.isDigit = rest := by
  rw [List.takeWhile_append_of_pos hDigits, List.dropWhile_append_of_pos hDigits]
  cases rest with
  | nil => simp
  | cons first rest =>
    have hFirst : first.isDigit = false := hRest first rfl
    simp [hFirst]

/-- The digits before the point end where the fraction begins. -/
theorem digits_append_fractionText {whole : Text} (h : ∀ c ∈ whole, c.isDigit = true)
    (fraction : Text) :
    (whole ++ fractionText fraction).takeWhile Char.isDigit = whole ∧
      (whole ++ fractionText fraction).dropWhile Char.isDigit = fractionText fraction := by
  refine takeWhile_isDigit_append h fun c hc => ?_
  cases fraction with
  | nil => cases hc
  | cons first rest =>
    cases hc
    rfl

theorem scanFraction_fractionText {fraction : Text} (h : ∀ c ∈ fraction, c.isDigit = true) :
    scanFraction (fractionText fraction) = (fraction, []) := by
  cases fraction with
  | nil => rfl
  | cons first rest =>
    show ((first :: rest).takeWhile Char.isDigit, (first :: rest).dropWhile Char.isDigit) = _
    rw [List.takeWhile_eq_self_iff.mpr h, List.dropWhile_eq_nil_iff.mpr h]

/-- **A plain numeral is read back from its text.** -/
theorem scan?_plainText {numeral : Numeral} (h : numeral.IsPlain) :
    scan? numeral.plainText = some numeral := by
  obtain ⟨negative, whole, fraction, exponent⟩ := numeral
  obtain ⟨hNonempty, hWhole, hFraction, rfl⟩ := h
  obtain ⟨first, rest, rfl⟩ := List.exists_cons_of_ne_nil hNonempty
  obtain ⟨hTake, hDrop⟩ := digits_append_fractionText hWhole fraction
  have hSign := scanSign_signText negative (hWhole first (List.mem_cons_self ..))
    (rest ++ fractionText fraction)
  rw [← List.cons_append] at hSign
  simp only [scan?, plainText, hSign, hTake, hDrop, scanFraction_fractionText hFraction]
  rfl

/-- The scalars of a plain numeral are digits, a minus and a point. -/
theorem mem_plainText {numeral : Numeral} (h : numeral.IsPlain) {c : Char}
    (hc : c ∈ numeral.plainText) : c.isDigit = true ∨ c = '-' ∨ c = '.' := by
  rw [plainText, List.mem_append, List.mem_append] at hc
  rcases hc with hSign | hWhole | hFraction
  · rw [signText] at hSign
    split at hSign
    · exact .inr (.inl (List.mem_singleton.mp hSign))
    · cases hSign
  · exact .inl (h.isDigit_whole c hWhole)
  · rw [fractionText] at hFraction
    split at hFraction
    · cases hFraction
    · rcases List.mem_cons.mp hFraction with rfl | hMem
      · exact .inr (.inr rfl)
      · exact .inl (h.isDigit_fraction c hMem)

/-! ## What digits are worth -/

theorem digitsValue_toDigits (n : Nat) : digitsValue (Nat.toDigits 10 n) = n :=
  Nat.ofDigitChars_ten_toDigits

theorem digitsValue_replicate_append (count : Nat) (digits : Text) :
    digitsValue (List.replicate count '0' ++ digits) = digitsValue digits := by
  have hZeros : Nat.ofDigitChars 10 (List.replicate count '0') 0 = 0 := by
    rw [Nat.ofDigitChars_replicate_zero, Nat.mul_zero]
  show Nat.ofDigitChars 10 _ 0 = Nat.ofDigitChars 10 digits 0
  rw [Nat.ofDigitChars_append, hZeros]

theorem digitsValue_append_replicate (digits : Text) (count : Nat) :
    digitsValue (digits ++ List.replicate count '0') = digitsValue digits * Nat.pow 10 count := by
  show Nat.ofDigitChars 10 _ 0 = Nat.ofDigitChars 10 digits 0 * Nat.pow 10 count
  rw [Nat.ofDigitChars_append, Nat.ofDigitChars_replicate_zero, Nat.mul_comm]
  rfl

/-! ## The numeral of a decimal -/

/-- The numeral of a decimal, with the point where the exponent puts it. -/
def ofDecimal (negative : Bool) (decimal : Decimal) : Numeral :=
  let digits := Nat.toDigits 10 decimal.coefficient
  let point := digits.length + decimal.exponent
  if point ≤ 0 then
    { negative, whole := ['0'], fraction := List.replicate point.natAbs '0' ++ digits, exponent := 0 }
  else if digits.length ≤ point.natAbs then
    { negative, whole := digits ++ List.replicate (point.natAbs - digits.length) '0',
      fraction := [], exponent := 0 }
  else
    { negative, whole := digits.take point.natAbs, fraction := digits.drop point.natAbs,
      exponent := 0 }

theorem negative_ofDecimal (negative : Bool) (decimal : Decimal) :
    (ofDecimal negative decimal).negative = negative := by
  simp only [ofDecimal]
  split
  · rfl
  · split <;> rfl

theorem isPlain_ofDecimal (negative : Bool) (decimal : Decimal) :
    (ofDecimal negative decimal).IsPlain := by
  have hDigits : ∀ c ∈ Nat.toDigits 10 decimal.coefficient, c.isDigit = true :=
    fun _ h => Nat.isDigit_of_mem_toDigits (by decide) (by decide) h
  have hZeros (count : Nat) : ∀ c ∈ List.replicate count '0', c.isDigit = true := by
    intro c hc
    rw [List.eq_of_mem_replicate hc]
    rfl
  have hAppend {left right : Text} (hLeft : ∀ c ∈ left, c.isDigit = true)
      (hRight : ∀ c ∈ right, c.isDigit = true) : ∀ c ∈ left ++ right, c.isDigit = true :=
    List.forall_mem_append.mpr ⟨hLeft, hRight⟩
  simp only [ofDecimal]
  split
  · exact ⟨List.cons_ne_nil _ _, hZeros 1, hAppend (hZeros _) hDigits, rfl⟩
  · rename_i hPoint
    split
    · exact ⟨by simp [Nat.toDigits_ne_nil], hAppend hDigits (hZeros _), by simp, rfl⟩
    · refine ⟨?_, fun c hc => hDigits c (List.mem_of_mem_take hc),
        fun c hc => hDigits c (List.mem_of_mem_drop hc), rfl⟩
      rw [Ne, List.take_eq_nil_iff, not_or]
      exact ⟨by omega, Nat.toDigits_ne_nil⟩

theorem plainText_ofDecimal (negative : Bool) (decimal : Decimal) :
    (ofDecimal negative decimal).plainText =
      signText negative ++ Layout.plain.decimalText decimal := by
  have hPositional (point : Int) : Layout.plain.isPositional point = true := rfl
  have hTail : Layout.plain.wholeTail = [] := rfl
  rw [plainText, negative_ofDecimal, Layout.decimalText]
  congr 1
  simp only [hPositional, if_true, Layout.positionalText, ofDecimal]
  split
  · have hNonempty : Nat.toDigits 10 decimal.coefficient ≠ [] := Nat.toDigits_ne_nil
    simp [fractionText, hNonempty]
  · split
    · simp [fractionText, hTail]
    · rename_i hLength
      simp [fractionText, hLength]

/-- The decimal of the numeral of a decimal: another one only if the number is whole. -/
theorem nearest_decimal_ofDecimal (negative : Bool) {decimal : Decimal}
    (h : decimal.exponent < 310) :
    (ofDecimal negative decimal).decimal.nearest = decimal.nearest := by
  obtain ⟨coefficient, exponent⟩ := decimal
  have hExponent : exponent < 310 := h
  have hValue := digitsValue_toDigits coefficient
  have hZero (text : Text) : digitsValue ('0' :: text) = digitsValue text :=
    digitsValue_replicate_append 1 text
  simp only [ofDecimal]
  generalize Nat.toDigits 10 coefficient = digits at hValue ⊢
  split
  · rename_i hPoint
    have hSame : exponent =
        0 - ((List.replicate (digits.length + exponent).natAbs '0' ++ digits).length : Int) := by
      rw [List.length_append, List.length_replicate]
      omega
    simp only [Numeral.decimal, List.singleton_append, hZero, digitsValue_replicate_append, hValue,
      ← hSame]
  · rename_i hPoint
    split
    · rename_i hLength
      obtain ⟨scale, rfl⟩ : ∃ scale : Nat, exponent = scale := ⟨exponent.natAbs, by omega⟩
      have hScale : (digits.length + (scale : Int)).natAbs - digits.length = scale := by omega
      simp only [Numeral.decimal, List.append_nil, hScale, digitsValue_append_replicate, hValue]
      exact Decimal.nearest_mul_ten_pow coefficient (by omega)
    · rename_i hLength
      have hSame : exponent =
          0 - ((digits.drop (digits.length + exponent).natAbs).length : Int) := by
        rw [List.length_drop]
        omega
      simp only [Numeral.decimal, List.take_append_drop, hValue, ← hSame]

end Numeral
end PocketCalc
