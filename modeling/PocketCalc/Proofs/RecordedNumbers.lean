import PocketCalc.Proofs.ClosestDecimal
import PocketCalc.Proofs.FloatModel

/-!
# Numbers in records

`IsNumberText x text` says how a value is written in a record. NaN, the infinities and the zeros have
texts of their own. Any other value is written with the digits of the decimal closest to it
(`Decimal.IsClosest`): at their places, with at least one digit after the point, if the value is from
10⁻⁴ up to 10¹⁶, and otherwise with one digit before the point and an exponent.

The layout of the log is this notation (`isNumberText_iff`). It does not look at the value, but at the
place of the point in the decimal, which has been rounded. The two agree because both limits are
decimals of magnitudes themselves, and these are in the order of the magnitudes
(`Decimal.IsClosest.isPositional_iff`). Where the point is among the digits, those before it are the
digits of a quotient by a power of ten (`toDigits_eq_append_lastDigits`).
-/

namespace PocketCalc

/-! ## The notation -/

/-- The last digits of a number, with zeros in front where it has fewer. -/
def lastDigits : ℕ → ℕ → Text
  | 0, _ => []
  | places + 1, n => lastDigits places (n / 10) ++ [Nat.digitChar (n % 10)]

/-- The numbers that a record writes without an exponent. -/
def IsMiddling (q : ℚ) : Prop := 1 / 10 ^ 4 ≤ q ∧ q < 10 ^ 16

/-- How a positive value is written in a record, given the decimal that stands for it: with all its
digits and at least one after the point, or else with one digit before the point, none after it if
there are no more, and an exponent. -/
inductive Decimal.IsWritten (decimal : Decimal) (value : ℚ) : Text → Prop
  | whole {scale : ℕ} (hSize : IsMiddling value) (hScale : decimal.exponent = scale) :
      decimal.IsWritten value
        (Nat.toDigits 10 (decimal.coefficient * 10 ^ scale) ++ ".0".toList)
  | fraction {places : ℕ} (hSize : IsMiddling value) (hSome : 0 < places)
      (hPlaces : decimal.exponent = -places) :
      decimal.IsWritten value
        (Nat.toDigits 10 (decimal.coefficient / 10 ^ places) ++
          '.' :: lastDigits places decimal.coefficient)
  | scientific {first : Char} {rest : Text} (hSize : ¬ IsMiddling value)
      (hDigits : Nat.toDigits 10 decimal.coefficient = first :: rest) :
      decimal.IsWritten value
        (first :: (Numeral.fractionText rest ++
          'e' :: (toString (decimal.exponent + rest.length)).toList))

/-- How a value is written in a record. -/
inductive IsNumberText (x : Float) : Text → Prop
  | notANumber (h : x.isNaN = true) : IsNumberText x "NaN".toList
  | infinite (h : Binary64.magnitude x = Binary64.infinity) :
      IsNumberText x (Numeral.signText (Binary64.isNegative x) ++ "inf".toList)
  | zero (h : Binary64.magnitude x = 0) :
      IsNumberText x (Numeral.signText (Binary64.isNegative x) ++ "0.0".toList)
  | finite {decimal : Decimal} {text : Text} (hFinite : Binary64.isFinite x = true)
      (hNonzero : Binary64.magnitude x ≠ 0) (hClosest : decimal.IsClosest (Binary64.magnitude x))
      (hWritten : decimal.IsWritten (Binary64.value (Binary64.magnitude x)) text) :
      IsNumberText x (Numeral.signText (Binary64.isNegative x) ++ text)

/-! ## Digits -/

theorem length_lastDigits (places n : ℕ) : (lastDigits places n).length = places := by
  induction places generalizing n with
  | zero => rfl
  | succ places ih => rw [lastDigits, List.length_append, ih, List.length_singleton]

theorem lastDigits_zero (places : ℕ) : lastDigits places 0 = List.replicate places '0' := by
  induction places with
  | zero => rfl
  | succ places ih =>
    rw [lastDigits, Nat.zero_div, ih, List.replicate_succ']
    rfl

/-- The last digits are cut off. -/
theorem toDigits_eq_append_lastDigits {places n : ℕ} (h : 10 ^ places ≤ n) :
    Nat.toDigits 10 n = Nat.toDigits 10 (n / 10 ^ places) ++ lastDigits places n := by
  induction places generalizing n with
  | zero => rw [Nat.pow_zero, Nat.div_one, lastDigits, List.append_nil]
  | succ places ih =>
    rw [Nat.pow_succ] at h
    have hTen : 10 ≤ n := by
      have hPower : 0 < 10 ^ places := by positivity
      omega
    have hTenth : 10 ^ places ≤ n / 10 := by omega
    rw [Nat.toDigits_of_base_le (by decide) hTen, ih hTenth, lastDigits, Nat.pow_succ',
      ← Nat.div_div_eq_div_mul, List.append_assoc]

/-- If these are all digits and more, there are zeros in front. -/
theorem lastDigits_of_lt {places n : ℕ} (h : n < 10 ^ places) (hSome : 0 < places) :
    lastDigits places n =
      List.replicate (places - (Nat.toDigits 10 n).length) '0' ++ Nat.toDigits 10 n := by
  induction places generalizing n with
  | zero => omega
  | succ places ih =>
    rw [lastDigits]
    rcases Nat.lt_or_ge n 10 with hDigit | hTen
    · have hNone : n / 10 = 0 := Nat.div_eq_of_lt hDigit
      rw [hNone, lastDigits_zero, Nat.mod_eq_of_lt hDigit, Nat.toDigits_of_lt_base hDigit]
      rfl
    · rw [Nat.pow_succ] at h
      have hTenth : n / 10 < 10 ^ places := by omega
      have hPlaces : 0 < places := Decimal.pos_of_lt_ten_pow (by omega) hTenth
      rw [ih hTenth hPlaces, Nat.toDigits_of_base_le (by decide) hTen, List.length_append,
        List.length_singleton, Nat.add_sub_add_right, List.append_assoc]

/-- A power of ten puts zeros behind the digits. -/
theorem toDigits_mul_ten_pow {n : ℕ} (h : n ≠ 0) (scale : ℕ) :
    Nat.toDigits 10 (n * 10 ^ scale) = Nat.toDigits 10 n ++ List.replicate scale '0' := by
  induction scale with
  | zero => rw [Nat.pow_zero, Nat.mul_one, List.replicate_zero, List.append_nil]
  | succ scale ih =>
    have hPos : 0 < n * 10 ^ scale := Nat.mul_pos (Nat.pos_of_ne_zero h) (by positivity)
    have hNext : n * 10 ^ (scale + 1) = 10 * (n * 10 ^ scale) + 0 := by ring
    rw [hNext, ← Nat.toDigits_append_toDigits (by decide) hPos (by decide), ih, List.append_assoc,
      List.replicate_succ', Nat.toDigits_zero]

/-! ## The layout -/

theorem Layout.integer_eq_toString (n : ℤ) : integer n = (toString n).toList := by
  cases n with
  | ofNat n => exact Nat.toList_repr.symm
  | negSucc n =>
    rw [integer, if_pos (Int.negSucc_lt_zero n)]
    show '-' :: Nat.toDigits 10 (n + 1) = ("-" ++ Nat.repr (n + 1)).toList
    rw [String.toList_append, Nat.toList_repr]
    rfl

namespace Decimal

variable {decimal : Decimal}

/-- The place of the point in a decimal, counted from before its first digit. -/
def point (decimal : Decimal) : ℤ :=
  (Nat.toDigits 10 decimal.coefficient).length + decimal.exponent

theorem positionalText_of_exponent_eq {scale : ℕ} (hNonzero : decimal.coefficient ≠ 0)
    (hScale : decimal.exponent = scale) :
    Layout.record.positionalText (Nat.toDigits 10 decimal.coefficient) decimal.point =
      Nat.toDigits 10 (decimal.coefficient * 10 ^ scale) ++ ".0".toList := by
  have hSome : 0 < (Nat.toDigits 10 decimal.coefficient).length := Nat.length_toDigits_pos
  rw [toDigits_mul_ten_pow hNonzero, point, hScale]
  generalize Nat.toDigits 10 decimal.coefficient = digits at *
  have hBehind : ¬ (digits.length + scale : ℤ) ≤ 0 := by omega
  have hWhole : digits.length ≤ (digits.length + scale : ℤ).natAbs := by omega
  have hGap : (digits.length + scale : ℤ).natAbs - digits.length = scale := by omega
  rw [Layout.positionalText, if_neg hBehind, if_pos hWhole, hGap]
  rfl

theorem positionalText_of_exponent_eq_neg {places : ℕ} (hNonzero : decimal.coefficient ≠ 0)
    (hSome : 0 < places) (hPlaces : decimal.exponent = -places) :
    Layout.record.positionalText (Nat.toDigits 10 decimal.coefficient) decimal.point =
      Nat.toDigits 10 (decimal.coefficient / 10 ^ places) ++
        '.' :: lastDigits places decimal.coefficient := by
  rw [point, hPlaces]
  rcases Nat.lt_or_ge decimal.coefficient (10 ^ places) with hSmall | hLarge
  · have hLength := length_toDigits_le hNonzero hSmall
    rw [Nat.div_eq_of_lt hSmall, lastDigits_of_lt hSmall hSome, Nat.toDigits_zero]
    generalize Nat.toDigits 10 decimal.coefficient = digits at *
    have hBefore : (digits.length + -places : ℤ) ≤ 0 := by omega
    have hGap : (digits.length + -places : ℤ).natAbs = places - digits.length := by omega
    rw [Layout.positionalText, if_pos hBefore, hGap]
    rfl
  · have hSplit := toDigits_eq_append_lastDigits hLarge
    have hTail := length_lastDigits places decimal.coefficient
    have hHead : 0 < (Nat.toDigits 10 (decimal.coefficient / 10 ^ places)).length :=
      Nat.length_toDigits_pos
    rw [hSplit]
    generalize Nat.toDigits 10 (decimal.coefficient / 10 ^ places) = front at *
    generalize lastDigits places decimal.coefficient = back at *
    have hPoint : ((front ++ back).length + -places : ℤ) = front.length := by
      rw [List.length_append, hTail]
      omega
    have hBehind : ¬ (front.length : ℤ) ≤ 0 := by omega
    have hAmong : ¬ (front ++ back).length ≤ (front.length : ℤ).natAbs := by
      rw [List.length_append]
      omega
    rw [hPoint, Layout.positionalText, if_neg hBehind, if_neg hAmong, Int.natAbs_natCast,
      List.take_left, List.drop_left]

theorem exponentText_of_toDigits {first : Char} {rest : Text}
    (hDigits : Nat.toDigits 10 decimal.coefficient = first :: rest) :
    Layout.exponentText (Nat.toDigits 10 decimal.coefficient) decimal.point =
      first :: (Numeral.fractionText rest ++
        'e' :: (toString (decimal.exponent + rest.length)).toList) := by
  have hPoint : decimal.point - 1 = decimal.exponent + rest.length := by
    rw [point, hDigits, List.length_cons]
    omega
  rw [Layout.exponentText, Layout.integer_eq_toString, hPoint, hDigits]
  rfl

/-! ## The choice of the notation -/

/-- A decimal is below the power of ten at its point, and not below the one before. -/
theorem value_lt_zpow_iff (hNonzero : decimal.coefficient ≠ 0) {k : ℤ} :
    decimal.value < 10 ^ k ↔ decimal.point ≤ k := by
  have hLength : 0 < (Nat.toDigits 10 decimal.coefficient).length := Nat.length_toDigits_pos
  have hBelow : decimal.value < 10 ^ decimal.point := by
    have hDigits : decimal.coefficient < 10 ^ (Nat.toDigits 10 decimal.coefficient).length :=
      (Nat.length_toDigits_le_iff (by decide) hLength).mp (Nat.le_refl _)
    rw [value, point, zpow_add₀ (by norm_num), zpow_natCast]
    refine mul_lt_mul_of_pos_right ?_ (by positivity)
    exact_mod_cast hDigits
  have hAbove : 10 ^ (decimal.point - 1) ≤ decimal.value := by
    have hDigits : 10 ^ ((Nat.toDigits 10 decimal.coefficient).length - 1) ≤ decimal.coefficient := by
      by_contra hLess
      have hFewer := length_toDigits_le hNonzero (Nat.lt_of_not_le hLess)
      omega
    have hPoint : decimal.point - 1 =
        ((Nat.toDigits 10 decimal.coefficient).length - 1 : ℕ) + decimal.exponent := by
      rw [point]
      omega
    rw [value, hPoint, zpow_add₀ (by norm_num), zpow_natCast]
    refine mul_le_mul_of_nonneg_right ?_ (by positivity)
    exact_mod_cast hDigits
  constructor
  · intro hLess
    by_contra hGreater
    have hPower : (10 : ℚ) ^ k ≤ 10 ^ (decimal.point - 1) :=
      zpow_le_zpow_right₀ (by norm_num) (by omega)
    exact absurd (hPower.trans hAbove) (not_le.mpr hLess)
  · intro hPoint
    exact hBelow.trans_le (zpow_le_zpow_right₀ (by norm_num) hPoint)

/-- The magnitude bits of the least value that is at least 10⁻⁴. -/
def leastMiddling : ℕ := 0x3F1A36E2EB1C432D

/-- The magnitude bits of 10¹⁶, which is a value. -/
def endMiddling : ℕ := 0x4341C37937E08000

theorem isMiddling_iff {bits : ℕ} :
    IsMiddling (Binary64.value bits) ↔ leastMiddling ≤ bits ∧ bits < endMiddling := by
  have hLeast : Binary64.value bits < (1 : ℕ) / (10 ^ 4 : ℕ) ↔ bits < leastMiddling :=
    Binary64.value_lt_iff_of_units (by decide) (by decide +kernel) (by decide +kernel)
  have hEnd : Binary64.value bits < (10 ^ 16 : ℕ) / (1 : ℕ) ↔ bits < endMiddling :=
    Binary64.value_lt_iff_of_units (by decide) (by decide +kernel) (by decide +kernel)
  rw [Nat.cast_one, Nat.cast_pow, Nat.cast_ofNat] at hLeast
  rw [Nat.cast_pow, Nat.cast_ofNat, Nat.cast_one, div_one] at hEnd
  rw [IsMiddling, ← not_lt, hLeast, hEnd, Nat.not_lt]

/-- **The decimal decides about its magnitude**, since the two limits are decimals of magnitudes. -/
theorem IsClosest.isPositional_iff {bits : ℕ} (h : decimal.IsClosest bits)
    (hNonzero : decimal.coefficient ≠ 0) :
    Layout.record.isPositional decimal.point = true ↔ IsMiddling (Binary64.value bits) := by
  have hLeast : IsClosest ⟨1, -4⟩ leastMiddling := by
    have hShortest : shortest leastMiddling = ⟨1, -4⟩ := by decide +kernel
    exact hShortest ▸ isClosest_shortest (by decide) (by decide)
  have hEnd : IsClosest ⟨1, 16⟩ endMiddling := by
    have hShortest : shortest endMiddling = ⟨1, 16⟩ := by decide +kernel
    exact hShortest ▸ isClosest_shortest (by decide) (by decide)
  have hValue (k : ℤ) : value ⟨1, k⟩ = 10 ^ k := by rw [value, Nat.cast_one, one_mul]
  have hBefore := h.value_lt_iff hLeast
  have hBelow := h.value_lt_iff hEnd
  rw [hValue, value_lt_zpow_iff hNonzero] at hBefore hBelow
  have hPositional : Layout.record.isPositional decimal.point = true ↔
      -3 ≤ decimal.point ∧ decimal.point ≤ 16 := by
    show (decide (-3 ≤ decimal.point) && decide (decimal.point ≤ 16)) = true ↔ _
    rw [Bool.and_eq_true, decide_eq_true_iff, decide_eq_true_iff]
  rw [hPositional, isMiddling_iff]
  omega

/-- **A record writes the decimal that stands for a magnitude.** -/
theorem IsClosest.isWritten_iff {bits : ℕ} (h : decimal.IsClosest bits)
    (hNonzero : decimal.coefficient ≠ 0) {text : Text} :
    decimal.IsWritten (Binary64.value bits) text ↔ text = Layout.record.decimalText decimal := by
  have hPositional := h.isPositional_iff hNonzero
  show _ ↔ text = if Layout.record.isPositional decimal.point = true then
    Layout.record.positionalText (Nat.toDigits 10 decimal.coefficient) decimal.point
    else Layout.exponentText (Nat.toDigits 10 decimal.coefficient) decimal.point
  constructor
  · rintro (⟨hSize, hScale⟩ | ⟨hSize, hSome, hPlaces⟩ | ⟨hSize, hDigits⟩)
    · rw [if_pos (hPositional.mpr hSize), positionalText_of_exponent_eq hNonzero hScale]
    · rw [if_pos (hPositional.mpr hSize),
        positionalText_of_exponent_eq_neg hNonzero hSome hPlaces]
    · rw [if_neg (mt hPositional.mp hSize), exponentText_of_toDigits hDigits]
  · rintro rfl
    by_cases hSize : IsMiddling (Binary64.value bits)
    · rw [if_pos (hPositional.mpr hSize)]
      rcases lt_or_ge decimal.exponent 0 with hPlaces | hScale
      · obtain ⟨places, hPlaces⟩ : ∃ places : ℕ, decimal.exponent = -places :=
          ⟨decimal.exponent.natAbs, by omega⟩
        rw [positionalText_of_exponent_eq_neg hNonzero (by omega) hPlaces]
        exact .fraction hSize (by omega) hPlaces
      · obtain ⟨scale, hScale⟩ := Int.eq_ofNat_of_zero_le hScale
        rw [positionalText_of_exponent_eq hNonzero hScale]
        exact .whole hSize hScale
    · rw [if_neg (mt hPositional.mp hSize)]
      obtain ⟨first, rest, hDigits⟩ := List.exists_cons_of_ne_nil
        (@Nat.toDigits_ne_nil decimal.coefficient 10)
      rw [exponentText_of_toDigits hDigits]
      exact .scientific hSize hDigits

end Decimal

/-- What is written of a value: nothing but its kind if it is NaN, and else its sign and magnitude. -/
theorem Layout.write_eq_signText (layout : Layout) (x : Float) :
    layout.write x =
      if Binary64.infinity < Binary64.magnitude x then "NaN".toList
      else Numeral.signText (Binary64.isNegative x) ++
        layout.magnitudeText (Binary64.magnitude x) := by
  rw [write]
  cases Binary64.isNegative x <;> rfl

theorem Layout.magnitudeText_of_finite (layout : Layout) {bits : ℕ} (hNonzero : bits ≠ 0)
    (hFinite : bits < Binary64.infinity) :
    layout.magnitudeText bits = layout.decimalText (Decimal.shortest bits) := by
  rw [magnitudeText, if_neg hNonzero, if_pos hFinite]

/-- **A record writes a value as it is said here, and in no other way.** -/
theorem isNumberText_iff {x : Float} {text : Text} :
    IsNumberText x text ↔ text = Layout.record.write x := by
  rw [Layout.write_eq_signText]
  constructor
  · rintro (hNaN | hInfinite | hZero | ⟨hFinite, hNonzero, hClosest, hWritten⟩)
    · rw [if_pos (Binary64.isNaN_iff.mp hNaN)]
    · rw [hInfinite, if_neg (Nat.lt_irrefl _)]
      rfl
    · rw [hZero, if_neg (Nat.not_lt_zero _)]
      rfl
    · have hLess : Binary64.magnitude x < Binary64.infinity := of_decide_eq_true hFinite
      obtain rfl := hClosest.unique (Decimal.isClosest_shortest hLess hNonzero)
      rw [if_neg (Nat.lt_asymm hLess), Layout.magnitudeText_of_finite _ hNonzero hLess,
        (hClosest.isWritten_iff (Decimal.coefficient_shortest_ne_zero hNonzero)).mp hWritten]
  · rintro rfl
    rcases Nat.lt_trichotomy Binary64.infinity (Binary64.magnitude x) with hNaN | hInfinite | hLess
    · rw [if_pos hNaN]
      exact .notANumber (Binary64.isNaN_iff.mpr hNaN)
    · rw [← hInfinite, if_neg (Nat.lt_irrefl _)]
      exact .infinite hInfinite.symm
    · rw [if_neg (Nat.lt_asymm hLess)]
      by_cases hNonzero : Binary64.magnitude x = 0
      · rw [hNonzero]
        exact .zero hNonzero
      · have hClosest := Decimal.isClosest_shortest hLess hNonzero
        rw [Layout.magnitudeText_of_finite _ hNonzero hLess]
        exact .finite (decide_eq_true hLess) hNonzero hClosest
          ((hClosest.isWritten_iff (Decimal.coefficient_shortest_ne_zero hNonzero)).mpr rfl)

example : IsNumberText 1e16 "1e16".toList := isNumberText_iff.mpr (by decide +kernel)

example : IsNumberText 0.00012 "0.00012".toList := isNumberText_iff.mpr (by decide +kernel)

end PocketCalc
