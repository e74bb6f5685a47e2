import Mathlib
import PocketCalc.Proofs.ShortestDecimal

/-!
# The nearest magnitude, in the rational numbers

`Binary64.IsRounding q bits` says that the magnitude `bits` is what the rational number `q` rounds
to: no magnitude is nearer to `q`, and if another one is equally near, `bits` is even. That is IEEE
754 rounding to nearest with ties to even, and the least bit of the fraction is the least bit of the
magnitude. The magnitudes here go on past `infinity` as if the exponent had no upper limit, so what
is rounded to `infinity` or beyond is what the standard calls an overflow. It begins half a step
above the largest finite value (`IsRounding.lt_infinity_iff`). A number rounds to one magnitude only,
and a larger number to no smaller one (`IsRounding.unique`, `IsRounding.mono`).

`Decimal.isRounding_nearest` is the theorem of this module: where no power of ten is too large to be
formed, `Decimal.nearest` is such a rounding. The excess bits are what it turns on. Once they are
known, the magnitudes split into those on the grid that is rounded to, where rounding to the nearest
whole number decides, and those of lower binades, which lie beyond a point of that grid and cannot
be nearer (`units_multiple_or_lt`).
-/

namespace PocketCalc

namespace Binary64

/-! ## Magnitudes in order -/

theorem binade_pos : 0 < binade := by decide

/-- A magnitude past the subnormals, by its significand and the number of its binade. -/
theorem exists_eq_add_mul {bits : ℕ} (h : binade ≤ bits) :
    ∃ significand k, binade ≤ significand ∧ significand < 2 * binade ∧
      bits = significand + k * binade := by
  have hParts : bits / binade * binade + bits % binade = bits := Nat.div_add_mod' ..
  have hFraction : bits % binade < binade := Nat.mod_lt _ binade_pos
  obtain ⟨k, hk⟩ : ∃ k, bits / binade = k + 1 :=
    Nat.exists_eq_succ_of_ne_zero (Nat.ne_of_gt (Nat.div_pos h binade_pos))
  rw [hk, Nat.succ_mul] at hParts
  exact ⟨binade + bits % binade, k, by omega, by omega, by omega⟩

/-- What a significand counts for, up to the carry into the next binade. -/
theorem units_add_mul {significand k : ℕ} (hLeast : binade ≤ significand)
    (hMost : significand ≤ 2 * binade) :
    units (significand + k * binade) = significand * 2 ^ k := by
  have hNormal : ¬ significand + k * binade < binade := by omega
  rw [units, if_neg hNormal, Nat.add_mul_div_right _ _ binade_pos, Nat.add_mul_mod_self_right]
  rcases Nat.eq_or_lt_of_le hMost with rfl | hSmall
  · have hTwo : 2 * binade / binade = 2 := Nat.mul_div_cancel _ binade_pos
    have hExponent : 2 + k - 1 = k + 1 := by omega
    rw [hTwo, hExponent, Nat.mul_mod_left, Nat.add_zero]
    show binade * 2 ^ (k + 1) = 2 * binade * 2 ^ k
    ring
  · have hOne : significand / binade = 1 := Nat.div_eq_of_lt_le (by omega) (by omega)
    have hFraction : significand % binade = significand - binade := by
      rw [Nat.mod_eq_sub_mod hLeast, Nat.mod_eq_of_lt (by omega)]
    have hExponent : 1 + k - 1 = k := by omega
    have hSignificand : binade + (significand - binade) = significand := by omega
    rw [hOne, hFraction, hExponent, hSignificand]
    rfl

/-- The same for every significand that a binade can have. Short of the leading bit are only those of
the lowest one. -/
theorem units_of_canonical {significand k : ℕ} (hMost : significand ≤ 2 * binade)
    (hLeast : k = 0 ∨ binade ≤ significand) :
    units (significand + k * binade) = significand * 2 ^ k := by
  rcases Nat.lt_or_ge significand binade with hSubnormal | hNormal
  · have hLowest : k = 0 := hLeast.resolve_right (Nat.not_le.mpr hSubnormal)
    rw [hLowest, Nat.zero_mul, Nat.add_zero, Nat.pow_zero, Nat.mul_one, units_of_lt hSubnormal]
  · exact units_add_mul hNormal hMost

theorem units_lt_units_succ (bits : ℕ) : units bits < units (bits + 1) := by
  by_cases hSubnormal : bits + 1 < binade
  · rw [units_of_lt hSubnormal, units_of_lt (by omega)]
    omega
  by_cases hLast : bits < binade
  · have hNext : bits + 1 = binade + 0 * binade := by omega
    rw [hNext, units_add_mul (Nat.le_refl _) (by omega), units_of_lt hLast]
    omega
  · obtain ⟨significand, k, hLeast, hMost, rfl⟩ := exists_eq_add_mul (Nat.le_of_not_lt hLast)
    have hNext : significand + k * binade + 1 = (significand + 1) + k * binade := by omega
    rw [hNext, units_add_mul hLeast (by omega), units_add_mul (by omega) (by omega)]
    exact Nat.mul_lt_mul_of_pos_right (by omega) (Nat.two_pow_pos k)

theorem strictMono_units : StrictMono units := strictMono_nat_of_lt_succ units_lt_units_succ

/-! ## Values -/

/-- The value of a magnitude. From `infinity` on it is the value that the magnitude had if the
exponent could grow further. -/
def value (bits : ℕ) : ℚ := units bits / 2 ^ 1074

theorem strictMono_value : StrictMono value := by
  intro left right h
  have hUnits : (units left : ℚ) < units right := Nat.cast_lt.mpr (strictMono_units h)
  exact div_lt_div_of_pos_right hUnits (by positivity)

theorem value_le_value {left right : ℕ} : value left ≤ value right ↔ left ≤ right :=
  strictMono_value.le_iff_le

theorem value_zero : value 0 = 0 := by
  rw [value, units_zero, Nat.cast_zero, zero_div]

/-- Between two neighbouring values, a ratio parts the magnitudes. -/
theorem value_lt_iff_of_units {num den bound bits : ℕ} (hDen : 0 < den)
    (hBelow : units (bound - 1) * den < num * 2 ^ 1074)
    (hAbove : num * 2 ^ 1074 ≤ units bound * den) :
    value bits < num / den ↔ bits < bound := by
  have hRatio (bits : ℕ) : value bits < num / den ↔ units bits * den < num * 2 ^ 1074 := by
    have hPos : (0 : ℚ) < den := Nat.cast_pos.mpr hDen
    rw [value, div_lt_div_iff₀ (by positivity) hPos]
    exact_mod_cast Iff.rfl
  constructor
  · intro h
    by_contra hBits
    have hOrder : units bound ≤ units bits := strictMono_units.monotone (Nat.le_of_not_lt hBits)
    have hUnits := Nat.mul_le_mul_right den hOrder
    have hLess := (hRatio bits).mp h
    omega
  · intro h
    have hOrder := value_le_value.mpr (Nat.le_sub_one_of_lt h)
    exact hOrder.trans_lt ((hRatio (bound - 1)).mpr hBelow)

/-- The bits are what `q` rounds to: as near to `q` as any others, and even in a tie. -/
structure IsRounding (q : ℚ) (bits : ℕ) : Prop where
  nearest : ∀ other, |q - value bits| ≤ |q - value other|
  even : ∀ other, other ≠ bits → |q - value other| = |q - value bits| → Even bits

/-- What is no nearer to the left end lies to the right of the middle. -/
theorem add_le_two_mul_of_nearer {q left right : ℚ} (hOrder : left < right)
    (h : |q - right| ≤ |q - left|) : left + right ≤ 2 * q := by
  by_contra hLeft
  have hNear : |q - left| < right - q := abs_lt.mpr ⟨by linarith, by linarith⟩
  have hFar : right - q ≤ |q - right| := by
    rw [abs_sub_comm]
    exact le_abs_self _
  linarith

/-- What is no nearer to the right end lies to the left of the middle. -/
theorem two_mul_le_add_of_nearer {q left right : ℚ} (hOrder : left < right)
    (h : |q - left| ≤ |q - right|) : 2 * q ≤ left + right := by
  by_contra hRight
  have hNear : |q - right| < q - left := abs_lt.mpr ⟨by linarith, by linarith⟩
  have hFar : q - left ≤ |q - left| := le_abs_self _
  linarith

/-- Of two magnitudes equally near there is none between, so one of them is odd. -/
theorem IsRounding.not_lt {q : ℚ} {bits other : ℕ} (h : IsRounding q bits)
    (hOther : IsRounding q other) : ¬ bits < other := by
  intro hLess
  have hTie : |q - value other| = |q - value bits| :=
    le_antisymm (hOther.nearest bits) (h.nearest other)
  have hEven : Even bits := h.even other (Nat.ne_of_gt hLess) hTie
  have hEvenOther : Even other := hOther.even bits (Nat.ne_of_lt hLess) hTie.symm
  have hBetween : bits + 1 < other := by
    rcases Nat.lt_or_eq_of_le (Nat.succ_le_of_lt hLess) with hLt | hEq
    · exact hLt
    · rw [← hEq] at hEvenOther
      exact absurd hEven (Nat.even_add_one.mp hEvenOther)
  have hLow : value bits < value (bits + 1) := strictMono_value (Nat.lt_succ_self bits)
  have hHigh : value (bits + 1) < value other := strictMono_value hBetween
  have hLeft := two_mul_le_add_of_nearer hLow (h.nearest (bits + 1))
  have hRight := add_le_two_mul_of_nearer hHigh (hOther.nearest (bits + 1))
  linarith

/-- **A number rounds to one magnitude.** -/
theorem IsRounding.unique {q : ℚ} {bits other : ℕ} (h : IsRounding q bits)
    (hOther : IsRounding q other) : bits = other :=
  Nat.le_antisymm (Nat.le_of_not_lt (hOther.not_lt h)) (Nat.le_of_not_lt (h.not_lt hOther))

/-- **Rounding keeps the order.** Two numbers could only round the other way round if both were in the
middle between the two magnitudes, and then they are one number. -/
theorem IsRounding.mono {q r : ℚ} {bits other : ℕ} (h : IsRounding q bits)
    (hOther : IsRounding r other) (hOrder : q ≤ r) : bits ≤ other := by
  by_contra hGreater
  have hValue : value other < value bits := strictMono_value (Nat.lt_of_not_le hGreater)
  have hLeft := add_le_two_mul_of_nearer hValue (h.nearest other)
  have hRight := two_mul_le_add_of_nearer hValue (hOther.nearest bits)
  have hSame : q = r := by linarith
  rw [hSame] at h
  exact hGreater (Nat.le_of_eq (h.unique hOther))

/-- Rounding does not step over a value. -/
theorem IsRounding.le_of_le_value {q : ℚ} {bits bound : ℕ} (h : IsRounding q bits)
    (hBound : q ≤ value bound) : bits ≤ bound := by
  by_contra hGreater
  have hValue : value bound < value bits := strictMono_value (Nat.lt_of_not_le hGreater)
  have hNear := h.nearest bound
  rw [abs_of_nonpos (by linarith), abs_of_nonpos (by linarith)] at hNear
  linarith

/-- Up to half of the least positive value everything rounds to zero, which is even. -/
theorem isRounding_zero {q : ℚ} (hNonneg : 0 ≤ q) (hHalf : 2 * q ≤ value 1) : IsRounding q 0 := by
  refine ⟨fun other => ?_, fun _ _ _ => Even.zero⟩
  rw [value_zero, sub_zero, abs_of_nonneg hNonneg]
  rcases Nat.eq_zero_or_pos other with rfl | hPos
  · rw [value_zero, sub_zero, abs_of_nonneg hNonneg]
  · have hLeast : value 1 ≤ value other := value_le_value.mpr hPos
    rw [abs_of_nonpos (by linarith)]
    linarith

/-! ## Overflow -/

/-- Half a step above the largest finite value: from here on a number rounds to `infinity`. -/
def overflowThreshold : ℚ := 2 ^ 1024 - 2 ^ 970

theorem value_of_units {bits count : ℕ} (h : units bits = count * 2 ^ 1074) :
    value bits = count := by
  rw [value, h, Nat.cast_mul, Nat.cast_pow, Nat.cast_ofNat, mul_div_cancel_right₀ _ (by positivity)]

theorem value_infinity : value infinity = 2 ^ 1024 := by
  have hInfinity : infinity = binade + 2046 * binade := by decide
  have hBinade : binade = 2 ^ 52 := rfl
  have hExponent : 52 + 2046 = 1024 + 1074 := rfl
  have hUnits : units infinity = 2 ^ 1024 * 2 ^ 1074 := by
    rw [hInfinity, units_add_mul (Nat.le_refl _) (by omega), hBinade, ← pow_add 2 52 2046,
      hExponent, pow_add 2 1024 1074]
  rw [value_of_units hUnits]
  exact Nat.cast_pow 2 1024

theorem value_largest : value (infinity - 1) = 2 ^ 1024 - 2 ^ 971 := by
  have hLargest : infinity - 1 = (2 ^ 53 - 1) + 2045 * binade := by decide
  have hExponent : 53 + 2045 = 1024 + 1074 := rfl
  have hStep : 2045 = 971 + 1074 := rfl
  have hUnits : units (infinity - 1) = (2 ^ 1024 - 2 ^ 971) * 2 ^ 1074 := by
    rw [hLargest, units_add_mul (by decide) (by decide), Nat.sub_mul, Nat.one_mul,
      ← pow_add 2 53 2045, hExponent, hStep, Nat.sub_mul, pow_add 2 1024 1074,
      pow_add 2 971 1074]
  have hCast {m n : ℕ} (h : m ≤ n) : ((2 ^ n - 2 ^ m : ℕ) : ℚ) = 2 ^ n - 2 ^ m := by
    rw [Nat.cast_sub (Nat.pow_le_pow_right two_pos h), Nat.cast_pow, Nat.cast_pow, Nat.cast_ofNat]
  rw [value_of_units hUnits]
  exact hCast (by decide)

/-- No finite value reaches the threshold. -/
theorem value_lt_overflowThreshold {bits : ℕ} (h : bits < infinity) :
    value bits < overflowThreshold := by
  have hStep : (2 : ℚ) ^ 970 < 2 ^ 971 := pow_lt_pow_right₀ one_lt_two (Nat.lt_succ_self 970)
  calc value bits
      ≤ value (infinity - 1) := value_le_value.mpr (Nat.le_sub_one_of_lt h)
    _ = 2 ^ 1024 - 2 ^ 971 := value_largest
    _ < 2 ^ 1024 - 2 ^ 970 := sub_lt_sub_left hStep _

/-- **What rounds to a finite magnitude** is what lies below the threshold; the threshold itself is
a tie, which the odd largest magnitude loses. -/
theorem IsRounding.lt_infinity_iff {q : ℚ} {bits : ℕ} (h : IsRounding q bits) :
    bits < infinity ↔ q < overflowThreshold := by
  have hInfinity := value_infinity
  have hLargest := value_largest
  have hHalf : (2 : ℚ) ^ 971 = 2 * 2 ^ 970 := pow_succ' 2 970
  have hPos : (0 : ℚ) < 2 ^ 970 := by positivity
  rw [overflowThreshold]
  generalize (2 : ℚ) ^ 970 = half at *
  generalize (2 : ℚ) ^ 971 = step at *
  generalize (2 : ℚ) ^ 1024 = limit at *
  constructor
  · intro hFinite
    by_contra hOver
    have hOrder : value bits ≤ value (infinity - 1) := value_le_value.mpr (by omega)
    have hNear := h.nearest infinity
    have hAbs : |q - value bits| = q - value bits := abs_of_nonneg (by linarith)
    have hAbove : |q - value infinity| ≤ q - value (infinity - 1) := by
      rw [abs_le]
      constructor <;> linarith
    have hSame : value bits = value (infinity - 1) := by linarith
    have hBits : bits = infinity - 1 := strictMono_value.injective hSame
    have hEven : Even bits := h.even infinity (Nat.ne_of_gt hFinite) (by linarith)
    rw [hBits] at hEven
    exact absurd hEven (by decide)
  · intro hUnder
    by_contra hOver
    have hOrder : value infinity ≤ value bits := value_le_value.mpr (Nat.le_of_not_lt hOver)
    have hNear := h.nearest (infinity - 1)
    have hAbs : |q - value bits| = value bits - q := by
      rw [abs_of_nonpos (by linarith)]
      ring
    have hBelow : |q - value (infinity - 1)| < value infinity - q := by
      rw [abs_lt]
      constructor <;> linarith
    linarith

/-! ## Rounding to whole numbers -/

/-- The rounded number is within half a unit, and even at exactly half a unit. -/
theorem roundHalfEven_spec (num : ℕ) {den : ℕ} (hDen : 0 < den) :
    |(num / den : ℚ) - roundHalfEven num den| ≤ 1 / 2 ∧
      (|(num / den : ℚ) - roundHalfEven num den| = 1 / 2 → Even (roundHalfEven num den)) := by
  have hPos : (0 : ℚ) < den := Nat.cast_pos.mpr hDen
  have hParts : (num : ℚ) = den * (num / den : ℕ) + (num % den : ℕ) := by
    exact_mod_cast (Nat.div_add_mod num den).symm
  have hRest : num % den < den := Nat.mod_lt _ hDen
  have hRatio : (num / den : ℚ) = (num / den : ℕ) + (num % den : ℕ) / den := by
    rw [div_eq_iff hPos.ne', add_mul, div_mul_cancel₀ _ hPos.ne', hParts]
    ring
  simp only [roundHalfEven]
  rw [hRatio]
  generalize num % den = rest at *
  generalize num / den = below at *
  have hNonneg : (0 : ℚ) ≤ rest / den := by positivity
  split
  · rename_i hLess
    have hLessQ : (rest : ℚ) / den < 1 / 2 := by
      rw [div_lt_div_iff₀ hPos (by norm_num)]
      exact_mod_cast (by omega : rest * 2 < 1 * den)
    rw [add_sub_cancel_left, abs_of_nonneg hNonneg]
    exact ⟨hLessQ.le, fun hHalf => absurd hHalf hLessQ.ne⟩
  · split
    · rename_i hMore
      have hMoreQ : (1 : ℚ) / 2 < rest / den := by
        rw [div_lt_div_iff₀ (by norm_num) hPos]
        exact_mod_cast (by omega : 1 * den < rest * 2)
      have hOneQ : (rest : ℚ) / den < 1 := by
        rw [div_lt_one hPos]
        exact_mod_cast hRest
      have hUp : |(below + rest / den : ℚ) - (below + 1 : ℕ)| = 1 - rest / den := by
        rw [abs_of_nonpos (by push_cast; linarith)]
        push_cast
        ring
      rw [hUp]
      exact ⟨by linarith, fun hHalf => absurd hHalf (by linarith)⟩
    · have hHalfQ : (rest : ℚ) / den = 1 / 2 := by
        rw [div_eq_div_iff hPos.ne' (by norm_num)]
        exact_mod_cast (by omega : rest * 2 = 1 * den)
      rw [hHalfQ]
      rcases Nat.mod_two_eq_zero_or_one below with hEven | hOdd
      · rw [hEven, Nat.add_zero, add_sub_cancel_left]
        exact ⟨by norm_num, fun _ => Nat.even_iff.mpr hEven⟩
      · rw [hOdd]
        refine ⟨?_, fun _ => Nat.even_iff.mpr (by omega)⟩
        push_cast
        rw [add_sub_add_left_eq_sub]
        norm_num

/-- No whole number is nearer than the rounded one, and in a tie that one is even. -/
theorem roundHalfEven_nearest (num : ℕ) {den : ℕ} (hDen : 0 < den) (other : ℕ) :
    |(num / den : ℚ) - roundHalfEven num den| ≤ |(num / den : ℚ) - other| ∧
      (other ≠ roundHalfEven num den →
        |(num / den : ℚ) - other| = |(num / den : ℚ) - roundHalfEven num den| →
        Even (roundHalfEven num den)) := by
  obtain ⟨hHalf, hEven⟩ := roundHalfEven_spec num hDen
  generalize roundHalfEven num den = rounded at *
  generalize (num / den : ℚ) = ratio at *
  by_cases hSame : other = rounded
  · rw [hSame]
    exact ⟨le_refl _, fun hNot => absurd rfl hNot⟩
  have hApart : (1 : ℚ) ≤ |(rounded : ℚ) - other| := by
    have hInt : (1 : ℤ) ≤ |(rounded : ℤ) - other| := Int.one_le_abs (by omega)
    exact_mod_cast hInt
  have hTriangle : |(rounded : ℚ) - other| ≤ |ratio - rounded| + |ratio - other| := by
    rw [abs_sub_comm ratio rounded]
    exact abs_sub_le _ _ _
  exact ⟨by linarith, fun _ hTie => hEven (by linarith)⟩

theorem roundHalfEven_bounds (num den : ℕ) :
    num / den ≤ roundHalfEven num den ∧ roundHalfEven num den ≤ num / den + 1 := by
  simp only [roundHalfEven]
  split
  · omega
  · split <;> omega

/-! ## Rounding to magnitudes -/

/-- The bits of a ratio that has more than 53 of them. -/
def excess (num den : ℕ) : ℕ := (num / den).log2 - 52

/-- The significand that a ratio is rounded to. -/
def significand (num den : ℕ) : ℕ := roundHalfEven num (den * 2 ^ excess num den)

theorem nearest_eq (num den : ℕ) :
    nearest num den = significand num den + excess num den * binade := rfl

/-- If there are excess bits, the leading bit of the significand is among those that are kept. -/
theorem binade_mul_le_div {num den : ℕ} (h : excess num den ≠ 0) :
    binade * 2 ^ excess num den ≤ num / den := by
  have hLog : (num / den).log2 = 52 + excess num den := by
    rw [excess] at h ⊢
    omega
  have hNonzero : num / den ≠ 0 := by
    intro hZero
    rw [excess, hZero] at h
    exact h rfl
  have hBinade : binade = 2 ^ 52 := rfl
  rw [hBinade, ← Nat.pow_add, ← Nat.le_log2 hNonzero, hLog]

theorem div_lt_binade_mul (num den : ℕ) : num / den < 2 * binade * 2 ^ excess num den := by
  have hBinade : 2 * binade = 2 ^ 53 := rfl
  have hLog : (num / den).log2 + 1 ≤ 53 + excess num den := by
    rw [excess]
    omega
  rw [hBinade, ← Nat.pow_add]
  exact Nat.lt_of_lt_of_le Nat.lt_log2_self (Nat.pow_le_pow_right (by decide) hLog)

theorem significand_le (num den : ℕ) : significand num den ≤ 2 * binade := by
  have hBound := (roundHalfEven_bounds num (den * 2 ^ excess num den)).2
  have hFloor : num / (den * 2 ^ excess num den) < 2 * binade := by
    rw [← Nat.div_div_eq_div_mul]
    exact Nat.div_lt_of_lt_mul (by rw [Nat.mul_comm]; exact div_lt_binade_mul num den)
  rw [significand]
  omega

theorem le_significand {num den : ℕ} (h : excess num den ≠ 0) : binade ≤ significand num den := by
  have hBound := (roundHalfEven_bounds num (den * 2 ^ excess num den)).1
  have hFloor : binade ≤ num / (den * 2 ^ excess num den) := by
    rw [← Nat.div_div_eq_div_mul]
    exact (Nat.le_div_iff_mul_le (Nat.two_pow_pos _)).mpr (binade_mul_le_div h)
  exact Nat.le_trans hFloor hBound

/-- The rounded magnitude is worth its significand at the weight of the last bit that is kept. -/
theorem units_nearest (num den : ℕ) :
    units (nearest num den) = significand num den * 2 ^ excess num den := by
  have hLeast : excess num den = 0 ∨ binade ≤ significand num den :=
    (Nat.eq_zero_or_pos _).imp_right fun hExcess => le_significand (Nat.ne_of_gt hExcess)
  rw [nearest_eq, units_of_canonical (significand_le num den) hLeast]

/-- A magnitude lies on the grid that is rounded to or in a lower binade. -/
theorem units_multiple_or_lt (bits k : ℕ) :
    (∃ count, units bits = count * 2 ^ k) ∨ k ≠ 0 ∧ units bits < binade * 2 ^ k := by
  rcases Nat.eq_zero_or_pos k with rfl | hPos
  · exact .inl ⟨units bits, (Nat.mul_one _).symm⟩
  rcases Nat.lt_or_ge bits binade with hSubnormal | hNormal
  · refine .inr ⟨Nat.ne_of_gt hPos, ?_⟩
    rw [units_of_lt hSubnormal]
    exact Nat.lt_of_lt_of_le hSubnormal (Nat.le_mul_of_pos_right _ (Nat.two_pow_pos k))
  obtain ⟨count, j, hLeast, hMost, rfl⟩ := exists_eq_add_mul hNormal
  rw [units_add_mul hLeast (Nat.le_of_lt hMost)]
  rcases Nat.lt_or_ge j k with hLower | hHigher
  · refine .inr ⟨Nat.ne_of_gt hPos, ?_⟩
    calc count * 2 ^ j
        < 2 * binade * 2 ^ j := Nat.mul_lt_mul_of_pos_right hMost (Nat.two_pow_pos j)
      _ = binade * 2 ^ (j + 1) := by ring
      _ ≤ binade * 2 ^ k := Nat.mul_le_mul_left _ (Nat.pow_le_pow_right (by decide) hLower)
  · refine .inl ⟨count * 2 ^ (j - k), ?_⟩
    rw [Nat.mul_assoc, ← Nat.pow_add, Nat.sub_add_cancel hHigher]

/-- On its own grid the significand is nearest. -/
theorem significand_nearest (num : ℕ) {den : ℕ} (hDen : 0 < den) (count : ℕ) :
    let ratio : ℚ := num / den
    let weight : ℚ := 2 ^ excess num den
    |ratio - significand num den * weight| ≤ |ratio - count * weight| ∧
      (count ≠ significand num den →
        |ratio - count * weight| = |ratio - significand num den * weight| →
        Even (significand num den)) := by
  intro ratio weight
  have hWeight : 0 < weight := by positivity
  have hScaled : ((num : ℚ) / (den * 2 ^ excess num den : ℕ)) * weight = ratio := by
    rw [Nat.cast_mul, ← div_div, Nat.cast_pow, Nat.cast_ofNat, div_mul_cancel₀ _ hWeight.ne']
  have hDistance (n : ℕ) : |ratio - n * weight| =
      |(num : ℚ) / (den * 2 ^ excess num den : ℕ) - n| * weight := by
    rw [← hScaled, ← sub_mul, abs_mul, abs_of_pos hWeight]
  obtain ⟨hNear, hEven⟩ := roundHalfEven_nearest num
    (Nat.mul_pos hDen (Nat.two_pow_pos (excess num den))) count
  rw [hDistance, hDistance]
  exact ⟨mul_le_mul_of_nonneg_right hNear hWeight.le,
    fun hNe hTie => hEven hNe (mul_right_cancel₀ hWeight.ne' hTie)⟩

/-- No magnitude is nearer than the rounded one, and in a tie that one is even. -/
theorem units_nearest_le (num : ℕ) {den : ℕ} (hDen : 0 < den) (other : ℕ) :
    let ratio : ℚ := num / den
    |ratio - units (nearest num den)| ≤ |ratio - units other| ∧
      (other ≠ nearest num den →
        |ratio - units other| = |ratio - units (nearest num den)| →
        Even (nearest num den)) := by
  intro ratio
  have hNearest : (units (nearest num den) : ℚ) =
      significand num den * 2 ^ excess num den := by
    rw [units_nearest]
    push_cast
    rfl
  rcases units_multiple_or_lt other (excess num den) with ⟨count, hCount⟩ | ⟨hExcess, hBelow⟩
  · obtain ⟨hNear, hEven⟩ := significand_nearest num hDen count
    have hOther : (units other : ℚ) = count * 2 ^ excess num den := by
      rw [hCount]
      push_cast
      rfl
    rw [hNearest, hOther]
    refine ⟨hNear, fun hNe hTie => ?_⟩
    have hCountNe : count ≠ significand num den := by
      intro hSame
      rw [hSame, ← units_nearest] at hCount
      exact hNe (strictMono_units.injective hCount)
    rw [nearest_eq]
    have hBinade : Even binade := by decide
    exact (hEven hCountNe hTie).add (hBinade.mul_left _)
  · -- The least significand stands between the ratio and the other magnitude.
    have hLeast := (significand_nearest num hDen binade).1
    have hRatio : (binade * 2 ^ excess num den : ℚ) ≤ ratio := by
      have hFloor : ((num / den : ℕ) : ℚ) ≤ ratio := Nat.cast_div_le
      have hBits : ((binade * 2 ^ excess num den : ℕ) : ℚ) ≤ (num / den : ℕ) :=
        Nat.cast_le.mpr (binade_mul_le_div hExcess)
      push_cast at hBits
      exact hBits.trans hFloor
    have hBelowQ : (units other : ℚ) < binade * 2 ^ excess num den := by exact_mod_cast hBelow
    have hStrict : |ratio - units (nearest num den)| < |ratio - units other| := by
      rw [hNearest]
      calc |ratio - significand num den * 2 ^ excess num den|
          ≤ |ratio - binade * 2 ^ excess num den| := hLeast
        _ = ratio - binade * 2 ^ excess num den := abs_of_nonneg (by linarith)
        _ < ratio - units other := by linarith
        _ ≤ |ratio - units other| := le_abs_self _
    exact ⟨hStrict.le, fun _ hTie => absurd hTie hStrict.ne'⟩

/-- **`Binary64.nearest` rounds to nearest, ties to even.** -/
theorem isRounding_nearest (num : ℕ) {den : ℕ} (hDen : 0 < den) :
    IsRounding (num / den / 2 ^ 1074) (nearest num den) := by
  have hUnit : (0 : ℚ) < 2 ^ 1074 := by positivity
  have hDistance (bits : ℕ) : |(num / den / 2 ^ 1074 : ℚ) - value bits| =
      |(num / den : ℚ) - units bits| / 2 ^ 1074 := by
    rw [value, ← sub_div, abs_div, abs_of_pos hUnit]
  constructor
  · intro other
    rw [hDistance, hDistance]
    exact div_le_div_of_nonneg_right (units_nearest_le num hDen other).1 hUnit.le
  · intro other hNe hTie
    rw [hDistance, hDistance, div_left_inj' hUnit.ne'] at hTie
    exact (units_nearest_le num hDen other).2 hNe hTie

/-- The same with the ratio itself, which is brought to units first. -/
theorem isRounding_of_eq_nearest {num den k bits : ℕ} (hDen : 0 < den) (hUnit : k = 1074)
    (hBits : bits = nearest (num * Nat.pow 2 k) den) : IsRounding (num / den) bits := by
  have hPower : ((Nat.pow 2 k : ℕ) : ℚ) = 2 ^ k := Nat.cast_pow 2 k
  have hNonzero : (2 : ℚ) ^ k ≠ 0 := by positivity
  have hRatio : ((num * Nat.pow 2 k : ℕ) : ℚ) / den / 2 ^ k = num / den := by
    rw [Nat.cast_mul, hPower, div_right_comm, mul_div_cancel_right₀ _ hNonzero]
  have hRounding := isRounding_nearest (num * Nat.pow 2 k) hDen
  rw [← hUnit, hRatio, ← hBits] at hRounding
  exact hRounding

end Binary64

namespace Decimal

open Binary64

/-- The number that a decimal is. -/
def value (decimal : Decimal) : ℚ := decimal.coefficient * 10 ^ decimal.exponent

theorem value_nonneg (decimal : Decimal) : 0 ≤ decimal.value := by
  rw [value]
  positivity

/-- The clamp for large exponents hides nothing: past it every number overflows. -/
theorem overflowThreshold_le_value {decimal : Decimal} (hNonzero : decimal.coefficient ≠ 0)
    (hLarge : 310 ≤ decimal.exponent) : overflowThreshold ≤ decimal.value := by
  have hCoefficient : (1 : ℚ) ≤ decimal.coefficient :=
    Nat.one_le_cast.mpr (Nat.one_le_iff_ne_zero.mpr hNonzero)
  have hPowers : (2 : ℚ) ^ 1024 ≤ 10 ^ (310 : ℤ) := by
    have hFifth : (2 : ℚ) ^ 205 ≤ 10 ^ 62 := by norm_num
    calc (2 : ℚ) ^ 1024
        ≤ 2 ^ (205 * 5) := pow_le_pow_right₀ (by norm_num) (by norm_num)
      _ = (2 ^ 205) ^ 5 := pow_mul 2 205 5
      _ ≤ (10 ^ 62) ^ 5 := pow_le_pow_left₀ (by positivity) hFifth 5
      _ = 10 ^ (62 * 5) := (pow_mul 10 62 5).symm
      _ = 10 ^ (310 : ℤ) := (zpow_natCast 10 310).symm
  calc overflowThreshold
      ≤ 2 ^ 1024 := sub_le_self _ (by positivity)
    _ ≤ 10 ^ (310 : ℤ) := hPowers
    _ ≤ 10 ^ decimal.exponent := zpow_le_zpow_right₀ (by norm_num) hLarge
    _ ≤ decimal.value := le_mul_of_one_le_left (by positivity) hCoefficient

/-- Nor does the clamp for tiny decimals: they are below half of the least positive value. -/
theorem two_mul_value_le {decimal : Decimal}
    (hTiny : decimal.exponent + (decimal.coefficient.log2 + 1 : ℕ) ≤ -330) :
    2 * decimal.value ≤ Binary64.value 1 := by
  have hCoefficient : (decimal.coefficient : ℚ) ≤ 10 ^ ((decimal.coefficient.log2 + 1 : ℕ) : ℤ) := by
    rw [zpow_natCast]
    calc (decimal.coefficient : ℚ)
        ≤ (2 ^ (decimal.coefficient.log2 + 1) : ℕ) := Nat.cast_le.mpr Nat.lt_log2_self.le
      _ = 2 ^ (decimal.coefficient.log2 + 1) := by push_cast; rfl
      _ ≤ 10 ^ (decimal.coefficient.log2 + 1) := pow_le_pow_left₀ (by norm_num) (by norm_num) _
  have hValue : decimal.value ≤ 10 ^ (-330 : ℤ) :=
    calc decimal.value
        ≤ 10 ^ ((decimal.coefficient.log2 + 1 : ℕ) : ℤ) * 10 ^ decimal.exponent :=
          mul_le_mul_of_nonneg_right hCoefficient (by positivity)
      _ = 10 ^ (((decimal.coefficient.log2 + 1 : ℕ) : ℤ) + decimal.exponent) :=
          (zpow_add₀ (by norm_num) _ _).symm
      _ ≤ 10 ^ (-330 : ℤ) := zpow_le_zpow_right₀ (by norm_num) (by omega)
  have hPowers : 2 * (2 : ℚ) ^ 1074 ≤ 10 ^ 330 := by
    have hTenth : (2 : ℚ) ^ 109 ≤ 10 ^ 33 := by norm_num
    calc 2 * (2 : ℚ) ^ 1074
        = 2 ^ 1075 := (pow_succ' 2 1074).symm
      _ ≤ 2 ^ (109 * 10) := pow_le_pow_right₀ (by norm_num) (by norm_num)
      _ = (2 ^ 109) ^ 10 := pow_mul 2 109 10
      _ ≤ (10 ^ 33) ^ 10 := pow_le_pow_left₀ (by positivity) hTenth 10
      _ = 10 ^ (33 * 10) := (pow_mul 10 33 10).symm
  have hLeast : Binary64.value 1 = 1 / 2 ^ 1074 := by
    rw [Binary64.value, units_of_lt (by decide), Nat.cast_one]
  have hInverse : (10 : ℚ) ^ (-330 : ℤ) = 1 / 10 ^ 330 := by
    rw [zpow_neg, one_div]
    rfl
  rw [hInverse] at hValue
  rw [hLeast, le_div_iff₀ (by positivity)]
  calc 2 * decimal.value * 2 ^ 1074
      = decimal.value * (2 * 2 ^ 1074) := by rw [mul_comm 2, mul_assoc]
    _ ≤ 1 / 10 ^ 330 * 10 ^ 330 :=
        mul_le_mul hValue hPowers (by positivity) (by positivity)
    _ = 1 := one_div_mul_cancel (by positivity)

/-- **A decimal is rounded to nearest, ties to even**, where its exponent is not past all of the
finite magnitudes. -/
theorem isRounding_nearest {decimal : Decimal}
    (h : decimal.coefficient = 0 ∨ decimal.exponent < 310) :
    IsRounding decimal.value decimal.nearest := by
  obtain ⟨coefficient, exponent⟩ := decimal
  by_cases hZero : coefficient = 0
  · rw [hZero, nearest_zero, value, Nat.cast_zero, zero_mul]
    refine isRounding_zero (le_refl _) ?_
    rw [mul_zero, ← value_zero]
    exact value_le_value.mpr (Nat.zero_le 1)
  have hSmall : exponent < 310 := h.resolve_left hZero
  by_cases hTiny : exponent + (coefficient.log2 + 1 : ℕ) ≤ -330
  · rw [nearest_eq_zero hTiny]
    exact isRounding_zero (value_nonneg _) (two_mul_value_le hTiny)
  cases exponent with
  | ofNat scale =>
    have hScale : scale < 310 := Int.ofNat_lt.mp hSmall
    have hValue : value ⟨coefficient, (scale : ℤ)⟩ =
        ((coefficient * Nat.pow 10 scale : ℕ) : ℚ) / (1 : ℕ) := by
      rw [Nat.cast_one, div_one, Nat.cast_mul, value, zpow_natCast]
      exact congrArg _ (Nat.cast_pow 10 scale).symm
    have hBits := nearest_ofNat hZero hScale
    generalize hUnit : 1074 = k at hBits
    exact hValue ▸ isRounding_of_eq_nearest Nat.one_pos hUnit.symm hBits
  | negSucc scale =>
    have hScale : scale ≤ coefficient.log2 + 329 := by omega
    have hValue : value ⟨coefficient, Int.negSucc scale⟩ =
        (coefficient : ℚ) / (Nat.pow 10 (scale + 1) : ℕ) := by
      rw [value, zpow_negSucc, div_eq_mul_inv]
      exact congrArg _ (congrArg _ (Nat.cast_pow 10 (scale + 1)).symm)
    have hTen : 0 < Nat.pow 10 (scale + 1) := Nat.pow_pos (by decide)
    have hBits := nearest_negSucc hZero hScale
    generalize hUnit : 1074 = k at hBits
    exact hValue ▸ isRounding_of_eq_nearest hTen hUnit.symm hBits

/-- A magnitude is what a decimal rounds to just if `nearest` says so. -/
theorem isRounding_value_iff {decimal : Decimal} {bits : ℕ} (hFinite : bits < infinity) :
    IsRounding decimal.value bits ↔ decimal.nearest = bits := by
  by_cases hLarge : decimal.coefficient ≠ 0 ∧ 310 ≤ decimal.exponent
  · constructor
    · intro hRounding
      have hUnder := hRounding.lt_infinity_iff.mp hFinite
      exact absurd (overflowThreshold_le_value hLarge.1 hLarge.2) (not_le.mpr hUnder)
    · intro hNearest
      rw [nearest_eq_infinity hLarge.1 hLarge.2] at hNearest
      exact absurd hFinite (by omega)
  · have hRounding : IsRounding decimal.value decimal.nearest := isRounding_nearest (by omega)
    exact ⟨hRounding.unique, fun hNearest => hNearest ▸ hRounding⟩

/-- What a decimal rounds to is finite just if the decimal is below the threshold. -/
theorem nearest_lt_infinity_iff (decimal : Decimal) :
    decimal.nearest < infinity ↔ decimal.value < overflowThreshold := by
  by_cases hLarge : decimal.coefficient ≠ 0 ∧ 310 ≤ decimal.exponent
  · have hOver := overflowThreshold_le_value hLarge.1 hLarge.2
    rw [nearest_eq_infinity hLarge.1 hLarge.2]
    exact iff_of_false (Nat.lt_irrefl _) (not_lt.mpr hOver)
  · exact (isRounding_nearest (by omega)).lt_infinity_iff

end Decimal
end PocketCalc
