import Mathlib
import PocketCalc.Proofs.ExactReading
import PocketCalc.Proofs.NearestMagnitude

/-!
# No decimal of a magnitude is shorter than the shortest

Every decimal that rounds to a magnitude has at least as many digits as `Decimal.shortest`
(`coefficient_shortest_lt`). The decimals that round to a magnitude lie together, since rounding keeps
the order (`nearest_of_between`), and their exact value is among them. That is all that the proof has
to know about rounding, so it need not say how wide the interval is, whether its ends belong to it
or what happens at the powers of two.

It follows that a grid has a point in the interval only if one of the two points next to the exact
value is in it, so the search finds the coarsest grid that has any (`IsCoarsest`). A competitor of `k`
digits lies in the decade of the exact value or beyond one of its ends. In the decade, its grid is one
that leaves no more than `k` digits to the shortest decimal. Beyond an end, the power of ten there is
in the interval too, and it has one digit.
-/

namespace PocketCalc

namespace Binary64

/-! ## Whole magnitudes -/

/-- A value is its own rounding. -/
theorem isRounding_value (bits : ℕ) : IsRounding (value bits) bits := by
  constructor
  · intro other
    rw [sub_self, abs_zero]
    exact abs_nonneg _
  · intro other hNe hTie
    rw [sub_self, abs_zero, abs_eq_zero, sub_eq_zero] at hTie
    exact absurd (strictMono_value.injective hTie).symm hNe

theorem units_of_value {bits n : ℕ} (h : value bits = n) : units bits = n * 2 ^ 1074 := by
  rw [value] at h
  generalize 1074 = k at h ⊢
  rw [div_eq_iff (by positivity)] at h
  exact_mod_cast h

/-- Rounding a multiple of a power of two yields another one: either bits are lost, and the last one
that is kept is worth such a multiple, or the number is kept as it is. -/
theorem exists_units_nearest_eq (n k : ℕ) :
    ∃ count, units (nearest (n * Nat.pow 2 k) 1) = count * 2 ^ k := by
  show ∃ count, units (nearest (n * 2 ^ k) 1) = count * 2 ^ k
  rw [units_nearest, significand, Nat.one_mul]
  generalize excess (n * 2 ^ k) 1 = lost
  rcases Nat.le_total k lost with hLoses | hKeeps
  · refine ⟨roundHalfEven (n * 2 ^ k) (2 ^ lost) * 2 ^ (lost - k), ?_⟩
    rw [Nat.mul_assoc, ← Nat.pow_add, Nat.sub_add_cancel hLoses]
  · have hSplit : n * 2 ^ k = n * 2 ^ (k - lost) * 2 ^ lost := by
      rw [Nat.mul_assoc, ← Nat.pow_add, Nat.sub_add_cancel hKeeps]
    refine ⟨n, ?_⟩
    rw [hSplit, roundHalfEven_mul _ (Nat.two_pow_pos lost)]

/-- What a whole number rounds to is a whole number. -/
theorem IsRounding.exists_value_eq {n bits : ℕ} (h : IsRounding n bits) :
    ∃ whole : ℕ, value bits = whole := by
  have hOne : (n : ℚ) / (1 : ℕ) = n := by rw [Nat.cast_one, div_one]
  obtain ⟨k, hUnit⟩ : ∃ k, k = 1074 := ⟨1074, rfl⟩
  have hRounding : IsRounding ((n : ℚ) / (1 : ℕ)) (Binary64.nearest (n * Nat.pow 2 k) 1) :=
    isRounding_of_eq_nearest Nat.one_pos hUnit rfl
  obtain ⟨whole, hUnits⟩ := exists_units_nearest_eq n k
  rw [hOne] at hRounding
  rw [← h.unique hRounding, hUnit] at hUnits
  exact ⟨whole, value_of_units hUnits⟩

end Binary64

namespace Decimal

open Binary64 (IsRounding infinity)

/-! ## The interval of a magnitude -/

/-- Rounding keeps the order, so what lies between two decimals of a magnitude is one as well. -/
theorem nearest_of_between {lower middle upper : Decimal} {bits : ℕ} (hFinite : bits < infinity)
    (hLower : lower.nearest = bits) (hUpper : upper.nearest = bits)
    (hLow : lower.value ≤ middle.value) (hHigh : middle.value ≤ upper.value) :
    middle.nearest = bits := by
  have hUnder : upper.value < Binary64.overflowThreshold :=
    (nearest_lt_infinity_iff upper).mp (hUpper ▸ hFinite)
  have hMiddle : middle.nearest < infinity :=
    (nearest_lt_infinity_iff middle).mpr (hHigh.trans_lt hUnder)
  have hRounding : IsRounding middle.value middle.nearest := (isRounding_value_iff hMiddle).mpr rfl
  apply Nat.le_antisymm
  · exact hRounding.mono ((isRounding_value_iff hFinite).mpr hUpper) hHigh
  · exact ((isRounding_value_iff hFinite).mpr hLower).mono hRounding hLow

/-- Whether a decimal rounds to a magnitude depends on its value alone. -/
theorem nearest_of_value_eq {left right : Decimal} {bits : ℕ} (hFinite : bits < infinity)
    (hLeft : left.nearest = bits) (hValue : left.value = right.value) : right.nearest = bits :=
  nearest_of_between hFinite hLeft hLeft (le_of_eq hValue) (le_of_eq hValue.symm)

/-! ## Points of grids -/

/-- What one step of the finest grid is worth. -/
def finestStep : ℚ := 10 ^ (-1074 : ℤ)

theorem finestStep_pos : 0 < finestStep := by
  rw [finestStep]
  positivity

theorem value_onGrid (count grid : ℕ) :
    (onGrid count grid).value = (count * 10 ^ grid : ℕ) * finestStep := by
  have hSplit : (10 : ℚ) ^ ((grid : ℤ) - 1074) = 10 ^ grid * finestStep := by
    rw [sub_eq_add_neg, zpow_add₀ (by norm_num), zpow_natCast]
    rfl
  rw [value, onGrid, hSplit, Nat.cast_mul, Nat.cast_pow, Nat.cast_ofNat, mul_assoc]

theorem value_onGrid_le_iff {left right leftGrid rightGrid : ℕ} :
    (onGrid left leftGrid).value ≤ (onGrid right rightGrid).value ↔
      left * 10 ^ leftGrid ≤ right * 10 ^ rightGrid := by
  rw [value_onGrid, value_onGrid, mul_le_mul_iff_of_pos_right finestStep_pos, Nat.cast_le]

/-- Every tenth point of a grid is one of the next coarser grid. -/
theorem value_onGrid_ten_mul (count grid : ℕ) :
    (onGrid (10 * count) grid).value = (onGrid count (grid + 1)).value := by
  have hSame : 10 * count * 10 ^ grid = count * 10 ^ (grid + 1) := by ring
  rw [value_onGrid, value_onGrid, hSame]

/-- A decimal whose last place is not below the finest grid lies on a grid. -/
theorem exists_eq_onGrid {decimal : Decimal} (h : -1074 ≤ decimal.exponent) :
    ∃ grid : ℕ, decimal = onGrid decimal.coefficient grid := by
  refine ⟨(decimal.exponent + 1074).toNat, ?_⟩
  have hExponent : ((decimal.exponent + 1074).toNat : ℤ) - 1074 = decimal.exponent := by omega
  rw [onGrid, hExponent]

/-! ## The search -/

theorem roundsTo_iff {bits count grid : ℕ} :
    roundsTo bits count grid = true ↔ (onGrid count grid).nearest = bits := beq_iff_eq

/-- The search passes a grid by only if neither of its two points next to the value will do. -/
theorem nearest_ne_of_neighbour? {bits value grid : ℕ} (h : neighbour? bits value grid = none) :
    (onGrid (value / 10 ^ grid) grid).nearest ≠ bits ∧
      (onGrid (value / 10 ^ grid + 1) grid).nearest ≠ bits := by
  simp only [neighbour?] at h
  split at h
  · split at h <;> cases h
  · rename_i hBelow
    split at h
    · cases h
    · rename_i hAbove
      exact ⟨fun hEq => hBelow (roundsTo_iff.mpr hEq), fun hEq => hAbove (roundsTo_iff.mpr hEq)⟩

/-- What it takes is one of the two. -/
theorem neighbour?_le {bits value grid count : ℕ} (h : neighbour? bits value grid = some count) :
    count ≤ value / 10 ^ grid + 1 := by
  show count ≤ value / Nat.pow 10 grid + 1
  simp only [neighbour?] at h
  split at h
  · split at h <;> cases h <;> omega
  · split at h
    · cases h
      exact Nat.le_refl _
    · cases h

/-- What the search from the grid `top` downwards is for: a point of the interval, next to the exact
value, on the coarsest grid that has any. -/
structure IsCoarsest (bits top count grid : ℕ) : Prop where
  grid_le : grid ≤ top
  count_le : count ≤ exactValue bits / 10 ^ grid + 1
  nearest_eq : (onGrid count grid).nearest = bits
  le_grid : ∀ other ≤ top, ∀ point, (onGrid point other).nearest = bits → other ≤ grid

section Magnitude

variable {bits : ℕ} (hFinite : bits < infinity) (hNonzero : bits ≠ 0)
include hFinite hNonzero

/-- A point in the interval above the exact value brings the one next to the value along. -/
theorem nearest_above {point grid : ℕ} (h : (onGrid point grid).nearest = bits)
    (hAbove : exactValue bits / 10 ^ grid < point) :
    (onGrid (exactValue bits / 10 ^ grid + 1) grid).nearest = bits := by
  refine nearest_of_between hFinite (nearest_exactValue hNonzero) h ?_ ?_
  · rw [value_onGrid_le_iff, Nat.pow_zero, Nat.mul_one, Nat.mul_comm]
    exact Nat.le_of_lt (Nat.lt_mul_div_succ _ (by positivity))
  · rw [value_onGrid_le_iff]
    exact Nat.mul_le_mul_right _ hAbove

/-- So does one that is not above it. -/
theorem nearest_below {point grid : ℕ} (h : (onGrid point grid).nearest = bits)
    (hBelow : point ≤ exactValue bits / 10 ^ grid) :
    (onGrid (exactValue bits / 10 ^ grid) grid).nearest = bits := by
  refine nearest_of_between hFinite h (nearest_exactValue hNonzero) ?_ ?_
  · rw [value_onGrid_le_iff]
    exact Nat.mul_le_mul_right _ hBelow
  · rw [value_onGrid_le_iff, Nat.pow_zero, Nat.mul_one]
    exact Nat.div_mul_le_self ..

/-- If any point of a grid is in the interval, one of the two next to the exact value is. -/
theorem neighbour?_ne_none {point grid : ℕ} (h : (onGrid point grid).nearest = bits) :
    neighbour? bits (exactValue bits) grid ≠ none := by
  intro hNone
  obtain ⟨hBelow, hAbove⟩ := nearest_ne_of_neighbour? hNone
  rcases Nat.lt_or_ge (exactValue bits / 10 ^ grid) point with hUpper | hLower
  · exact hAbove (nearest_above hFinite hNonzero h hUpper)
  · exact hBelow (nearest_below hFinite hNonzero h hLower)

/-- **The search finds the coarsest grid with a point in the interval.** -/
theorem exists_isCoarsest (top : ℕ) :
    ∃ count grid, coarsest bits (exactValue bits) top = onGrid count grid ∧
      IsCoarsest bits top count grid := by
  induction top with
  | zero =>
    refine ⟨exactValue bits, 0, rfl, Nat.le_refl 0, ?_, nearest_exactValue hNonzero,
      fun other hOther _ _ => hOther⟩
    rw [Nat.pow_zero, Nat.div_one]
    exact Nat.le_succ _
  | succ top ih =>
    rw [coarsest]
    split
    · rename_i count hCount
      exact ⟨count, top + 1, rfl, Nat.le_refl _, neighbour?_le hCount,
        nearest_of_neighbour? hCount, fun other hOther _ _ => hOther⟩
    · rename_i hNone
      obtain ⟨count, grid, hSearch, hCoarsest⟩ := ih
      refine ⟨count, grid, hSearch, Nat.le_succ_of_le hCoarsest.grid_le, hCoarsest.count_le,
        hCoarsest.nearest_eq, fun other hOther point hPoint => ?_⟩
      rcases Nat.le_succ_iff.mp hOther with hLower | rfl
      · exact hCoarsest.le_grid other hLower point hPoint
      · exact absurd hNone (neighbour?_ne_none hFinite hNonzero hPoint)

end Magnitude

/-! ## Digits -/

/-- The number of digits of an exact value, which is the grid that the search starts at. -/
def valueDigits (bits : ℕ) : ℕ := (Nat.toDigits 10 (exactValue bits)).length

theorem valueDigits_pos (bits : ℕ) : 0 < valueDigits bits := Nat.length_toDigits_pos

theorem exactValue_lt (bits : ℕ) : exactValue bits < 10 ^ valueDigits bits :=
  (Nat.length_toDigits_le_iff (by decide) (valueDigits_pos bits)).mp (Nat.le_refl _)

theorem exactValue_ne_zero {bits : ℕ} (hNonzero : bits ≠ 0) : exactValue bits ≠ 0 := by
  have hNearest : (onGrid (exactValue bits) 0).nearest ≠ 0 := by rwa [nearest_exactValue hNonzero]
  have hCoefficient : (onGrid (exactValue bits) 0).coefficient ≠ 0 := coefficient_ne_zero hNearest
  exact hCoefficient

theorem pos_of_lt_ten_pow {n k : ℕ} (hNonzero : n ≠ 0) (h : n < 10 ^ k) : 0 < k := by
  by_contra hNone
  rw [Nat.eq_zero_of_not_pos hNone, Nat.pow_zero] at h
  omega

theorem length_toDigits_le {n k : ℕ} (hNonzero : n ≠ 0) (h : n < 10 ^ k) :
    (Nat.toDigits 10 n).length ≤ k :=
  (Nat.length_toDigits_le_iff (by decide) (pos_of_lt_ten_pow hNonzero h)).mpr h

theorem pow_le_exactValue {bits : ℕ} (hNonzero : bits ≠ 0) :
    10 ^ (valueDigits bits - 1) ≤ exactValue bits := by
  by_contra hLess
  have hFewer : valueDigits bits ≤ valueDigits bits - 1 :=
    length_toDigits_le (exactValue_ne_zero hNonzero) (Nat.lt_of_not_le hLess)
  have hSome := valueDigits_pos bits
  omega

/-- A multiple of a power of two becomes one of a power of ten. -/
theorem ten_pow_le_of_eq_mul {value units n k : ℕ} (hValue : value = units * Nat.pow 5 k)
    (hUnits : units = n * 2 ^ k) (hNonzero : units ≠ 0) : 10 ^ k ≤ value := by
  have hPositive : 0 < n := by
    rw [hUnits] at hNonzero
    exact Nat.pos_of_ne_zero (left_ne_zero_of_mul hNonzero)
  calc 10 ^ k
      = 2 ^ k * 5 ^ k := Nat.mul_pow 2 5 k
    _ ≤ n * (2 ^ k * 5 ^ k) := Nat.le_mul_of_pos_left _ hPositive
    _ = units * 5 ^ k := by rw [hUnits, Nat.mul_assoc]
    _ = value := hValue.symm

/-- The exact value of a whole number has all the places of the finest grid. -/
theorem le_valueDigits_of_value_eq {bits n : ℕ} (hNonzero : bits ≠ 0)
    (hValue : Binary64.value bits = n) : 1074 ≤ valueDigits bits := by
  have hExact : exactValue bits = Binary64.units bits * Nat.pow 5 1074 := rfl
  have hUnits := Binary64.units_of_value hValue
  generalize 1074 = k at hExact hUnits ⊢
  have hPower := ten_pow_le_of_eq_mul hExact hUnits (Binary64.units_ne_zero hNonzero)
  have hLess := Nat.lt_of_le_of_lt hPower (exactValue_lt bits)
  exact Nat.le_of_lt ((Nat.pow_lt_pow_iff_right (by decide)).mp hLess)

/-- What lies above a power of ten has more digits than its last place is below it. -/
theorem lt_add_of_value_onGrid_lt {decimal : Decimal} {low digits : ℕ}
    (hDigits : decimal.coefficient < 10 ^ digits)
    (h : (onGrid 1 low).value < decimal.value) : (low : ℤ) - 1074 < digits + decimal.exponent := by
  have hLow : (onGrid 1 low).value = 10 ^ ((low : ℤ) - 1074) := by
    rw [value, onGrid, Nat.cast_one, one_mul]
  have hCoefficient : (decimal.coefficient : ℚ) < 10 ^ (digits : ℤ) := by
    rw [zpow_natCast]
    exact_mod_cast hDigits
  have hHigh : decimal.value < 10 ^ (digits + decimal.exponent) := by
    rw [value, zpow_add₀ (by norm_num)]
    exact mul_lt_mul_of_pos_right hCoefficient (by positivity)
  rw [hLow] at h
  exact (zpow_lt_zpow_iff_right₀ (by norm_num)).mp (h.trans hHigh)

section Shortest

variable {bits count grid : ℕ} (hFinite : bits < infinity) (hNonzero : bits ≠ 0)
  (hCoarsest : IsCoarsest bits (valueDigits bits) count grid)
include hFinite hNonzero hCoarsest

/-- A zero at the end would make it a point of a coarser grid. -/
theorem IsCoarsest.not_ten_dvd : ¬ 10 ∣ count := by
  rintro ⟨tenth, rfl⟩
  have hCoarser : (onGrid tenth (grid + 1)).nearest = bits :=
    nearest_of_value_eq hFinite hCoarsest.nearest_eq (value_onGrid_ten_mul tenth grid)
  rcases Nat.lt_or_eq_of_le hCoarsest.grid_le with hLower | hTop
  · have hGrid := hCoarsest.le_grid (grid + 1) hLower tenth hCoarser
    omega
  · -- On the first grid there is no point but one between zero and the first power of ten.
    have hCount := hCoarsest.count_le
    rw [hTop, Nat.div_eq_of_lt (exactValue_lt bits)] at hCount
    have hZero : tenth = 0 := by omega
    have hBits := hCoarsest.nearest_eq
    rw [hZero] at hBits
    exact hNonzero hBits.symm

/-- The point found has no more digits than its grid leaves of those of the exact value. -/
theorem IsCoarsest.count_lt {digits : ℕ} (hPositive : 0 < digits)
    (hDigits : valueDigits bits ≤ digits + grid) : count < 10 ^ digits := by
  have hBelow : exactValue bits / 10 ^ grid < 10 ^ digits := by
    rw [Nat.div_lt_iff_lt_mul (by positivity), ← Nat.pow_add]
    exact Nat.lt_of_lt_of_le (exactValue_lt bits) (Nat.pow_le_pow_right (by decide) hDigits)
  have hCount : count ≤ 10 ^ digits := Nat.le_trans hCoarsest.count_le hBelow
  have hTen : count ≠ 10 ^ digits := by
    intro hPower
    have hDvd : 10 ∣ count := hPower ▸ dvd_pow_self 10 (Nat.ne_of_gt hPositive)
    exact hCoarsest.not_ten_dvd hFinite hNonzero hDvd
  omega

/-- A competitor on the far side of a power of ten brings this power into the interval; one in the
decade of the exact value has a grid that is not coarser than the one found. -/
theorem IsCoarsest.valueDigits_le {competitor : Decimal} {digits : ℕ}
    (hCompetitor : competitor.nearest = bits) (hDigits : competitor.coefficient < 10 ^ digits) :
    0 < digits ∧ valueDigits bits ≤ digits + grid := by
  have hExact := nearest_exactValue hNonzero
  have hTop := valueDigits_pos bits
  have hCoefficient : competitor.coefficient ≠ 0 := coefficient_ne_zero (by rwa [hCompetitor])
  have hSome : 0 < digits := pos_of_lt_ten_pow hCoefficient hDigits
  refine ⟨hSome, ?_⟩
  by_cases hAbove : (onGrid 1 (valueDigits bits)).value ≤ competitor.value
  · have hPower : (onGrid 1 (valueDigits bits)).nearest = bits := by
      refine nearest_of_between hFinite hExact hCompetitor ?_ hAbove
      rw [value_onGrid_le_iff, Nat.pow_zero, Nat.mul_one, Nat.one_mul]
      exact Nat.le_of_lt (exactValue_lt bits)
    have hGrid := hCoarsest.le_grid _ (Nat.le_refl _) 1 hPower
    omega
  by_cases hBelow : competitor.value ≤ (onGrid 1 (valueDigits bits - 1)).value
  · have hPower : (onGrid 1 (valueDigits bits - 1)).nearest = bits := by
      refine nearest_of_between hFinite hCompetitor hExact hBelow ?_
      rw [value_onGrid_le_iff, Nat.pow_zero, Nat.mul_one, Nat.one_mul]
      exact pow_le_exactValue hNonzero
    have hGrid := hCoarsest.le_grid _ (Nat.sub_le _ 1) 1 hPower
    omega
  · have hDecade := lt_add_of_value_onGrid_lt hDigits (not_le.mp hBelow)
    by_cases hFine : competitor.exponent < -1074
    · omega
    obtain ⟨own, hOwn⟩ := exists_eq_onGrid (not_lt.mp hFine)
    have hExponent : competitor.exponent = (own : ℤ) - 1074 := congrArg exponent hOwn
    have hOwnTop : own ≤ valueDigits bits := by
      rw [hOwn, value_onGrid_le_iff, Nat.one_mul, Nat.not_le] at hAbove
      have hPower : 10 ^ own < 10 ^ valueDigits bits :=
        Nat.lt_of_le_of_lt (Nat.le_mul_of_pos_left _ (Nat.pos_of_ne_zero hCoefficient)) hAbove
      exact Nat.le_of_lt ((Nat.pow_lt_pow_iff_right (by decide)).mp hPower)
    rw [hOwn] at hCompetitor
    have hGrid := hCoarsest.le_grid own hOwnTop _ hCompetitor
    omega

end Shortest

theorem coefficient_shortest_ne_zero {bits : ℕ} (hNonzero : bits ≠ 0) :
    (shortest bits).coefficient ≠ 0 :=
  coefficient_ne_zero (by rwa [nearest_shortest hNonzero])

section Magnitude

variable {bits : ℕ} (hFinite : bits < infinity) (hNonzero : bits ≠ 0)
include hFinite hNonzero

theorem exists_isCoarsest_shortest :
    ∃ count grid, shortest bits = onGrid count grid ∧
      IsCoarsest bits (valueDigits bits) count grid :=
  exists_isCoarsest hFinite hNonzero (valueDigits bits)

theorem not_ten_dvd_coefficient_shortest : ¬ 10 ∣ (shortest bits).coefficient := by
  obtain ⟨count, grid, hShortest, hCoarsest⟩ := exists_isCoarsest_shortest hFinite hNonzero
  rw [hShortest]
  exact hCoarsest.not_ten_dvd hFinite hNonzero

/-- **No decimal of a magnitude has fewer digits than the shortest.** -/
theorem coefficient_shortest_lt {competitor : Decimal} {digits : ℕ}
    (hCompetitor : competitor.nearest = bits) (hDigits : competitor.coefficient < 10 ^ digits) :
    (shortest bits).coefficient < 10 ^ digits := by
  obtain ⟨count, grid, hShortest, hCoarsest⟩ := exists_isCoarsest_shortest hFinite hNonzero
  obtain ⟨hSome, hTop⟩ := hCoarsest.valueDigits_le hFinite hNonzero hCompetitor hDigits
  rw [hShortest]
  exact hCoarsest.count_lt hFinite hNonzero hSome hTop

/-- Zeros at the end of a competitor do not count as digits. -/
theorem coefficient_shortest_lt_of_mul {competitor : Decimal} {significant scale digits : ℕ}
    (hCompetitor : competitor.nearest = bits)
    (hZeros : competitor.coefficient = significant * 10 ^ scale)
    (hDigits : significant < 10 ^ digits) : (shortest bits).coefficient < 10 ^ digits := by
  let stripped : Decimal := ⟨significant, scale + competitor.exponent⟩
  have hValue : competitor.value = stripped.value := by
    rw [value, value, hZeros, zpow_add₀ (by norm_num), zpow_natCast]
    push_cast
    ring
  have hStripped : stripped.nearest = bits := nearest_of_value_eq hFinite hCompetitor hValue
  exact coefficient_shortest_lt hFinite hNonzero hStripped hDigits

/-! ## Whole numbers -/

/-- The shortest decimal needs no place after the point just if the magnitude is a whole number. -/
theorem exponent_shortest_nonneg_iff :
    0 ≤ (shortest bits).exponent ↔ ∃ n : ℕ, Binary64.value bits = n := by
  obtain ⟨count, grid, hShortest, hCoarsest⟩ := exists_isCoarsest_shortest hFinite hNonzero
  have hExponent : (shortest bits).exponent = (grid : ℤ) - 1074 := congrArg exponent hShortest
  rw [hExponent]
  constructor
  · intro hWhole
    obtain ⟨scale, hScale⟩ := Int.eq_ofNat_of_zero_le hWhole
    have hValue : (onGrid count grid).value = (count * 10 ^ scale : ℕ) := by
      rw [value, onGrid, hScale, zpow_natCast]
      push_cast
      rfl
    have hRounding : IsRounding (onGrid count grid).value bits :=
      (isRounding_value_iff hFinite).mpr hCoarsest.nearest_eq
    rw [hValue] at hRounding
    exact hRounding.exists_value_eq
  · rintro ⟨n, hValue⟩
    have hPoint : (onGrid n 1074).value = n := by
      rw [value, onGrid, Nat.cast_ofNat, sub_self, zpow_zero, mul_one]
    have hNearest : (onGrid n 1074).nearest = bits := by
      rw [← isRounding_value_iff hFinite, hPoint, ← hValue]
      exact Binary64.isRounding_value bits
    have hTop : 1074 ≤ valueDigits bits := le_valueDigits_of_value_eq hNonzero hValue
    have hGrid := hCoarsest.le_grid 1074 hTop n hNearest
    omega

end Magnitude
end Decimal
end PocketCalc
