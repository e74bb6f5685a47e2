import PocketCalc.Proofs.FewestDigits

/-!
# The decimal closest to a magnitude

`Decimal.IsClosest decimal bits` says which decimal stands for a magnitude where it is written. It
rounds to the magnitude, no decimal with a larger exponent does, and among those with the same exponent
none is closer to the exact value; of two equally close ones it is the larger. There is at most one such
decimal (`IsClosest.unique`), and `Decimal.shortest` is it (`isClosest_shortest`).

The search looks at the two points of a grid next to the exact value only. That is enough, because a
point further away that rounds to the magnitude brings the one before it along
(`distance_le_of_neighbour?`). It begins at the first power of ten above the exact value, and a grid
coarser than that has no point for the magnitude, as even twice the value rounds to another one
(`not_isRounding_of_two_mul_le`).
-/

namespace PocketCalc

namespace Binary64

/-- One step further is at most twice the value. -/
theorem units_succ_le_two_mul {bits : ℕ} (h : bits ≠ 0) : units (bits + 1) ≤ 2 * units bits := by
  by_cases hSubnormal : bits < binade
  · have hNext : bits + 1 = bits + 1 + 0 * binade := by omega
    rw [hNext, units_of_canonical (by omega) (.inl rfl), units_of_lt hSubnormal]
    omega
  · obtain ⟨significand, k, hLeast, hMost, rfl⟩ := exists_eq_add_mul (Nat.le_of_not_lt hSubnormal)
    have hNext : significand + k * binade + 1 = significand + 1 + k * binade := by omega
    have hPositive := binade_pos
    rw [hNext, units_add_mul hLeast (by omega), units_add_mul (by omega) (by omega),
      ← Nat.mul_assoc]
    exact Nat.mul_le_mul_right _ (by omega)

/-- So what is at least twice the value rounds to another magnitude. -/
theorem not_isRounding_of_two_mul_le {q : ℚ} {bits : ℕ} (hNonzero : bits ≠ 0)
    (h : 2 * value bits ≤ q) : ¬ IsRounding q bits := by
  intro hRounding
  have hUnits : (units (bits + 1) : ℚ) ≤ 2 * units bits := by
    exact_mod_cast units_succ_le_two_mul hNonzero
  have hNext : value (bits + 1) ≤ 2 * value bits := by
    rw [value, value, mul_div_assoc']
    exact div_le_div_of_nonneg_right hUnits (by positivity)
  have hBits : bits + 1 ≤ bits := (isRounding_value (bits + 1)).mono hRounding (hNext.trans h)
  omega

end Binary64

namespace Decimal

open Binary64 (IsRounding infinity)

/-- How far a decimal is from the exact value of a magnitude. -/
def distance (decimal : Decimal) (bits : ℕ) : ℚ := |decimal.value - Binary64.value bits|

/-- The decimal that stands for a magnitude. -/
structure IsClosest (decimal : Decimal) (bits : ℕ) : Prop where
  isRounding : IsRounding decimal.value bits
  coarsest : ∀ other : Decimal, decimal.exponent < other.exponent → ¬ IsRounding other.value bits
  nearest : ∀ other : Decimal, other.exponent = decimal.exponent → IsRounding other.value bits →
    decimal.distance bits ≤ other.distance bits
  upper : ∀ other : Decimal, other.exponent = decimal.exponent → IsRounding other.value bits →
    other.distance bits = decimal.distance bits → other.coefficient ≤ decimal.coefficient

/-- **One decimal stands for a magnitude.** -/
theorem IsClosest.unique {decimal other : Decimal} {bits : ℕ} (h : decimal.IsClosest bits)
    (hOther : other.IsClosest bits) : decimal = other := by
  have hExponent : decimal.exponent = other.exponent := by
    apply le_antisymm
    · exact not_lt.mp fun hCoarser => hOther.coarsest decimal hCoarser h.isRounding
    · exact not_lt.mp fun hCoarser => h.coarsest other hCoarser hOther.isRounding
  have hDistance : other.distance bits = decimal.distance bits := by
    apply le_antisymm
    · exact hOther.nearest decimal hExponent h.isRounding
    · exact h.nearest other hExponent.symm hOther.isRounding
  have hCoefficient : decimal.coefficient = other.coefficient := by
    apply le_antisymm
    · exact hOther.upper decimal hExponent h.isRounding hDistance.symm
    · exact h.upper other hExponent.symm hOther.isRounding hDistance
  cases decimal
  cases other
  exact congr (congrArg Decimal.mk hCoefficient) hExponent

/-- The decimals of the magnitudes are in the order of the magnitudes. -/
theorem IsClosest.value_lt_iff {decimal other : Decimal} {bits otherBits : ℕ}
    (h : decimal.IsClosest bits) (hOther : other.IsClosest otherBits) :
    decimal.value < other.value ↔ bits < otherBits := by
  constructor
  · intro hLess
    rcases Nat.lt_or_eq_of_le (h.isRounding.mono hOther.isRounding hLess.le) with hBits | rfl
    · exact hBits
    · rw [h.unique hOther] at hLess
      exact absurd hLess (lt_irrefl _)
  · intro hBits
    by_contra hLess
    have hOrder := hOther.isRounding.mono h.isRounding (not_lt.mp hLess)
    omega

/-! ## The points next to the exact value -/

theorem value_exactValue (bits : ℕ) : Binary64.value bits = (exactValue bits : ℚ) * finestStep := by
  have hExact : exactValue bits = Binary64.units bits * Nat.pow 5 1074 := rfl
  have hFinest : finestStep = 10 ^ (-((1074 : ℕ) : ℤ)) := rfl
  rw [Binary64.value, hExact, hFinest]
  generalize 1074 = k
  have hTen : (10 : ℚ) ^ k = 2 ^ k * 5 ^ k := by
    rw [← mul_pow]
    norm_num
  have hFive : ((Nat.pow 5 k : ℕ) : ℚ) = 5 ^ k := Nat.cast_pow 5 k
  rw [Nat.cast_mul, hFive, zpow_neg, zpow_natCast, hTen, ← div_eq_mul_inv,
    mul_div_mul_right _ _ (by positivity)]

theorem value_onGrid_le_value_iff {count grid bits : ℕ} :
    (onGrid count grid).value ≤ Binary64.value bits ↔ count * 10 ^ grid ≤ exactValue bits := by
  rw [value_onGrid, value_exactValue, mul_le_mul_iff_of_pos_right finestStep_pos, Nat.cast_le]

/-- Whether the upper one of two neighbouring points is at least as near as the lower one. -/
theorem add_le_two_mul_value_iff {below grid bits : ℕ}
    (hBelow : below = exactValue bits / 10 ^ grid) :
    (onGrid below grid).value + (onGrid (below + 1) grid).value ≤ 2 * Binary64.value bits ↔
      10 ^ grid ≤ 2 * (exactValue bits % 10 ^ grid) := by
  have hParts : 10 ^ grid * below + exactValue bits % 10 ^ grid = exactValue bits := by
    rw [hBelow]
    exact Nat.div_add_mod ..
  have hSum : (onGrid below grid).value + (onGrid (below + 1) grid).value =
      ((2 * (10 ^ grid * below) + 10 ^ grid : ℕ) : ℚ) * finestStep := by
    rw [value_onGrid, value_onGrid]
    push_cast
    ring
  have hTwice : 2 * Binary64.value bits = ((2 * exactValue bits : ℕ) : ℚ) * finestStep := by
    rw [value_exactValue]
    push_cast
    ring
  rw [hSum, hTwice, mul_le_mul_iff_of_pos_right finestStep_pos, Nat.cast_le]
  generalize 10 ^ grid * below = multiple at *
  omega

/-- What the search takes of a grid: the lower point if the upper one is not nearer or does not round
to the magnitude, and the upper one if it is at least as near or the lower one does not. -/
theorem neighbour?_cases {bits value grid count : ℕ} (h : neighbour? bits value grid = some count) :
    (count = value / 10 ^ grid ∧ (10 ^ grid ≤ 2 * (value % 10 ^ grid) →
      (onGrid (value / 10 ^ grid + 1) grid).nearest ≠ bits)) ∨
    (count = value / 10 ^ grid + 1 ∧ ((onGrid (value / 10 ^ grid) grid).nearest = bits →
      10 ^ grid ≤ 2 * (value % 10 ^ grid))) := by
  simp only [neighbour?, roundsTo_iff] at h
  split at h
  · split at h
    · rename_i hUpper
      exact .inr ⟨(Option.some.inj h).symm, fun _ => hUpper.1⟩
    · rename_i hLower
      exact .inl ⟨(Option.some.inj h).symm, fun hNear hRounds => hLower ⟨hNear, hRounds⟩⟩
  · rename_i hBelow
    split at h
    · exact .inr ⟨(Option.some.inj h).symm, fun hRounds => absurd hRounds hBelow⟩
    · cases h

/-- On the finest grid the search takes the exact value, as on any other it takes a point. -/
theorem exists_neighbour?_shortest {bits : ℕ} (hNonzero : bits ≠ 0) :
    ∃ count grid, shortest bits = onGrid count grid ∧
      neighbour? bits (exactValue bits) grid = some count := by
  have hFinest : neighbour? bits (exactValue bits) 0 = some (exactValue bits) := by
    have hExact := roundsTo_iff.mpr (nearest_exactValue hNonzero)
    simp [neighbour?, Nat.mod_one, hExact]
  show ∃ count grid, coarsest bits (exactValue bits) (valueDigits bits) = _ ∧ _
  induction valueDigits bits with
  | zero => exact ⟨exactValue bits, 0, rfl, hFinest⟩
  | succ top ih =>
    rw [coarsest]
    split
    · rename_i count hCount
      exact ⟨count, top + 1, rfl, hCount⟩
    · exact ih

theorem distance_of_le {decimal : Decimal} {bits : ℕ} (h : decimal.value ≤ Binary64.value bits) :
    decimal.distance bits = Binary64.value bits - decimal.value := by
  rw [distance, abs_of_nonpos (sub_nonpos.mpr h), neg_sub]

theorem distance_of_ge {decimal : Decimal} {bits : ℕ} (h : Binary64.value bits ≤ decimal.value) :
    decimal.distance bits = decimal.value - Binary64.value bits :=
  abs_of_nonneg (sub_nonneg.mpr h)

section Magnitude

variable {bits : ℕ} (hFinite : bits < infinity) (hNonzero : bits ≠ 0)
include hFinite hNonzero

/-- **What the search takes of a grid is closest**, and the larger one in a tie. -/
theorem distance_le_of_neighbour? {grid count point : ℕ}
    (h : neighbour? bits (exactValue bits) grid = some count)
    (hPoint : (onGrid point grid).nearest = bits) :
    (onGrid count grid).distance bits ≤ (onGrid point grid).distance bits ∧
      ((onGrid point grid).distance bits = (onGrid count grid).distance bits → point ≤ count) := by
  have hOrder {left right : ℕ} :
      (onGrid left grid).value ≤ (onGrid right grid).value ↔ left ≤ right := by
    rw [value_onGrid_le_iff, Nat.mul_le_mul_right_iff (by positivity)]
  have hCases := neighbour?_cases h
  obtain ⟨below, hBelow⟩ : ∃ below, below = exactValue bits / 10 ^ grid := ⟨_, rfl⟩
  have hNear := add_le_two_mul_value_iff hBelow
  have hLow : (onGrid below grid).value ≤ Binary64.value bits := by
    rw [value_onGrid_le_value_iff, hBelow]
    exact Nat.div_mul_le_self ..
  have hHigh : Binary64.value bits ≤ (onGrid (below + 1) grid).value := by
    refine (not_le.mp fun hLess => ?_).le
    rw [value_onGrid_le_value_iff, hBelow, Nat.mul_comm] at hLess
    exact absurd (Nat.lt_mul_div_succ _ (by positivity)) (Nat.not_lt.mpr hLess)
  rw [← hNear, ← hBelow] at hCases
  -- A point on either side lies behind the neighbour on its side, which rounds to the magnitude too.
  rcases Nat.lt_or_ge below point with hAbove | hNotAbove
  · have hRounds := nearest_above hFinite hNonzero hPoint (hBelow ▸ hAbove)
    rw [← hBelow] at hRounds
    have hFar := hOrder.mpr hAbove
    rw [distance_of_ge (hHigh.trans hFar)]
    rcases hCases with ⟨rfl, hNotNear⟩ | ⟨rfl, _⟩
    · have hCloser := not_le.mp fun hNear => hNotNear hNear hRounds
      rw [distance_of_le hLow]
      exact ⟨by linarith, fun hTie => by linarith⟩
    · rw [distance_of_ge hHigh]
      exact ⟨by linarith, fun hTie => hOrder.mp (by linarith)⟩
  · have hRounds := nearest_below hFinite hNonzero hPoint (hBelow ▸ hNotAbove)
    rw [← hBelow] at hRounds
    have hFar := hOrder.mpr hNotAbove
    rw [distance_of_le (hFar.trans hLow)]
    rcases hCases with ⟨rfl, _⟩ | ⟨rfl, hNear⟩
    · rw [distance_of_le hLow]
      exact ⟨by linarith, fun _ => hNotAbove⟩
    · have hCloser := hNear hRounds
      rw [distance_of_ge hHigh]
      exact ⟨by linarith, fun _ => Nat.le_succ_of_le hNotAbove⟩

/-! ## The search -/

/-- A grid coarser than the one found has no point that rounds to the magnitude. -/
theorem exponent_le_exponent_shortest {other : Decimal} (hOther : IsRounding other.value bits) :
    other.exponent ≤ (shortest bits).exponent := by
  obtain ⟨count, grid, hShortest, hCoarsest⟩ := exists_isCoarsest_shortest hFinite hNonzero
  have hExponent : (shortest bits).exponent = (grid : ℤ) - 1074 := congrArg exponent hShortest
  rw [hExponent]
  by_contra hCoarser
  obtain ⟨otherGrid, hGrid⟩ := @exists_eq_onGrid other (by omega)
  have hOtherExponent : other.exponent = (otherGrid : ℤ) - 1074 := congrArg exponent hGrid
  have hNearest := (isRounding_value_iff hFinite).mp hOther
  have hCoefficient : other.coefficient ≠ 0 := coefficient_ne_zero (by rwa [hNearest])
  rcases Nat.lt_or_ge (valueDigits bits) otherGrid with hAbove | hTop
  · refine Binary64.not_isRounding_of_two_mul_le hNonzero ?_ hOther
    have hTwice : 2 * exactValue bits ≤ other.coefficient * 10 ^ otherGrid :=
      calc 2 * exactValue bits
          ≤ 10 * 10 ^ valueDigits bits := Nat.mul_le_mul (by decide) (exactValue_lt bits).le
        _ = 10 ^ (valueDigits bits + 1) := (Nat.pow_succ' ..).symm
        _ ≤ 10 ^ otherGrid := Nat.pow_le_pow_right (by decide) hAbove
        _ ≤ other.coefficient * 10 ^ otherGrid :=
          Nat.le_mul_of_pos_left _ (Nat.pos_of_ne_zero hCoefficient)
    rw [hGrid, value_onGrid, value_exactValue, ← mul_assoc]
    refine mul_le_mul_of_nonneg_right ?_ finestStep_pos.le
    exact_mod_cast hTwice
  · rw [hGrid] at hNearest
    have hFound := hCoarsest.le_grid otherGrid hTop _ hNearest
    omega

/-- **The shortest decimal is the one that stands for its magnitude.** -/
theorem isClosest_shortest : (shortest bits).IsClosest bits := by
  obtain ⟨count, grid, hShortest, hTaken⟩ := exists_neighbour?_shortest hNonzero
  have hGrid (other : Decimal) (hExponent : other.exponent = (shortest bits).exponent)
      (hOther : IsRounding other.value bits) :
      (shortest bits).distance bits ≤ other.distance bits ∧
        (other.distance bits = (shortest bits).distance bits →
          other.coefficient ≤ (shortest bits).coefficient) := by
    obtain ⟨point, exponent⟩ := other
    obtain rfl : exponent = (grid : ℤ) - 1074 := hExponent.trans (congrArg Decimal.exponent hShortest)
    rw [hShortest]
    exact distance_le_of_neighbour? hFinite hNonzero hTaken ((isRounding_value_iff hFinite).mp hOther)
  constructor
  · exact (isRounding_value_iff hFinite).mpr (nearest_shortest hNonzero)
  · intro other hCoarser hOther
    exact absurd (exponent_le_exponent_shortest hFinite hNonzero hOther) (not_le.mpr hCoarser)
  · exact fun other hExponent hOther => (hGrid other hExponent hOther).1
  · exact fun other hExponent hOther => (hGrid other hExponent hOther).2

end Magnitude
end Decimal
end PocketCalc
