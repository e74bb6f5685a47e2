import Mathlib
import PocketCalc.Number.Shortest

/-!
# The shortest decimal rounds to the magnitude that it stands for

`Decimal.nearest_shortest` says so of every magnitude but zero. There is no arithmetic of intervals
in the proof, since the search keeps nothing that it has not tested: a point of a coarse grid is
taken only if it rounds to the magnitude. What is left is the finest grid, where the exact value is
taken without a test. That an exact value rounds to itself (`Binary64.nearest_units_mul`) holds for
subnormal and normal magnitudes alike, whatever their neighbours are.

The clamps of `Decimal.nearest` are not in the way of a decimal that is worth its coefficient alone.
So a whole number can be written with a larger coefficient instead of an exponent
(`nearest_mul_ten_pow`), as long as the exponent is one that a finite magnitude can have
(`exponent_lt`).
-/

namespace PocketCalc

namespace Binary64

/-- The excess of a normal magnitude is the number of its binade, counted from the first. -/
theorem log2_units {bits : Nat} (h : ¬ bits < binade) :
    (units bits).log2 = 52 + (bits / binade - 1) := by
  have hFraction : bits % binade < binade := Nat.mod_lt _ (by decide)
  have hBinade : binade = 2 ^ 52 := by decide
  have hPos : 0 < 2 ^ (bits / binade - 1) := Nat.two_pow_pos _
  have hUnits : units bits = (binade + bits % binade) * 2 ^ (bits / binade - 1) := if_neg h
  have hNonzero : units bits ≠ 0 := by
    rw [hUnits]
    exact Nat.mul_ne_zero (by omega) (by omega)
  rw [Nat.log2_eq_iff hNonzero, hUnits, Nat.pow_add, Nat.add_right_comm, Nat.pow_add]
  constructor
  · exact Nat.mul_le_mul_right _ (by omega)
  · exact Nat.mul_lt_mul_of_pos_right (by omega) hPos

/-- An exact value is its own rounding. -/
theorem nearest_units_mul (bits : Nat) {den : Nat} (hDen : 0 < den) :
    nearest (units bits * den) den = bits := by
  rw [nearest, Nat.mul_div_cancel _ hDen]
  by_cases hSubnormal : bits < binade
  · have hExcess : bits.log2 - 52 = 0 := by
      by_cases hZero : bits = 0
      · rw [hZero]
        rfl
      · have hLog : bits.log2 < 52 := (Nat.log2_lt hZero).mpr hSubnormal
        omega
    have hWeight : den * Nat.pow 2 0 = den := Nat.mul_one den
    rw [units_of_lt hSubnormal, hExcess, hWeight, roundHalfEven_mul _ hDen]
    omega
  · have hExcess : (units bits).log2 - 52 = bits / binade - 1 := by
      rw [log2_units hSubnormal]
      omega
    have hWeight : 0 < den * Nat.pow 2 (bits / binade - 1) :=
      Nat.mul_pos hDen (Nat.two_pow_pos _)
    have hUnits : units bits * den =
        (binade + bits % binade) * (den * Nat.pow 2 (bits / binade - 1)) := by
      rw [units, if_neg hSubnormal, Nat.mul_assoc, Nat.mul_comm den]
    rw [hExcess, hUnits, roundHalfEven_mul _ hWeight]
    have hBinades : 1 ≤ bits / binade := (Nat.one_le_div_iff (by decide)).mpr (by omega)
    have hParts : binade * (bits / binade) + bits % binade = bits := Nat.div_add_mod ..
    have hFirst : (bits / binade - 1) * binade + binade = binade * (bits / binade) := by
      rw [Nat.mul_comm binade, ← Nat.succ_mul, Nat.succ_eq_add_one, Nat.sub_add_cancel hBinades]
    omega

theorem units_ne_zero {bits : Nat} (h : bits ≠ 0) : units bits ≠ 0 := by
  intro hZero
  have hNearest := nearest_units_mul bits Nat.one_pos
  rw [hZero] at hNearest
  exact h hNearest.symm

/-- So is an exact value that is written with units of `10 ^ -scale`. -/
theorem nearest_of_eq_mul_five_pow {bits value scale : Nat}
    (hValue : value = units bits * Nat.pow 5 scale) :
    nearest (value * Nat.pow 2 scale) (Nat.pow 10 scale) = bits := by
  have hTen : Nat.pow 5 scale * Nat.pow 2 scale = Nat.pow 10 scale := (Nat.mul_pow 5 2 scale).symm
  have hPos : 0 < Nat.pow 10 scale := Nat.pow_pos (by decide)
  rw [hValue, Nat.mul_assoc, hTen, nearest_units_mul bits hPos]

end Binary64

namespace Decimal

/-! ## The clamps, and what a finite rounding says of a decimal -/

theorem coefficient_ne_zero {decimal : Decimal} (h : decimal.nearest ≠ 0) :
    decimal.coefficient ≠ 0 := by
  intro hZero
  exact h (if_pos hZero)

/-- Past the clamp for large exponents. -/
theorem nearest_eq_infinity {decimal : Decimal} (hNonzero : decimal.coefficient ≠ 0)
    (hLarge : 310 ≤ decimal.exponent) : decimal.nearest = Binary64.infinity :=
  (if_neg hNonzero).trans (if_pos hLarge)

/-- Past the clamp for tiny decimals. -/
theorem nearest_eq_zero {decimal : Decimal}
    (hTiny : decimal.exponent + (decimal.coefficient.log2 + 1 : Nat) ≤ -330) :
    decimal.nearest = 0 := by
  have hSmall : ¬ 310 ≤ decimal.exponent := by omega
  by_cases hZero : decimal.coefficient = 0
  · exact if_pos hZero
  · exact (if_neg hZero).trans ((if_neg hSmall).trans (if_pos hTiny))

theorem exponent_lt {decimal : Decimal} (hNonzero : decimal.coefficient ≠ 0)
    (hFinite : decimal.nearest < Binary64.infinity) : decimal.exponent < 310 := by
  by_contra hLarge
  rw [nearest_eq_infinity hNonzero (by omega)] at hFinite
  exact Nat.lt_irrefl _ hFinite

/-- The rounding of a whole number, where no clamp is in the way. -/
theorem nearest_ofNat {coefficient scale : Nat} (hNonzero : coefficient ≠ 0)
    (hScale : scale < 310) :
    nearest ⟨coefficient, (scale : Int)⟩ =
      Binary64.nearest (coefficient * Nat.pow 10 scale * Nat.pow 2 1074) 1 := by
  have hSmall : ¬ (310 : Int) ≤ scale := by omega
  have hLarge : ¬ (scale : Int) + (coefficient.log2 + 1 : Nat) ≤ -330 := by omega
  exact (if_neg hNonzero).trans ((if_neg hSmall).trans (if_neg hLarge))

/-- The rounding of a decimal with places after the point, where no clamp is in the way. -/
theorem nearest_negSucc {coefficient scale : Nat} (hNonzero : coefficient ≠ 0)
    (hLarge : scale ≤ coefficient.log2 + 329) :
    nearest ⟨coefficient, Int.negSucc scale⟩ =
      Binary64.nearest (coefficient * Nat.pow 2 1074) (Nat.pow 10 (scale + 1)) := by
  have hSmall : ¬ (310 : Int) ≤ Int.negSucc scale := by omega
  have hClamp : ¬ Int.negSucc scale + (coefficient.log2 + 1 : Nat) ≤ -330 := by omega
  exact (if_neg hNonzero).trans ((if_neg hSmall).trans (if_neg hClamp))

/-- A whole number can be written without an exponent. -/
theorem nearest_mul_ten_pow (coefficient : Nat) {scale : Nat} (hScale : scale < 310) :
    nearest ⟨coefficient * Nat.pow 10 scale, 0⟩ = nearest ⟨coefficient, scale⟩ := by
  by_cases hZero : coefficient = 0
  · rw [hZero, Nat.zero_mul, nearest_zero, nearest_zero]
  have hTen : 0 < Nat.pow 10 scale := Nat.pow_pos (by decide)
  have hProduct : coefficient * Nat.pow 10 scale ≠ 0 :=
    Nat.mul_ne_zero hZero (Nat.ne_of_gt hTen)
  have hOne : coefficient * Nat.pow 10 scale * Nat.pow 10 0 = coefficient * Nat.pow 10 scale :=
    Nat.mul_one _
  have hWhole : nearest ⟨coefficient * Nat.pow 10 scale, ((0 : Nat) : Int)⟩ =
      Binary64.nearest (coefficient * Nat.pow 10 scale * Nat.pow 10 0 * Nat.pow 2 1074) 1 :=
    nearest_ofNat hProduct (by decide)
  rw [hOne, ← nearest_ofNat hZero hScale] at hWhole
  exact hWhole

/-! ## The search -/

/-- An exact value has so many bits that no clamp takes it for zero. -/
theorem le_log2_of_eq_mul_five_pow {value count scale : Nat}
    (hValue : value = count * Nat.pow 5 scale) (h : count ≠ 0) : scale ≤ value.log2 := by
  have hPos : 0 < Nat.pow 5 scale := Nat.pow_pos (by decide)
  rw [hValue, Nat.le_log2 (Nat.mul_ne_zero h (Nat.ne_of_gt hPos))]
  calc 2 ^ scale
      ≤ 5 ^ scale := Nat.pow_le_pow_left (by decide) scale
    _ ≤ count * 5 ^ scale := Nat.le_mul_of_pos_left _ (Nat.pos_of_ne_zero h)

/-- On the finest grid a magnitude is its exact value. -/
theorem nearest_exactValue {bits : Nat} (h : bits ≠ 0) :
    (onGrid (exactValue bits) 0).nearest = bits := by
  have hUnits := Binary64.units_ne_zero h
  have hValue : exactValue bits = Binary64.units bits * Nat.pow 5 1074 := rfl
  have hLog := le_log2_of_eq_mul_five_pow hValue hUnits
  have hClamp : 1073 ≤ (exactValue bits).log2 + 329 := by omega
  have hNonzero : exactValue bits ≠ 0 := by
    intro hZero
    rw [hZero, Nat.log2_zero] at hLog
    omega
  have hPlaces : 1073 + 1 = 1074 := rfl
  have hRounded := nearest_negSucc hNonzero hClamp
  have hExact := Binary64.nearest_of_eq_mul_five_pow hValue
  rw [hPlaces] at hRounded
  exact hRounded.trans hExact

/-- A coarser grid's point is taken only if it rounds to the magnitude. -/
theorem nearest_of_neighbour? {bits value grid count : Nat}
    (h : neighbour? bits value grid = some count) : (onGrid count grid).nearest = bits := by
  rw [← beq_iff_eq]
  show roundsTo bits count grid = true
  simp only [neighbour?] at h
  split at h
  · rename_i hBelow
    split at h
    · rename_i hAbove
      cases h
      exact hAbove.2
    · cases h
      exact hBelow
  · split at h
    · rename_i hAbove
      cases h
      exact hAbove
    · cases h

theorem nearest_coarsest {bits value : Nat} (h : (onGrid value 0).nearest = bits) (grid : Nat) :
    (coarsest bits value grid).nearest = bits := by
  induction grid with
  | zero => exact h
  | succ grid ih =>
    rw [coarsest]
    split
    · rename_i count hCount
      exact nearest_of_neighbour? hCount
    · exact ih

/-- **The shortest decimal of a magnitude rounds to it.** -/
theorem nearest_shortest {bits : Nat} (h : bits ≠ 0) : (shortest bits).nearest = bits :=
  nearest_coarsest (nearest_exactValue h) _

end Decimal
end PocketCalc
