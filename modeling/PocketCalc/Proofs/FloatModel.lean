import Mathlib
import PocketCalc.Proofs.NearestMagnitude

/-!
# Magnitudes and the model of floats

A `Float` is a checked word of 64 bits, and what is computed with it is defined by taking the word
apart: `UnpackedFloat` is the sum of what a word can be. Here that view is brought together with the
magnitude bits. `Unpacks sign bits number` says which number the magnitude bits stand for, in four
cases, and `unpacks_word` that taking a word apart leads there.

What follows is that the rational number which `value` makes of finite magnitude bits is the number
that the float is (`value_magnitude`), so statements about values are statements about floats. The
order is what the calculator depends on: to compare absolute values is to compare magnitude bits
(`abs_lt_iff`). NaN has the largest magnitude bits of all, and so it is below nothing.
-/

namespace PocketCalc
namespace Binary64

open Float.Model (Format UnpackedFloat)
open Float.Model.UnpackedFloat (Sign unpack pack unpackSign unpackExponent unpackMantissa
  unpackSign_def unpackExponent_def unpackMantissa_def pack_unpack pack_unpack_of_valid
  isNaNBits packedNaN)

/-! ## The fields of a word -/

theorem toNat_unpackExponent (word : UInt64) :
    (@unpackExponent Format.binary64 word.toBitVec).toNat =
      word.toNat % signBit / binade := by
  rw [unpackExponent_def, BitVec.extractLsb'_toNat]
  show word.toNat >>> 52 % 2 ^ 11 = word.toNat % 2 ^ 63 / 2 ^ 52
  rw [Nat.shiftRight_eq_div_pow]
  omega

theorem toNat_unpackMantissa (word : UInt64) :
    (@unpackMantissa Format.binary64 word.toBitVec).toNat =
      word.toNat % signBit % binade := by
  rw [unpackMantissa_def, BitVec.extractLsb'_toNat]
  show word.toNat >>> 0 % 2 ^ 52 = word.toNat % 2 ^ 63 % 2 ^ 52
  rw [Nat.shiftRight_zero]
  omega

theorem toNat_one_append (fraction : BitVec 52) :
    (1#1 ++ fraction).toNat = binade + fraction.toNat := by
  have hLess : fraction.toNat < 2 ^ 52 := fraction.isLt
  rw [BitVec.toNat_append, ← Nat.shiftLeft_add_eq_or_of_lt hLess, Nat.shiftLeft_eq]
  rfl

/-! ## The number that magnitude bits stand for -/

/-- The number of a sign and magnitude bits. A finite one is a significand at the weight of its
binade, and only in the lowest binade may the significand be short of its leading bit. -/
inductive Unpacks (sign : Sign) : ℕ → UnpackedFloat → Prop
  | zero : Unpacks sign 0 (.zero sign)
  | finite {bits significand k : ℕ} {exponent : ℤ} (hBits : bits = significand + k * binade)
      (hExponent : exponent = k - 1074) (hPos : 0 < significand) (hMost : significand < 2 * binade)
      (hLeast : k = 0 ∨ binade ≤ significand) (hFinite : k < 2046) :
      Unpacks sign bits (.finite sign significand exponent hPos)
  | infinite : Unpacks sign infinity (.infinity sign)
  | nan {bits : ℕ} (h : infinity < bits) : Unpacks sign bits .notANumber

theorem unpacks_word (word : UInt64) :
    Unpacks (Sign.ofBitVec (@unpackSign Format.binary64 word.toBitVec))
      (word.toNat % signBit) (unpack Format.binary64 word.toBitVec) := by
  have hParts := Nat.div_add_mod' (word.toNat % signBit) binade
  have hLess : word.toNat % signBit % binade < binade := Nat.mod_lt _ binade_pos
  rw [← toNat_unpackExponent, ← toNat_unpackMantissa] at hParts
  rw [← toNat_unpackMantissa] at hLess
  rw [← hParts]
  unfold unpack
  dsimp only
  split
  · rename_i hOnes
    rw [hOnes]
    split
    · rename_i hZero
      rw [hZero]
      exact .infinite
    · rename_i hNonzero
      rw [← BitVec.toNat_inj] at hNonzero
      exact .nan (Nat.lt_add_of_pos_right (Nat.pos_of_ne_zero hNonzero))
  · rename_i hNotOnes
    split
    · rename_i hLowest
      rw [hLowest]
      split
      · rename_i hZero
        rw [hZero]
        exact .zero
      · rename_i hNonzero
        rw [← BitVec.toNat_inj] at hNonzero
        exact .finite (Nat.add_comm ..) rfl (Nat.pos_of_ne_zero hNonzero) (by omega) (.inl rfl)
          (by decide)
    · rename_i hNotLowest
      rw [← BitVec.toNat_inj] at hNotOnes hNotLowest
      have hField := (@unpackExponent Format.binary64 word.toBitVec).isLt
      have hSignificand := toNat_one_append (@unpackMantissa Format.binary64 word.toBitVec)
      generalize (@unpackExponent Format.binary64 word.toBitVec).toNat = field at *
      obtain ⟨k, rfl⟩ := Nat.exists_eq_succ_of_ne_zero hNotLowest
      have hOnes : ¬ k + 1 = 2047 := hNotOnes
      have hWidth : k + 1 < 2048 := hField
      refine .finite (k := k) ?_ ?_ _ ?_ (.inr ?_) ?_
      · rw [hSignificand, Nat.succ_mul]
        omega
      · show ((k + 1 : ℕ) : ℤ) - (1023 + 52) = k - 1074
        omega
      · omega
      · omega
      · omega

/-- What a finite magnitude is worth is what the number is worth that it stands for. -/
theorem Unpacks.value_eq {sign sign' : Sign} {bits significand : ℕ} {exponent : ℤ}
    {hPos : 0 < significand} (h : Unpacks sign bits (.finite sign' significand exponent hPos)) :
    value bits = significand * 2 ^ exponent := by
  cases h with
  | @finite _ _ k _ hBits hExponent _ hMost hLeast _ =>
    have hUnits : units bits = significand * 2 ^ k := by
      rw [hBits, units_of_canonical (Nat.le_of_lt hMost) hLeast]
    rw [value, hUnits, hExponent, zpow_sub₀ two_ne_zero, zpow_natCast, Nat.cast_mul, Nat.cast_pow,
      Nat.cast_ofNat, mul_div_assoc]
    rfl

/-- **The value of a finite magnitude** is that of the number which the float is. -/
theorem value_magnitude {x : Float} {sign : Sign} {significand : ℕ} {exponent : ℤ}
    {hPos : 0 < significand} (h : x.toModel.unpack = .finite sign significand exponent hPos) :
    value (magnitude x) = significand * 2 ^ exponent := by
  have hUnpacks := unpacks_word x.toBits
  rw [show unpack Format.binary64 x.toBits.toBitVec = .finite sign significand exponent hPos from h]
    at hUnpacks
  exact hUnpacks.value_eq

/-! ## Order -/

/-- Canonical numbers are ordered by their binades, and within one by their significands. -/
theorem lt_iff_of_canonical {significand k significand' k' : ℕ} (hMost : significand < 2 * binade)
    (hLeast : k = 0 ∨ binade ≤ significand) (hMost' : significand' < 2 * binade)
    (hLeast' : k' = 0 ∨ binade ≤ significand') :
    significand + k * binade < significand' + k' * binade ↔
      k < k' ∨ k = k' ∧ significand < significand' := by
  unfold binade at *
  omega

theorem lt_infinity_of_canonical {significand k : ℕ} (hMost : significand < 2 * binade)
    (hFinite : k < 2046) : significand + k * binade < infinity := by
  unfold infinity binade at *
  omega

theorem then_compare_eq_lt_iff {exponent exponent' : ℤ} {significand significand' : ℕ} :
    (compare exponent exponent').then (compare significand significand') = .lt ↔
      exponent < exponent' ∨ exponent = exponent' ∧ significand < significand' := by
  rw [Ordering.then_eq_lt, Int.compare_eq_lt, Int.compare_eq_eq, Nat.compare_eq_lt]

theorem Unpacks.eq_notANumber {sign : Sign} {bits : ℕ} {number : UnpackedFloat}
    (h : Unpacks sign bits number) (hNaN : infinity < bits) : number = .notANumber := by
  cases h with
  | zero => exact absurd hNaN (by decide)
  | finite hBits _ _ hMost _ hFinite =>
    have hLess := lt_infinity_of_canonical hMost hFinite
    omega
  | infinite => exact absurd hNaN (Nat.lt_irrefl _)
  | nan => rfl

theorem Unpacks.isNaN_iff {sign : Sign} {bits : ℕ} {number : UnpackedFloat}
    (h : Unpacks sign bits number) : number.isNaN = true ↔ infinity < bits := by
  constructor
  · intro hNaN
    cases h with
    | nan hBits => exact hBits
    | _ => cases hNaN
  · intro hBits
    rw [h.eq_notANumber hBits]
    rfl

/-- Numbers compare as magnitude bits do; NaN is not below anything. -/
theorem Unpacks.lt_eq {bits other : ℕ} {number otherNumber : UnpackedFloat}
    (h : Unpacks .positive bits number) (hOther : Unpacks .positive other otherNumber)
    (hNumber : other ≤ infinity) : number.lt otherNumber = decide (bits < other) := by
  have hZero : 0 < infinity := by decide
  cases h with
  | zero =>
    cases hOther with
    | finite hBits _ hPos =>
      have hLess : 0 < other := by omega
      rw [decide_eq_true hLess]
      rfl
    | nan hNan => omega
    | _ => rfl
  | @finite _ _ k exponent hBits hExponent _ hMost hLeast hFinite =>
    cases hOther with
    | zero => rfl
    | @finite _ _ k' exponent' hBits' hExponent' _ hMost' hLeast' _ =>
      show (some ((compare exponent exponent').then (compare _ _)) == some .lt) = _
      rw [hBits, hBits', Bool.eq_iff_iff, beq_iff_eq, Option.some.injEq, then_compare_eq_lt_iff,
        decide_eq_true_iff, lt_iff_of_canonical hMost hLeast hMost' hLeast']
      omega
    | infinite =>
      have hLess : bits < infinity := hBits ▸ lt_infinity_of_canonical hMost hFinite
      rw [decide_eq_true hLess]
      rfl
    | nan hNan => omega
  | infinite =>
    have hNotLess : ¬ infinity < other := Nat.not_lt.mpr hNumber
    rw [decide_eq_false hNotLess]
    cases hOther with
    | nan hNan => omega
    | _ => rfl
  | nan h =>
    have hNotLess : ¬ bits < other := by omega
    rw [decide_eq_false hNotLess]
    rfl

/-! ## Absolute values -/

/-- The word without its sign. -/
def unsigned (word : UInt64) : UInt64 := UInt64.ofNat (word.toNat % signBit)

theorem toNat_unsigned (word : UInt64) : (unsigned word).toNat = word.toNat % signBit := by
  have hLess : word.toNat % signBit < signBit := Nat.mod_lt _ (by decide)
  have hWidth : word.toNat % signBit < 2 ^ 64 := Nat.lt_trans hLess (by decide)
  rw [unsigned, UInt64.toNat_ofNat', Nat.mod_eq_of_lt hWidth]

theorem unpackSign_of_lt {word : UInt64} (h : word.toNat < signBit) :
    @unpackSign Format.binary64 word.toBitVec = 0#1 := by
  rw [← BitVec.toNat_inj, unpackSign_def, BitVec.extractLsb'_toNat]
  have hSign : word.toNat / 2 ^ 63 = 0 := Nat.div_eq_of_lt h
  show word.toNat >>> 63 % 2 = 0
  rw [Nat.shiftRight_eq_div_pow, hSign]

theorem unpacks_of_positive {x : Float} (h : isNegative x = false) :
    Unpacks .positive (magnitude x) x.toModel.unpack := by
  have hSign : x.toBits.toNat < signBit := Nat.lt_of_not_le (of_decide_eq_false h)
  have hUnpacks := unpacks_word x.toBits
  rw [unpackSign_of_lt hSign] at hUnpacks
  exact hUnpacks

/-- To drop the sign of a word is to drop the sign of its number. -/
theorem abs_unpack (word : UInt64) :
    (unpack Format.binary64 word.toBitVec).abs =
      unpack Format.binary64 (unsigned word).toBitVec := by
  have hExponent : @unpackExponent Format.binary64 (unsigned word).toBitVec =
      @unpackExponent Format.binary64 word.toBitVec := by
    rw [← BitVec.toNat_inj, toNat_unpackExponent, toNat_unpackExponent, toNat_unsigned, Nat.mod_mod]
  have hFraction : @unpackMantissa Format.binary64 (unsigned word).toBitVec =
      @unpackMantissa Format.binary64 word.toBitVec := by
    rw [← BitVec.toNat_inj, toNat_unpackMantissa, toNat_unpackMantissa, toNat_unsigned, Nat.mod_mod]
  have hSign : @unpackSign Format.binary64 (unsigned word).toBitVec = 0#1 := by
    apply unpackSign_of_lt
    rw [toNat_unsigned]
    exact Nat.mod_lt _ (by decide)
  unfold unpack
  simp only [hExponent, hFraction, hSign]
  split
  · split <;> rfl
  · split
    · split <;> rfl
    · rfl

/-- The word of a number can be made up again from its parts. -/
theorem pack_unpack_word {word : UInt64} (h : word.toNat % signBit ≤ infinity) :
    (unpack Format.binary64 word.toBitVec).pack Format.binary64 = word.toBitVec := by
  have hNumber : @isNaNBits Format.binary64 word.toBitVec = false := by
    unfold isNaNBits
    rw [decide_eq_false_iff_not]
    rintro ⟨hExponent, hFraction⟩
    rw [← BitVec.toNat_inj, toNat_unpackExponent] at hExponent
    rw [ne_eq, ← BitVec.toNat_inj, toNat_unpackMantissa] at hFraction
    have hOnes : word.toNat % signBit / binade = 2047 := hExponent
    have hSome : ¬ word.toNat % signBit % binade = 0 := hFraction
    have hParts := Nat.div_add_mod' (word.toNat % signBit) binade
    have hInfinity : infinity = 2047 * binade := rfl
    rw [hOnes] at hParts
    omega
  rw [@pack_unpack Format.binary64 word.toBitVec (by decide), hNumber, if_neg Bool.false_ne_true]

theorem toBits_ofBits {word : UInt64} (h : word.toNat % signBit ≤ infinity) :
    (Float.ofBits word).toBits = word :=
  UInt64.toBitVec_inj.mp (pack_unpack_word h)

/-- Magnitude bits are read back from the float that they make. -/
theorem magnitude_ofMagnitude {negative : Bool} {bits : ℕ} (h : bits ≤ infinity) :
    magnitude (ofMagnitude negative bits) = bits := by
  have hLess : bits < signBit := Nat.lt_of_le_of_lt h (by decide)
  have hWord : (UInt64.ofNat (if negative then signBit + bits else bits)).toNat % signBit = bits := by
    cases negative with
    | false =>
      have hWidth : bits < 2 ^ 64 := Nat.lt_trans hLess (by decide)
      show (UInt64.ofNat bits).toNat % signBit = bits
      rw [UInt64.toNat_ofNat', Nat.mod_eq_of_lt hWidth, Nat.mod_eq_of_lt hLess]
    | true =>
      have hWidth : signBit + bits < 2 ^ 64 := Nat.add_lt_add_left hLess signBit
      show (UInt64.ofNat (signBit + bits)).toNat % signBit = bits
      rw [UInt64.toNat_ofNat', Nat.mod_eq_of_lt hWidth, Nat.add_mod_left, Nat.mod_eq_of_lt hLess]
  unfold magnitude ofMagnitude
  rw [toBits_ofBits (hWord.symm ▸ h), hWord]

theorem isNaN_iff {x : Float} : x.isNaN = true ↔ infinity < magnitude x :=
  (unpacks_word x.toBits).isNaN_iff

/-- There is one word for NaN. -/
theorem toBits_of_infinity_lt {x : Float} (h : infinity < magnitude x) :
    x.toBits.toBitVec = packedNaN Format.binary64 := by
  have hNaN : unpack Format.binary64 x.toBits.toBitVec = .notANumber :=
    (unpacks_word x.toBits).eq_notANumber h
  have hPack := pack_unpack_of_valid x.toModel.valid (by decide)
  show x.toModel.toBits.toBitVec = _
  rw [← hPack]
  exact congrArg (pack Format.binary64) hNaN

/-- The absolute value keeps the magnitude bits and drops the sign. -/
theorem toBits_abs (x : Float) : x.abs.toBits = unsigned x.toBits := by
  show UInt64.ofBitVec (((unpack Format.binary64 x.toBits.toBitVec).abs).pack Format.binary64) = _
  rcases Nat.lt_or_ge infinity (magnitude x) with hNaN | hNumber
  · have hWord : x.toBits = UInt64.ofBitVec (packedNaN Format.binary64) :=
      UInt64.toBitVec_inj.mp (toBits_of_infinity_lt hNaN)
    rw [hWord]
    decide +kernel
  · have hSame : (unsigned x.toBits).toNat % signBit ≤ infinity := by
      rw [toNat_unsigned, Nat.mod_mod]
      exact hNumber
    rw [abs_unpack, pack_unpack_word hSame]

@[simp] theorem isNegative_abs (x : Float) : isNegative x.abs = false := by
  unfold isNegative
  rw [toBits_abs, toNat_unsigned]
  exact decide_eq_false (Nat.not_le.mpr (magnitude_lt x))

@[simp] theorem magnitude_abs (x : Float) : magnitude x.abs = magnitude x := by
  unfold magnitude
  rw [toBits_abs, toNat_unsigned, Nat.mod_mod]

/-- The absolute value of what is not NaN. That of an infinite value is above all numbers. -/
def absolute (x : Float) : WithTop ℚ := if isFinite x then (value (magnitude x) : ℚ) else ⊤

/-- **An absolute value is below a number just if its magnitude bits are below.** -/
theorem abs_lt_iff {x y : Float} (hPositive : isNegative y = false)
    (hNumber : magnitude y ≤ infinity) : x.abs < y ↔ magnitude x < magnitude y := by
  have hAbs : Unpacks .positive (magnitude x) x.abs.toModel.unpack := by
    rw [← magnitude_abs x]
    exact unpacks_of_positive (isNegative_abs x)
  have hCompare := hAbs.lt_eq (unpacks_of_positive hPositive) hNumber
  show decide (x.abs.toModel.unpack.lt y.toModel.unpack = true) = true ↔ _
  rw [decide_eq_true_iff, hCompare, decide_eq_true_iff]

end Binary64
end PocketCalc
