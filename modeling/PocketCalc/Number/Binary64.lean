/-!
# Binary64 magnitudes

A `Float` is a sign bit over 63 *magnitude bits*. The magnitude bits are read as a natural
number here, and that number orders the finite magnitudes as their values do: zero is `0`, the
subnormals follow, then the normal numbers binade by binade, then `infinity`, then the NaNs.
Every finite magnitude is a whole number of units of 2⁻¹⁰⁷⁴, the least positive value, and
`units` says how many.

`nearest` goes the other way. It rounds a ratio of natural numbers, again in units of 2⁻¹⁰⁷⁴,
to the magnitude nearest to it, and to the even one of two magnitudes equally near. It knows no
upper limit: a result of at least `infinity` says that the ratio is too large to be finite.

Only natural numbers are computed with, so both directions are exact. Powers are written as
`Nat.pow` throughout, which means the same wherever it is read.
-/

namespace PocketCalc.Binary64

/-- How many magnitudes there are in a binade: as many as the 52 fraction bits tell apart. -/
def binade : Nat := 0x10000000000000

/-- The magnitude bits of an infinite value: all exponent bits set, all fraction bits clear. -/
def infinity : Nat := 2047 * binade

/-- The weight of the sign bit, which is the 64th. -/
def signBit : Nat := 0x8000000000000000

/-- Whether the sign bit is set, as it is on `-0.0`. -/
def isNegative (x : Float) : Bool := signBit ≤ x.toBits.toNat

/-- The magnitude bits of a value: all bits but the sign. -/
def magnitude (x : Float) : Nat := x.toBits.toNat % signBit

/-- Whether a value is neither infinite nor NaN. -/
def isFinite (x : Float) : Bool := magnitude x < infinity

/-- The value with the given sign and magnitude bits. -/
def ofMagnitude (negative : Bool) (bits : Nat) : Float :=
  Float.ofBits (UInt64.ofNat (if negative then signBit + bits else bits))

/-- The exact value of finite magnitude bits, in units of 2⁻¹⁰⁷⁴. The subnormals count single
units. A normal number has its leading bit restored, and each binade after the first doubles
the weight of the fraction's last bit. -/
def units (bits : Nat) : Nat :=
  if bits < binade then bits
  else (binade + bits % binade) * Nat.pow 2 (bits / binade - 1)

/-- The whole number nearest to `num / den`, and of two equally near the even one. -/
def roundHalfEven (num den : Nat) : Nat :=
  let below := num / den
  let rest := 2 * (num % den)
  if rest < den then below
  else if den < rest then below + 1
  else below + below % 2

/-- The magnitude bits nearest to `num / den` units. A ratio of more than 53 bits loses its
`excess` lowest bits to rounding. Should the rounding carry into the next power of two, the
carry runs from the fraction bits into the exponent bits, and the sum is right again. -/
def nearest (num den : Nat) : Nat :=
  let excess := (num / den).log2 - 52
  roundHalfEven num (den * Nat.pow 2 excess) + excess * binade

theorem magnitude_lt (x : Float) : magnitude x < signBit := Nat.mod_lt _ (by decide)

@[simp] theorem units_zero : units 0 = 0 := rfl

/-- Subnormal magnitudes are their own counts of units. -/
theorem units_of_lt {bits : Nat} (h : bits < binade) : units bits = bits := if_pos h

/-- A whole number is its own rounding. -/
theorem roundHalfEven_mul (n : Nat) {den : Nat} (h : 0 < den) : roundHalfEven (n * den) den = n := by
  simp [roundHalfEven, Nat.mul_div_cancel _ h, Nat.mul_mod_left, h]

end PocketCalc.Binary64
