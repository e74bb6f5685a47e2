import PocketCalc.Number.Binary64

/-!
# Decimals and the magnitudes nearest to them

A `Decimal` is a natural number times a power of ten, exact and without a sign. It stands
between the texts of numbers and their binary values: reading a numeral yields a decimal, and
printing a value chooses one. `Decimal.nearest` rounds a decimal to magnitude bits.

The exponent of a numeral can be large, so no power of ten is formed before the exponent is
known to matter. From `10 ^ 310` on every magnitude is past the finite ones, and below
`10 ^ -330` every magnitude is nearer to zero than to the least positive value.
-/

namespace PocketCalc

/-- The number `coefficient * 10 ^ exponent`. -/
structure Decimal where
  coefficient : Nat
  exponent : Int
  deriving Repr, DecidableEq

namespace Decimal

/-- The magnitude bits nearest to a decimal, ties to even; at least `Binary64.infinity` if the
decimal rounds to no finite magnitude. The bit length of the coefficient bounds its count of
digits from above, which is all that the test for tiny decimals needs. -/
def nearest (decimal : Decimal) : Nat :=
  if decimal.coefficient = 0 then 0
  else if 310 ≤ decimal.exponent then Binary64.infinity
  else if decimal.exponent + (decimal.coefficient.log2 + 1 : Nat) ≤ -330 then 0
  else match decimal.exponent with
    | .ofNat scale => Binary64.nearest (decimal.coefficient * Nat.pow 10 scale * Nat.pow 2 1074) 1
    | .negSucc scale =>
      Binary64.nearest (decimal.coefficient * Nat.pow 2 1074) (Nat.pow 10 (scale + 1))

@[simp] theorem nearest_zero (exponent : Int) : nearest ⟨0, exponent⟩ = 0 := rfl

end Decimal
end PocketCalc
