import PocketCalc.Number.Decimal

/-!
# The shortest decimal of a magnitude

Among the decimals that round to a given magnitude, `Decimal.shortest` picks one on the
coarsest grid of powers of ten that has any, and of those the one nearest to the magnitude's
exact value. That is a decimal with as few digits as can be told apart from the neighbours.

A finite magnitude is a whole number of units of 2⁻¹⁰⁷⁴, hence of 10⁻¹⁰⁷⁴, so the search stays
in the natural numbers. The grid of exponent `j` holds the multiples of `10 ^ j` of these
small units. Rounding keeps order, so the decimals that round to a magnitude lie together
around it, and it is enough to try the two points of each grid on either side. The finest grid
holds the exact value, so the search cannot fail.
-/

namespace PocketCalc.Decimal

/-- The decimal at `count` steps of the grid of exponent `grid` above the finest one. -/
def onGrid (count grid : Nat) : Decimal := ⟨count, (grid : Int) - 1074⟩

/-- Whether a grid point rounds to the magnitude `bits`. -/
def roundsTo (bits count grid : Nat) : Bool := (onGrid count grid).nearest == bits

/-- The point of a grid that stands for the magnitude `bits` of exact value `value`, in units
of 10⁻¹⁰⁷⁴: the lower neighbour, or the upper one where only that rounds to the magnitude or
where it is at least as near. A tie goes up. -/
def neighbour? (bits value grid : Nat) : Option Nat :=
  let step := Nat.pow 10 grid
  let below := value / step
  let upperIsNear := step ≤ 2 * (value % step)
  if roundsTo bits below grid then
    if upperIsNear ∧ roundsTo bits (below + 1) grid then some (below + 1) else some below
  else
    if roundsTo bits (below + 1) grid then some (below + 1) else none

/-- The coarsest grid point from `grid` downwards; on the finest grid the exact value. -/
def coarsest (bits value : Nat) : Nat → Decimal
  | 0 => onGrid value 0
  | grid + 1 =>
    match neighbour? bits value (grid + 1) with
    | some count => onGrid count (grid + 1)
    | none => coarsest bits value grid

/-- The exact value of finite magnitude bits, in units of 10⁻¹⁰⁷⁴. -/
def exactValue (bits : Nat) : Nat := Binary64.units bits * Nat.pow 5 1074

/-- The shortest decimal that rounds to the finite, non-zero magnitude `bits`. The search
starts at the first power of ten above the exact value. -/
def shortest (bits : Nat) : Decimal :=
  let value := exactValue bits
  coarsest bits value (Nat.toDigits 10 value).length

end PocketCalc.Decimal
