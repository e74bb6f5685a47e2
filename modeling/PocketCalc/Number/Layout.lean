import PocketCalc.Number.Shortest
import PocketCalc.Text.Upper

/-!
# The text of a number

A value is written with the digits of its shortest decimal. Two layouts differ in what is put
around the digits: `Layout.plain` for results and registers on the screen, `Layout.record` for
the log. Both write zero as `0` with its sign, infinities as `inf` and `-inf`, and NaN as `NaN`.
-/

namespace PocketCalc

/-- How the digits of a number are laid out. -/
structure Layout where
  /-- What a positional number without a fraction ends in. -/
  wholeTail : Text
  /-- The least and the greatest place of the point, counted from before the first digit, at
  which a number is written positionally; elsewhere it has an exponent. With `none` every
  number is positional. -/
  positional : Option (Int × Int)

namespace Layout

/-- The layout of the screen: always positional, and whole numbers without a point. -/
def plain : Layout where
  wholeTail := []
  positional := none

/-- The layout of the log: whole numbers end in `.0`, and a number below 10⁻⁴ or from 10¹⁶ on
has an exponent. -/
def record : Layout where
  wholeTail := ".0".toList
  positional := some (-3, 16)

/-- A whole number, signed if negative. -/
def integer (n : Int) : Text :=
  if n < 0 then '-' :: Nat.toDigits 10 n.natAbs else Nat.toDigits 10 n.natAbs

/-- Digits with the point after `point` of them. Zeros fill the gap between digits and point on
either side, and a number below one has a zero before the point. -/
def positionalText (layout : Layout) (digits : Text) (point : Int) : Text :=
  if point ≤ 0 then
    "0.".toList ++ List.replicate point.natAbs '0' ++ digits
  else if digits.length ≤ point.natAbs then
    digits ++ List.replicate (point.natAbs - digits.length) '0' ++ layout.wholeTail
  else
    digits.take point.natAbs ++ '.' :: digits.drop point.natAbs

/-- Digits with the point after the first of them, if there are more, and an exponent. -/
def exponentText (digits : Text) (point : Int) : Text :=
  let fraction := digits.drop 1
  digits.take 1 ++ (if fraction.isEmpty then [] else '.' :: fraction) ++
    'e' :: integer (point - 1)

/-- Whether a number whose point is at `point` is written positionally. -/
def isPositional (layout : Layout) (point : Int) : Bool :=
  match layout.positional with
  | none => true
  | some (least, greatest) => least ≤ point && point ≤ greatest

/-- A decimal other than zero. -/
def decimalText (layout : Layout) (decimal : Decimal) : Text :=
  let digits := Nat.toDigits 10 decimal.coefficient
  let point := digits.length + decimal.exponent
  if layout.isPositional point then layout.positionalText digits point
  else exponentText digits point

/-- A magnitude that is not NaN. -/
def magnitudeText (layout : Layout) (bits : Nat) : Text :=
  if bits = 0 then '0' :: layout.wholeTail
  else if bits < Binary64.infinity then layout.decimalText (Decimal.shortest bits)
  else "inf".toList

/-- The text of a value. -/
def write (layout : Layout) (x : Float) : Text :=
  let bits := Binary64.magnitude x
  if Binary64.infinity < bits then "NaN".toList
  else if Binary64.isNegative x then '-' :: layout.magnitudeText bits
  else layout.magnitudeText bits

/-- Zero is a digit and what every whole number ends in. -/
theorem write_zero (layout : Layout) : layout.write 0 = '0' :: layout.wholeTail := by
  have hMagnitude : Binary64.magnitude 0 = 0 := by decide
  have hSign : Binary64.isNegative 0 = false := by decide
  simp [write, magnitudeText, hMagnitude, hSign]

end Layout
end PocketCalc
