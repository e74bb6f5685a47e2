import PocketCalc.Number.Decimal
import PocketCalc.Text.Upper

/-!
# Numerals

The written form of a number: an optional sign, ASCII digits with an optional point and at
least one digit on some side of it, and optionally `e` or `E` with an exponent, which has an
optional sign and at least one digit. Nothing else may stand before, between or after.

`Numeral.scan?` takes a text apart by that grammar, `Numeral.decimal` says what it is worth
without its sign, and `Numeral.read?` yields the nearest binary value, if that value is finite.
The sign is kept on zero, also where a numeral other than zero rounds to it.

Digits of an exponent count only until they make 65536 or more. By then the numeral is zero or
out of range, unless the digits around its point are as many as that.
-/

namespace PocketCalc

/-- The parts of a numeral. -/
structure Numeral where
  negative : Bool
  /-- The digits before the point. -/
  whole : Text
  /-- The digits after the point. -/
  fraction : Text
  /-- The exponent, zero if none is written. -/
  exponent : Int
  deriving Repr, DecidableEq

namespace Numeral

/-- Whether a text is one or more digits. -/
def isDigits (text : Text) : Bool := !text.isEmpty && text.all Char.isDigit

/-- The number that digits write in base ten. -/
def digitsValue (digits : Text) : Nat :=
  digits.foldl (fun value digit => 10 * value + (digit.toNat - '0'.toNat)) 0

/-- The value from which an exponent grows no further. -/
def exponentLimit : Nat := 65536

/-- The magnitude that digits write as an exponent. -/
def exponentValue (digits : Text) : Nat :=
  digits.foldl
    (fun value digit =>
      if value < exponentLimit then 10 * value + (digit.toNat - '0'.toNat) else value) 0

/-- A leading sign, as whether it is a minus, and the text after it. -/
def scanSign : Text → Bool × Text
  | '-' :: rest => (true, rest)
  | '+' :: rest => (false, rest)
  | text => (false, text)

/-- What may follow the digits: nothing, or an exponent up to the end. -/
def scanExponent? : Text → Option Int
  | [] => some 0
  | mark :: rest =>
    let (negative, digits) := scanSign rest
    if (mark = 'e' ∨ mark = 'E') ∧ isDigits digits then
      some (if negative then -(exponentValue digits : Int) else exponentValue digits)
    else
      none

/-- The digits after a point, if there is one, and the text after them. -/
def scanFraction : Text → Text × Text
  | '.' :: rest => (rest.takeWhile Char.isDigit, rest.dropWhile Char.isDigit)
  | text => ([], text)

/-- The parts of a text that is a numeral. -/
def scan? (text : Text) : Option Numeral :=
  let (negative, unsigned) := scanSign text
  let whole := unsigned.takeWhile Char.isDigit
  let (fraction, rest) := scanFraction (unsigned.dropWhile Char.isDigit)
  if whole.isEmpty && fraction.isEmpty then none
  else (scanExponent? rest).map fun exponent => { negative, whole, fraction, exponent }

/-- The magnitude that a numeral writes, exactly: its digits as one whole number, whose last
digit the point has moved down by the length of the fraction. -/
def decimal (numeral : Numeral) : Decimal where
  coefficient := digitsValue (numeral.whole ++ numeral.fraction)
  exponent := numeral.exponent - numeral.fraction.length

/-- The binary value nearest to a numeral, if it is finite. -/
def toFloat? (numeral : Numeral) : Option Float :=
  let bits := numeral.decimal.nearest
  if bits < Binary64.infinity then some (Binary64.ofMagnitude numeral.negative bits) else none

/-- The value of a text that is a numeral and not too large. -/
def read? (text : Text) : Option Float := (scan? text).bind toFloat?

end Numeral
end PocketCalc
