import PocketCalc.Registers
import PocketCalc.Text.Upper

/-!
# Colour

A painted text stands between the escape sequence that selects a colour and the one that ends
all colours. A text that ends colours itself is painted on after each such place, so that all of
it has the colour. An empty text is painted too: the two sequences then touch.

What is coloured how is fixed by `Colour.greeting` and its neighbours. The help has no colour.
-/

namespace PocketCalc

inductive Colour where
  | red
  | green
  | yellow
  | blue
  deriving Repr, DecidableEq

namespace Colour

/-- The escape sequence that ends all colours. -/
def ending : Text := "\x1b[0m".toList

/-- The escape sequence that selects a colour. -/
def opening : Colour → Text
  | red => "\x1b[31m".toList
  | green => "\x1b[32m".toList
  | yellow => "\x1b[33m".toList
  | blue => "\x1b[34m".toList

/-- A text in which every end of colours is followed by an opening. -/
def reopened (opening : Text) : Text → Text
  | '\x1b' :: '[' :: '0' :: 'm' :: rest => ending ++ opening ++ reopened opening rest
  | c :: rest => c :: reopened opening rest
  | [] => []

/-- A text in a colour. -/
def paint (colour : Colour) (text : Text) : Text :=
  colour.opening ++ reopened colour.opening text ++ ending

/-- A text in a colour, if colours are in use. -/
def paintIf (inUse : Bool) (colour : Colour) (text : Text) : Text :=
  if inUse then colour.paint text else text

@[simp] theorem paintIf_false (colour : Colour) (text : Text) :
    paintIf false colour text = text := rfl

/-! ## What has which colour -/

def greeting : Colour := blue

def prompt : Colour := blue

def warning : Colour := yellow

/-- The colour of an answer, by its status. -/
def answer? : Status → Option Colour
  | .ok | .memory => some green
  | .invalidInput | .divisionByZero => some red
  | .help | .exit => none

end Colour
end PocketCalc
