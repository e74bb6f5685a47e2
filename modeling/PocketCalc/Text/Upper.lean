import PocketCalc.Text.CaseTable

/-!
# Upper-casing

Texts are lists of Unicode scalar values: that is the unit in which a line is measured, cut
and classified. `Text.upper` maps each scalar by the full upper-case mapping, on its own and
without regard to its neighbours, so that a text's upper case is the concatenation of the upper
cases of its scalars, whatever the text is cut into.

ASCII letters go through `Char.toUpper`; all other scalars go through the table of
`PocketCalc.Text.CaseTable`. A scalar that stands in neither is its own upper case.
-/

namespace PocketCalc

/-- A text, scalar by scalar. -/
abbrev Text := List Char

namespace Text

/-- The upper case of a scalar outside ASCII, as codes. -/
def upperCodes (code : Nat) : List Nat :=
  match caseExpansions.lookup code with
  | some codes => codes
  | none => [(caseRuns.findSome? (CaseRun.capital? · code)).getD code]

/-- The upper case of one scalar: one scalar in nearly all cases, at most three. -/
def upperChar (c : Char) : Text :=
  if c.toNat < 0x80 then [c.toUpper] else (upperCodes c.toNat).map Char.ofNat

/-- The upper case of a text. -/
def upper (text : Text) : Text := text.flatMap upperChar

@[simp] theorem upper_cons (c : Char) (text : Text) :
    upper (c :: text) = upperChar c ++ upper text := List.flatMap_cons

@[simp] theorem upper_append (left right : Text) :
    upper (left ++ right) = upper left ++ upper right := List.flatMap_append

/-- On ASCII the mapping is core's. -/
theorem upperChar_ascii {c : Char} (h : c.toNat < 0x80) : upperChar c = [c.toUpper] :=
  if_pos h

end Text
end PocketCalc
