import PocketCalc.Text.Upper

/-!
# Command line arguments

An argument by itself, before anything is known of the options that a program has. There are
four shapes: the mark `--` that ends the options, a named option `--name` with or without a
value after an equals sign, a cluster of letters `-abc`, and an operand, which is anything else,
the lone hyphen and the empty text included.

The shapes keep all of the text, so that `toText` gives every argument back.
-/

namespace PocketCalc

/-- An argument by its shape. -/
inductive Argument where
  /-- The mark `--`. -/
  | endOfOptions
  /-- An option by its name. The value is what follows the first equals sign, if there is one. -/
  | named (name : Text) (value : Option Text)
  /-- Options by their letters, of which there is at least one. -/
  | letters (first : Char) (others : Text)
  /-- Not an option. -/
  | operand (text : Text)
  deriving Repr, DecidableEq

namespace Argument

/-- The value in the part of a named option that starts at the equals sign. -/
def valueOf : Text → Option Text
  | [] => none
  | _ :: value => some value

/-- The shape of an argument. -/
def ofText : Text → Argument
  | ['-', '-'] => .endOfOptions
  | '-' :: '-' :: body => .named (body.takeWhile (· != '=')) (valueOf (body.dropWhile (· != '=')))
  | '-' :: letter :: others => .letters letter others
  | text => .operand text

/-- The text of an argument. -/
def toText : Argument → Text
  | .endOfOptions => ['-', '-']
  | .named name none => '-' :: '-' :: name
  | .named name (some value) => '-' :: '-' :: (name ++ '=' :: value)
  | .letters first others => '-' :: first :: others
  | .operand text => text

/-- A body is its part before the first equals sign and the part from there on. -/
private theorem toText_named (body : Text) :
    toText (.named (body.takeWhile (· != '=')) (valueOf (body.dropWhile (· != '=')))) =
      '-' :: '-' :: body := by
  have parts : body.takeWhile (· != '=') ++ body.dropWhile (· != '=') = body :=
    List.takeWhile_append_dropWhile
  rcases hRest : body.dropWhile (· != '=') with _ | ⟨c, value⟩
  · rw [hRest, List.append_nil] at parts
    simp [valueOf, toText, parts]
  · have hc : c = '=' := by
      have := List.head_dropWhile_not (· != '=') (l := body) (by simp [hRest])
      simpa [hRest] using this
    rw [hRest, hc] at parts
    simp [valueOf, toText, parts]

/-- No part of an argument is lost in its shape. -/
theorem toText_ofText (text : Text) : (ofText text).toText = text := by
  unfold ofText
  split
  · rfl
  · exact toText_named _
  · rfl
  · rfl

end Argument
end PocketCalc
