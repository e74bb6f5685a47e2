import PocketCalc.Text.Words

/-!
# Input lines

`Line.ofText` brings a line into the form in which it is processed. The line is put in upper
case, cut to its first 80 scalars, taken apart into words, and of the words the first three are
kept. Whatever was lost on the way, past the 80th scalar or past the third word, the line says
so, and `Line.text` is then what is left of it.
-/

namespace PocketCalc

/-- The words to be processed, and whether anything of the line was cut off. -/
structure Line where
  words : List Text
  isCut : Bool
  deriving Repr, DecidableEq

namespace Line

/-- How many scalars of a line are kept, counted in upper case. -/
def maxLength : Nat := 80

/-- How many words of a line are kept. -/
def maxWords : Nat := 3

/-- The line that a text is read as. -/
def ofText (text : Text) : Line :=
  let capitals := Text.upper text
  let found := Text.words (capitals.take maxLength)
  { words := found.take maxWords
    isCut := maxLength < capitals.length || maxWords < found.length }

/-- The words with single spaces between them. -/
def text (line : Line) : Text := Text.joinWords line.words

/-- The text that is left of a line of which something was cut off. -/
def truncation (line : Line) : Option Text := if line.isCut then some line.text else none

/-- No more than three words are kept. -/
theorem length_words_ofText_le (text : Text) : (ofText text).words.length ≤ maxWords := by
  simp only [ofText, List.length_take]
  omega

end Line
end PocketCalc
