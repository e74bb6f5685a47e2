import PocketCalc.Text.Upper

/-!
# Blanks and words

A blank is a scalar with the Unicode property White_Space: 25 scalars, among them the line and
paragraph separators, and among them neither the zero-width space nor the separators `0x1C` to
`0x1F` of ASCII. The words of a text are its maximal runs of other scalars, and `joinWords`
puts single spaces between words.
-/

namespace PocketCalc.Text

/-- The property White_Space, as ranges of codes with both ends included. -/
def blankRanges : List (Nat × Nat) :=
  [ (0x09, 0x0D), (0x20, 0x20), (0x85, 0x85), (0xA0, 0xA0), (0x1680, 0x1680),
    (0x2000, 0x200A), (0x2028, 0x2029), (0x202F, 0x202F), (0x205F, 0x205F), (0x3000, 0x3000) ]

/-- Whether a scalar is white space. -/
def isBlank (c : Char) : Bool :=
  blankRanges.any fun range => range.1 ≤ c.toNat && c.toNat ≤ range.2

/-- Whether a text holds nothing but blanks. -/
def isAllBlank (text : Text) : Bool := text.all isBlank

/-- The words of a text, in order: the pieces between blanks, less the empty ones that stand
between neighbouring blanks and at the ends. -/
def words (text : Text) : List Text :=
  (text.splitOnP isBlank).filter fun piece => !piece.isEmpty

/-- Words with a single space between each two. -/
def joinWords (words : List Text) : Text := [' '].intercalate words

@[simp] theorem joinWords_singleton (word : Text) : joinWords [word] = word := by
  simp [joinWords]

/-- No word is empty. -/
theorem ne_nil_of_mem_words {text word : Text} (h : word ∈ words text) : word ≠ [] := by
  have := (List.mem_filter.mp h).2
  simpa using this

end PocketCalc.Text
