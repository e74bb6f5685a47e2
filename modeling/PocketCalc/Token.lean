import PocketCalc.Number.Numeral
import PocketCalc.Operator

/-!
# Tokens

A token is a word together with the value that it stands for, if it stands for one. A numeral
has its own value, the symbol of the memory recall has the value of the memory, and every other
symbol has none. A word that is neither numeral nor symbol rejects all the words it came with.
-/

namespace PocketCalc

/-- A word and its value. -/
structure Token where
  text : Text
  value : Option Float

/-- Why words are no command. -/
inductive Rejection where
  /-- The word is neither a number nor a symbol. -/
  | unknownWord (word : Text)
  /-- The words are known, but they do not form a command. -/
  | noCommand
  deriving Repr, DecidableEq

namespace Token

/-- Whether a word is a number by itself. -/
def isNumber (word : Text) : Bool := (Numeral.read? word).isSome

/-- Whether a word is a number or a symbol. -/
def isKnown (word : Text) : Bool := isNumber word || (Operator.ofSymbol? word).isSome

/-- The value of a word, given the value of the memory. -/
def wordValue (memory : Float) (word : Text) : Option Float :=
  if Operator.ofSymbol? word = some .memoryRecall then some memory else Numeral.read? word

/-- The token of a word. -/
def ofWord (memory : Float) (word : Text) : Except Rejection Token :=
  if isKnown word then .ok { text := word, value := wordValue memory word }
  else .error (.unknownWord word)

/-- The tokens of words, in order. The first unknown word rejects them all. -/
def ofWords (memory : Float) : List Text → Except Rejection (List Token)
  | [] => .ok []
  | word :: rest =>
    match ofWord memory word with
    | .error rejection => .error rejection
    | .ok token =>
      match ofWords memory rest with
      | .error rejection => .error rejection
      | .ok tokens => .ok (token :: tokens)

end Token
end PocketCalc
