import PocketCalc.Token

/-!
# Commands

Tokens form a command in three shapes: a standalone operator by itself; an operator that joins
two operands and its right operand, with the previous result on the left; or the same with both
operands. `Command.ofTokens?` resolves them, and is exact on all tokens, also on those whose text
and value contradict each other: an operand is a token with a value whatever its text is, and a
token with a value is no operator, except that the recall of the memory stays one by itself.
-/

namespace PocketCalc

/-- What the tokens ask for. -/
inductive Command where
  /-- An operator that takes no operands. -/
  | standalone (operator : Operator)
  /-- An operator between two operands. -/
  | binary (left right : Float) (operator : Operator)

namespace Token

/-- The standalone operator that a token is by itself. -/
def standalone? (token : Token) : Option Operator :=
  match Operator.ofSymbol? token.text with
  | some operator =>
    if operator.isStandalone ∧ (token.value = none ∨ operator = .memoryRecall) then some operator
    else none
  | none => none

/-- The operator that a token is between two operands. -/
def connective? (token : Token) : Option Operator :=
  match Operator.ofSymbol? token.text with
  | some operator => if !operator.isStandalone ∧ token.value = none then some operator else none
  | none => none

end Token

namespace Command

/-- The command of an operator token between two operands, either of which may be missing. -/
def ofOperands (left : Option Float) (operator : Token) (right : Option Float) :
    Option Command :=
  match left, operator.connective?, right with
  | some left, some operator, some right => some (.binary left right operator)
  | _, _, _ => none

/-- The command that tokens form after the result `previous`. -/
def ofTokens? (previous : Float) : List Token → Option Command
  | [only] => only.standalone?.map .standalone
  | [operator, right] => ofOperands (some previous) operator right.value
  | [left, operator, right] => ofOperands left.value operator right.value
  | _ => none

/-- The command that words form, given the memory and the previous result. -/
def ofWords (memory previous : Float) (words : List Text) : Except Rejection Command :=
  match Token.ofWords memory words with
  | .error rejection => .error rejection
  | .ok tokens =>
    match ofTokens? previous tokens with
    | some command => .ok command
    | none => .error .noCommand

end Command
end PocketCalc
