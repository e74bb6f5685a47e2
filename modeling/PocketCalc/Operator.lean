import PocketCalc.Text.Upper

/-!
# Operators

The eleven operators of the calculator: five that join two operands, and six that are commands
on their own (`isStandalone`). Each has a name for the log, a symbol for the user, and a number,
its place in `Operator.all`. A symbol is found in any mixture of small and capital letters.
-/

namespace PocketCalc

/-- What a command can ask for. -/
inductive Operator where
  | add
  | subtract
  | multiply
  | divide
  | power
  | memoryAdd
  | memorySubtract
  | memoryRecall
  | memoryClear
  | help
  | exit
  deriving Repr, DecidableEq

namespace Operator

/-- Every operator, in the order of their numbers. -/
def all : List Operator :=
  [.add, .subtract, .multiply, .divide, .power, .memoryAdd, .memorySubtract, .memoryRecall,
    .memoryClear, .help, .exit]

/-- The name under which an operator is logged. -/
def name : Operator → String
  | .add => "Add"
  | .subtract => "Subtract"
  | .multiply => "Multiply"
  | .divide => "Divide"
  | .power => "Power"
  | .memoryAdd => "MemoryAdd"
  | .memorySubtract => "MemorySubtract"
  | .memoryRecall => "MemoryRecall"
  | .memoryClear => "MemoryClear"
  | .help => "Help"
  | .exit => "Exit"

/-- The word that a user types for an operator, in capitals. -/
def symbol : Operator → String
  | .add => "+"
  | .subtract => "-"
  | .multiply => "*"
  | .divide => "/"
  | .power => "^"
  | .memoryAdd => "M+"
  | .memorySubtract => "M-"
  | .memoryRecall => "MR"
  | .memoryClear => "MC"
  | .help => "HELP"
  | .exit => "EXIT"

/-- Whether an operator is a command on its own, without operands. The others need two. -/
def isStandalone : Operator → Bool
  | .add | .subtract | .multiply | .divide | .power => false
  | .memoryAdd | .memorySubtract | .memoryRecall | .memoryClear | .help | .exit => true

/-- The number of an operator. -/
def number (operator : Operator) : Nat := all.idxOf operator

/-- The operator of a number. -/
def ofNumber? (number : Nat) : Option Operator := all[number]?

/-- The operator of a name. -/
def ofName? (name : String) : Option Operator := all.find? fun operator => operator.name == name

/-- Two texts are the same but for the case of ASCII letters. -/
def sameLetters (left right : Text) : Bool := left.map Char.toLower == right.map Char.toLower

/-- The operator that a word is the symbol of. -/
def ofSymbol? (word : Text) : Option Operator :=
  all.find? fun operator => sameLetters operator.symbol.toList word

theorem mem_all (operator : Operator) : operator ∈ all := by
  cases operator <;> decide

/-- Numbers are dense from zero and name each operator once. -/
@[simp] theorem ofNumber?_number (operator : Operator) :
    ofNumber? operator.number = some operator := by
  cases operator <;> rfl

/-- Different operators have different symbols. -/
@[simp] theorem ofSymbol?_symbol (operator : Operator) :
    ofSymbol? operator.symbol.toList = some operator := by
  cases operator <;> rfl

end Operator
end PocketCalc
