import PocketCalc.Number.Layout
import PocketCalc.Registers

/-!
# Messages

Every text that the calculator shows: the greeting, the answer to a command by its status, and
the warning about a line that was cut.
-/

namespace PocketCalc.Message

def greeting : String :=
  "Hello!\n" ++
  "This is a console calculator.\n" ++
  "Type help to see the list of commands.\n" ++
  "Type exit to quit."

def help : String :=
  "Commands come in three shapes.\n" ++
  "\n" ++
  "1. Three tokens: \"operand1 operator operand2\"\n" ++
  "   Operators: '+', '-', '*', '/', '^'.\n" ++
  "   Operands are real numbers or MR (the value held in memory).\n" ++
  "\n" ++
  "2. Two tokens: \"operator operand2\"\n" ++
  "   Same as the three token form, with the previous result as operand1.\n" ++
  "\n" ++
  "3. One token: \"command\"\n" ++
  "   M+   add the last result to memory\n" ++
  "   M-   subtract the last result from memory\n" ++
  "   MR   recall memory into the result\n" ++
  "   MC   clear memory\n" ++
  "   help show this text\n" ++
  "   exit quit the calculator\n" ++
  "\n" ++
  "Input is case-insensitive. Lines are cut to 80 characters and 3 tokens."

def invalidInput : String :=
  "Sorry, that command was not understood.\n" ++
  "Please follow the command format. Type help to see it."

def divisionByZero : String :=
  "The second operand is zero.\n" ++
  "Division by zero is not allowed, try another divisor."

/-- The warning about a line of which only `kept` is left. -/
def truncation (kept : Text) : Text :=
  "Input was too long and has been cut to: ".toList ++ kept

/-- The answer to a command, from its status and the registers after it. The end of the
session has none. -/
def render (status : Status) (registers : Registers) : Option Text :=
  match status with
  | .ok => some ("Result: ".toList ++ Layout.plain.write registers.result)
  | .memory => some ("Memory: ".toList ++ Layout.plain.write registers.memory)
  | .help => some help.toList
  | .invalidInput => some invalidInput.toList
  | .divisionByZero => some divisionByZero.toList
  | .exit => none

/-- Only the end of the session is silent. -/
theorem render_eq_none_iff {status : Status} {registers : Registers} :
    render status registers = none ↔ status = .exit := by
  cases status <;> simp [render]

end PocketCalc.Message
