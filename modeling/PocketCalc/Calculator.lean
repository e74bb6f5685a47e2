import PocketCalc.Command
import PocketCalc.Line
import PocketCalc.Message

/-!
# The calculator

A calculator holds its registers and the operands and operator that were loaded last. Words are
loaded if they form a command; otherwise nothing changes. What is loaded is then executed. To
enter a line is to do both and to answer with a message.

`Calculator.step` takes any request, so that sessions which load and execute separately can be
spoken of as well, and `Calculator.serve` takes many.
-/

namespace PocketCalc

/-- The state of a session. -/
structure Calculator where
  registers : Registers
  left : Float
  right : Float
  operator : Operator
  deriving DecidableEq

/-- How the processing of a line ended. -/
structure Outcome where
  status : Status
  /-- What is left of the line, if something was cut off. -/
  truncation : Option Text
  /-- The answer; none at the end of the session. -/
  output : Option Text
  deriving DecidableEq

/-- What can be asked of a calculator. -/
inductive Request where
  /-- To process a line. -/
  | line (text : Text)
  /-- To load a command from words. -/
  | load (words : List Text)
  /-- To execute what is loaded. -/
  | execute

/-- The answer to a request. -/
inductive Reply where
  | line (outcome : Outcome)
  /-- A command was loaded. -/
  | loaded
  /-- The words were rejected. -/
  | rejected (reason : Rejection)
  | executed (status : Status)

/-- The status that a reply gives. A command that is loaded and not executed has none yet; words
that are rejected are invalid input, for whatever reason they are. -/
def Reply.status? : Reply → Option Status
  | .line outcome => some outcome.status
  | .loaded => none
  | .rejected _ => some .invalidInput
  | .executed status => some status

namespace Calculator

/-- A calculator with the given registers and nothing loaded but the sum of two zeros. -/
def ofRegisters (registers : Registers) : Calculator where
  registers := registers
  left := 0
  right := 0
  operator := .add

/-- The calculator at the start of a session. -/
def initial : Calculator := ofRegisters { memory := 0, result := 0 }

/-- The command that words form at this state of the registers. -/
def command (calculator : Calculator) (words : List Text) : Except Rejection Command :=
  Command.ofWords calculator.registers.memory calculator.registers.result words

/-- Loads a command. A standalone operator leaves the operands as they were. -/
def put (calculator : Calculator) : Command → Calculator
  | .standalone operator => { calculator with operator }
  | .binary left right operator => { calculator with left, right, operator }

/-- Loads the command that words form. -/
def load (calculator : Calculator) (words : List Text) : Except Rejection Calculator :=
  match calculator.command words with
  | .error rejection => .error rejection
  | .ok command => .ok (calculator.put command)

/-- Executes what is loaded. -/
def execute (calculator : Calculator) : Calculator × Status :=
  let (registers, status) :=
    calculator.operator.apply calculator.registers calculator.left calculator.right
  ({ calculator with registers }, status)

/-- Loads words and executes them. Words that are no command change nothing. -/
def process (calculator : Calculator) (words : List Text) : Calculator × Status :=
  match calculator.load words with
  | .error _ => (calculator, .invalidInput)
  | .ok loaded => loaded.execute

/-- Processes a line. -/
def enter (calculator : Calculator) (text : Text) : Calculator × Outcome :=
  let line := Line.ofText text
  let (after, status) := calculator.process line.words
  (after,
    { status
      truncation := line.truncation
      output := Message.render status after.registers })

/-- Serves a request. -/
def step (calculator : Calculator) : Request → Calculator × Reply
  | .line text =>
    let (after, outcome) := calculator.enter text
    (after, .line outcome)
  | .load words =>
    match calculator.load words with
    | .error rejection => (calculator, .rejected rejection)
    | .ok loaded => (loaded, .loaded)
  | .execute =>
    let (after, status) := calculator.execute
    (after, .executed status)

/-- Serves requests one after the other: the state after each, and the reply to it. Nothing ends
the sequence before the requests do. -/
def serve (calculator : Calculator) : List Request → List (Calculator × Reply)
  | [] => []
  | request :: rest =>
    let (after, reply) := calculator.step request
    (after, reply) :: after.serve rest

/-- Every request is served. -/
@[simp] theorem length_serve (calculator : Calculator) (requests : List Request) :
    (calculator.serve requests).length = requests.length := by
  induction requests generalizing calculator with
  | nil => rfl
  | cons request rest ih => simp [serve, ih]

/-- Loading touches no register. -/
@[simp] theorem registers_put (calculator : Calculator) (command : Command) :
    (calculator.put command).registers = calculator.registers := by
  cases command <;> rfl

end Calculator
end PocketCalc
