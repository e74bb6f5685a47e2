import PocketCalc.Calculator
import PocketCalc.Console.Colour
import PocketCalc.Console.Help

/-!
# Sessions

A session greets, then asks for inputs and reacts to them one at a time. A line is entered into
the calculator and answered; a line that was given up has no effect; the end of the inputs, a
line that cannot be read, a line that broke and a line that asks for the exit end the session,
each in its own way.

`Session.react` is one such step, and `Session.run` is the session that a list of inputs leads
to. The outputs are kept apart, one for each input that was asked for, so that a prompt can be
put before each of them.
-/

namespace PocketCalc

/-- What a session gets when it asks for a line. -/
inductive Input where
  | line (text : Text)
  /-- The line was given up. -/
  | interrupted
  /-- What came is no text. -/
  | unreadable
  /-- A text came, but its backspaces broke it. -/
  | broken
  | endOfInput
  deriving Repr, DecidableEq

/-- What a session does on an input: it prints, and it goes on with a calculator or ends with
an exit code. -/
inductive Reaction where
  | resume (output : Text) (calculator : Calculator)
  | stop (output : Text) (exitCode : Nat)
  deriving DecidableEq

/-- What a program run prints before it asks for an input and on each input that it asks for,
and its exit code. -/
structure Transcript where
  start : Text
  steps : List Text
  exitCode : Nat
  deriving Repr, DecidableEq

/-- The transcript of arguments that start no session. -/
def Transcript.ofHalt (showsColour : Bool) (reason : Halt) : Transcript where
  start := reason.output showsColour
  steps := []
  exitCode := reason.exitCode

/-- Whether a session is in colour: where colours are shown, unless the options forbid it. -/
def Options.inColour (options : Options) (showsColour : Bool) : Bool :=
  showsColour && !options.noColor

namespace Session

/-! ## What is printed -/

/-- What is printed at the end of the inputs. -/
def farewell : Text := "exit\n".toList

/-- The greeting, unless it is unwanted. -/
def greeting (inColour quiet : Bool) : Text :=
  if quiet then []
  else Colour.paintIf inColour Colour.greeting Message.greeting.toList ++ ['\n']

/-- The warning about a line that was cut. -/
def warning (inColour : Bool) (outcome : Outcome) : Text :=
  match outcome.truncation with
  | none => []
  | some kept =>
    Colour.paintIf inColour Colour.warning (Message.truncation kept) ++ ['\n']

/-- The answer to a line. -/
def answer (inColour : Bool) (outcome : Outcome) : Text :=
  match outcome.output with
  | none => []
  | some output =>
    match Colour.answer? outcome.status with
    | none => output ++ ['\n']
    | some colour => Colour.paintIf inColour colour output ++ ['\n']

/-! ## From inputs to outputs -/

/-- The reaction to an input. -/
def react (inColour : Bool) (calculator : Calculator) : Input → Reaction
  | .line text =>
    let (after, outcome) := calculator.enter text
    let output := warning inColour outcome ++ answer inColour outcome
    if outcome.status = .exit then .stop output 0 else .resume output after
  | .interrupted => .resume [] calculator
  | .unreadable => .stop [] 1
  | .broken => .stop [] 101
  | .endOfInput => .stop farewell 0

/-- The outputs that inputs lead to, and the exit code. The inputs end with the list. -/
def run (inColour : Bool) (calculator : Calculator) : List Input → List Text × Nat
  | [] => ([farewell], 0)
  | input :: rest =>
    match react inColour calculator input with
    | .stop output exitCode => ([output], exitCode)
    | .resume output after =>
      let (outputs, exitCode) := run inColour after rest
      (output :: outputs, exitCode)

/-- The session that options and inputs lead to, from the greeting to the exit code. -/
def transcript (options : Options) (showsColour : Bool) (inputs : List Input) :
    Transcript :=
  let inColour := options.inColour showsColour
  let (steps, exitCode) := run inColour Calculator.initial inputs
  { start := greeting inColour options.quiet, steps, exitCode }

end Session
end PocketCalc
