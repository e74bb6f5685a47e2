import PocketCalc.Calculator
import PocketCalc.Text.Quoted

/-!
# The log

What a calculator records while it serves a request, as typed records in order. The records are
a function of the state before the request and of the request. Serving one does not depend on
whether its records are asked for.

A record belongs to a stage: the reading of the line, the resolving of the command, or its
execution. Its message is a line of text in which words are quoted and numbers are laid out so
that whole numbers and very small and large ones can be told apart.
-/

namespace PocketCalc

/-- How much a record matters. -/
inductive Level where
  | warn
  | debug
  | trace
  deriving Repr, DecidableEq

/-- The stage that a record comes from. -/
inductive Stage where
  | reading
  | resolving
  | executing
  deriving Repr, DecidableEq

/-- What is worth recording. -/
inductive Record where
  /-- The line was cut, and this is left. -/
  | truncated (kept : Text)
  /-- The words of the line. -/
  | split (words : List Text)
  /-- A known word, and whether it is a number by itself. -/
  | known (word : Text) (isNumber : Bool)
  /-- A word that is neither a number nor a symbol. -/
  | unknown (word : Text)
  /-- The command that the words form. -/
  | resolved (command : Command)
  /-- An operator that could not be executed, since no operation is wired to it. -/
  | unwired (operator : Operator)
  /-- An execution, its status and the registers after it. -/
  | executed (operator : Operator) (status : Status) (registers : Registers)

def Level.name : Level → String
  | .warn => "WARN"
  | .debug => "DEBUG"
  | .trace => "TRACE"

def Stage.name : Stage → String
  | .reading => "lex"
  | .resolving => "parse"
  | .executing => "exec"

namespace Record

def level : Record → Level
  | .unwired .. => .warn
  | .known .. => .trace
  | .truncated .. | .split .. | .unknown .. | .resolved .. | .executed .. => .debug

def stage : Record → Stage
  | .truncated .. | .split .. | .known .. | .unknown .. => .reading
  | .resolved .. => .resolving
  | .unwired .. | .executed .. => .executing

/-- A value in a record. -/
def number (x : Float) : Text := Layout.record.write x

/-- A command in a record. -/
def commandText : Command → Text
  | .standalone operator => "Standalone(".toList ++ operator.name.toList ++ ")".toList
  | .binary left right operator =>
    "Binary \x7b operand1: ".toList ++ number left ++
      ", operand2: ".toList ++ number right ++
      ", operator: ".toList ++ operator.name.toList ++ " \x7d".toList

/-- The registers in a record. -/
def registersText (registers : Registers) : Text :=
  "Registers \x7b memory: ".toList ++ number registers.memory ++
    ", result: ".toList ++ number registers.result ++ " \x7d".toList

/-- The message of a record. -/
def message : Record → Text
  | .truncated kept => "input truncated to ".toList ++ Text.quoted kept
  | .split words => "tokens: ".toList ++ Text.quotedList words
  | .known word isNumber =>
    Text.quoted word ++ " numeric=".toList ++ (if isNumber then "true" else "false").toList
  | .unknown word => "unrecognized token ".toList ++ Text.quoted word
  | .resolved command => "resolved ".toList ++ commandText command
  | .unwired operator => "no operation wired for ".toList ++ operator.name.toList
  | .executed operator status registers =>
    operator.name.toList ++ " -> ".toList ++ status.name.toList ++ ' ' :: registersText registers

end Record

namespace Calculator

/-- The records of the classification of words, up to the first unknown one. -/
def wordRecords : List Text → List Record
  | [] => []
  | word :: rest =>
    if Token.isKnown word then .known word (Token.isNumber word) :: wordRecords rest
    else [.unknown word]

/-- The records of loading words. -/
def loadRecords (calculator : Calculator) (words : List Text) : List Record :=
  wordRecords words ++
    match calculator.command words with
    | .error _ => []
    | .ok command => [.resolved command]

/-- The records of executing what is loaded. -/
def executeRecords (calculator : Calculator) : List Record :=
  match calculator.operator.operation? with
  | none => [.unwired calculator.operator]
  | some operation =>
    let (registers, status) := operation calculator.registers calculator.left calculator.right
    [.executed calculator.operator status registers]

/-- The records of a line on its way to words. -/
def lineRecords (line : Line) : List Record :=
  (if line.isCut then [.truncated line.text] else []) ++ [.split line.words]

/-- The records of processing a line. -/
def enterRecords (calculator : Calculator) (text : Text) : List Record :=
  let line := Line.ofText text
  lineRecords line ++ calculator.loadRecords line.words ++
    match calculator.load line.words with
    | .error _ => []
    | .ok loaded => loaded.executeRecords

/-- The records of serving a request. -/
def records (calculator : Calculator) : Request → List Record
  | .line text => calculator.enterRecords text
  | .load words => calculator.loadRecords words
  | .execute => calculator.executeRecords

/-- The records of serving requests one after the other, apart for each. -/
def serveRecords (calculator : Calculator) : List Request → List (List Record)
  | [] => []
  | request :: rest => calculator.records request :: (calculator.step request).1.serveRecords rest

end Calculator
end PocketCalc
