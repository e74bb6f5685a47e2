import PocketCalc.Console.Piped

/-!
# The program

Reads the command line and the environment, and runs a session on the standard input. Lines are
read, and reacted to, one at a time. What is printed is decided in `PocketCalc.Console`.
-/

namespace PocketCalc

/-- Prints a text at once. -/
def print (output : IO.FS.Stream) (text : Text) : IO Unit := do
  output.putStr (String.ofList text)
  output.flush

/-- Reads the bytes up to the next line feed or the end. -/
partial def readRawLine (input : IO.FS.Stream) (read : Array UInt8) : IO (Array UInt8) := do
  let bytes ← input.read 1
  match bytes.data[0]? with
  | none => return read
  | some byte =>
    if byte = Piped.lineFeed then return read.push byte
    else readRawLine input (read.push byte)

/-- Reads the next input. -/
def readInput (input : IO.FS.Stream) : IO Input := do
  let raw ← readRawLine input #[]
  return if raw.isEmpty then .endOfInput else Piped.input raw.toList

/-- Runs a session to its end. -/
partial def converse (input output : IO.FS.Stream) (inColour : Bool) (prompt : Text)
    (calculator : Calculator) : IO Nat := do
  print output prompt
  match Session.react inColour calculator (← readInput input) with
  | .resume text after =>
    print output text
    converse input output inColour prompt after
  | .stop text exitCode =>
    print output text
    return exitCode

/-- What the program finds around it. A prompt is shown to a terminal and to a dumb one alike,
since there is no line editor here that would show it. -/
def findEnvironment (input output : IO.FS.Stream) : IO Environment := do
  let isForced := (← IO.getEnv "CLICOLOR_FORCE") == some "1"
  let isDumb := (← IO.getEnv "TERM") == some "dumb"
  return {
    showsColour := isForced || (← output.isTty)
    showsPrompt := isDumb || (← input.isTty) }

/-- Runs the program on its arguments and returns the exit code. -/
def runProgram (arguments : List Text) : IO Nat := do
  let input ← IO.getStdin
  let output ← IO.getStdout
  let environment ← findEnvironment input output
  match Options.ofArguments arguments with
  | .error reason =>
    print output (reason.output environment.showsColour)
    return reason.exitCode
  | .ok options =>
    let inColour := options.inColour environment.showsColour
    print output (Session.greeting inColour options.quiet)
    converse input output inColour (Piped.prompt environment options) Calculator.initial

end PocketCalc

def main (arguments : List String) : IO UInt32 :=
  return (← PocketCalc.runProgram (arguments.map String.toList)).toUInt32
