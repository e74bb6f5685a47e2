import PocketCalc.Console.Session
import PocketCalc.Text.Backspace

/-!
# Sessions on piped input

The input is a sequence of bytes, and the session reads it line by line. `rawLines` cuts the
bytes after each line feed and loses none of them. `input` takes a raw line, drops the line
feed with the carriage return before it, and decodes the rest as UTF-8. A rest without a line
feed is a line as well, and there a carriage return is part of the line. Backspaces in a line are
carried out before it is handed over, which can break it.

A prompt is shown only where the environment leaves that to the session. Then it is shown before
each line that is asked for, also before the one that does not come.
-/

namespace PocketCalc

/-- What a run finds around it. -/
structure Environment where
  /-- The output can show colours, or is made to. -/
  showsColour : Bool
  /-- Nobody but the session shows the prompt. -/
  showsPrompt : Bool
  deriving Repr, DecidableEq

namespace Piped

/-! ## From bytes to inputs -/

def lineFeed : UInt8 := 10

def carriageReturn : UInt8 := 13

/-- The raw lines of bytes, each with its line feed but for the last one, which may have none. -/
def rawLines : List UInt8 → List (List UInt8)
  | [] => []
  | byte :: rest =>
    if byte = lineFeed then [byte] :: rawLines rest
    else
      match rawLines rest with
      | [] => [[byte]]
      | line :: lines => (byte :: line) :: lines

/-- Raw lines make up the bytes they are cut from. -/
@[simp] theorem flatten_rawLines (bytes : List UInt8) : (rawLines bytes).flatten = bytes := by
  induction bytes with
  | nil => rfl
  | cons byte rest ih =>
    rw [rawLines]
    split
    · simp [ih]
    · split
      · rename_i hRest
        rw [hRest] at ih
        simp [← ih]
      · rename_i line lines hRest
        rw [hRest] at ih
        simpa using ih

/-- A sequence of bytes less the given last byte, if that is its last. -/
def dropFinal (byte : UInt8) (bytes : List UInt8) : List UInt8 :=
  if bytes.getLast? = some byte then bytes.dropLast else bytes

/-- A raw line less its line feed and the carriage return before that. -/
def dropLineEnd (raw : List UInt8) : List UInt8 :=
  if raw.getLast? = some lineFeed then dropFinal carriageReturn raw.dropLast else raw

/-- The text that bytes encode in UTF-8, if they do. -/
def decode? (bytes : List UInt8) : Option Text :=
  (String.fromUTF8? bytes.toByteArray).map String.toList

/-- The input that a raw line is. -/
def input (raw : List UInt8) : Input :=
  match decode? (dropLineEnd raw) with
  | none => .unreadable
  | some text =>
    match Text.applyBackspaces? text with
    | none => .broken
    | some edited => .line edited

/-- The inputs that bytes hold. -/
def inputs (bytes : List UInt8) : List Input := (rawLines bytes).map input

/-! ## From inputs to the output -/

/-- What is shown when a line is asked for. -/
def prompt (environment : Environment) (options : Options) : Text :=
  if environment.showsPrompt then
    Colour.paintIf (options.inColour environment.showsColour) Colour.prompt options.prompt
  else []

/-- The output of a run on bytes, and its exit code. -/
def run (environment : Environment) (arguments : List Text) (bytes : List UInt8) : Text × Nat :=
  match Options.ofArguments arguments with
  | .error reason => (reason.output environment.showsColour, reason.exitCode)
  | .ok options =>
    let session := Session.transcript options environment.showsColour (inputs bytes)
    (session.start ++ session.steps.flatMap (prompt environment options ++ ·), session.exitCode)

end Piped
end PocketCalc
