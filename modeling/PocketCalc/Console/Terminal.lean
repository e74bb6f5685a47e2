import PocketCalc.Console.Session

/-!
# Sessions at a terminal

At a terminal lines are edited before they are sent, and earlier lines can be brought back. Of
the editor only this much is visible here: a line that was typed, a line that was typed and given
up, a line that was brought back, and the end of the input. A control character from U+0080 on
asks the editor for nothing that it knows, so typing it leaves no trace.

The history holds what was sent, newest first, without blank lines and without a line that
equals the one sent before it. It grows before the line is processed, so also by a line that asks
for the exit, and by one that was brought back.
-/

namespace PocketCalc

/-- The lines that can be brought back, newest first. -/
structure History where
  entries : List Text
  deriving Repr, DecidableEq

namespace History

/-- How many lines are kept. -/
def capacity : Nat := 100

/-- Nothing was sent. -/
def empty : History := ⟨[]⟩

/-- The history after a line was sent. -/
def add (history : History) (text : Text) : History :=
  if Text.isAllBlank text ∨ history.entries.head? = some text then history
  else ⟨(text :: history.entries).take capacity⟩

/-- The line that so many steps back lead to: the oldest one if there are fewer lines, and the
empty one if there is none or no step was taken. -/
def back (history : History) (steps : Nat) : Text :=
  (history.entries.take steps).getLast?.getD []

/-- One step back leads to the newest line. -/
theorem back_one (history : History) : history.back 1 = history.entries.head?.getD [] := by
  rcases history with ⟨_ | ⟨text, rest⟩⟩ <;> rfl

end History

/-- What is done at the terminal when a line is asked for. -/
inductive Key where
  /-- A text is typed and sent. -/
  | line (text : Text)
  /-- A text is typed and given up. -/
  | interrupt (text : Text)
  /-- A line is brought back by so many steps, and sent. -/
  | back (steps : Nat)
  /-- The input is ended. -/
  | endOfInput
  deriving Repr, DecidableEq

namespace Key

/-- Whether typing a character leaves no trace. -/
def isIdle (c : Char) : Bool := 0x80 ≤ c.toNat && c.toNat < 0xA0

/-- What the editor holds once a text is typed. -/
def typed (text : Text) : Text := text.filter (!isIdle ·)

/-- The line that is sent, given the history. -/
def sent? (history : History) : Key → Option Text
  | .line text => some (typed text)
  | .back steps => some (history.back steps)
  | .interrupt _ | .endOfInput => none

/-- The history after a key. -/
def remember (history : History) (key : Key) : History :=
  match key.sent? history with
  | some text => history.add text
  | none => history

/-- The input that a key leads to. -/
def input (history : History) : Key → Input
  | .line text => .line (typed text)
  | .back steps => .line (history.back steps)
  | .interrupt _ => .interrupted
  | .endOfInput => .endOfInput

/-- A text without idle characters is held as it is typed. -/
theorem typed_eq_self {text : Text} (h : ∀ c ∈ text, isIdle c = false) : typed text = text := by
  rw [typed, List.filter_eq_self]
  simpa using h

end Key

namespace Terminal

/-- The inputs that keys lead to. -/
def inputs (history : History) : List Key → List Input
  | [] => []
  | key :: rest => key.input history :: inputs (key.remember history) rest

/-- The transcript of a run. -/
def run (showsColour : Bool) (arguments : List Text) (keys : List Key) : Transcript :=
  match Options.ofArguments arguments with
  | .error reason => .ofHalt showsColour reason
  | .ok options => Session.transcript options showsColour (inputs .empty keys)

end Terminal
end PocketCalc
