import PocketCalc.Console.Options

/-!
# Help and version

What is printed in place of a session, and the exit code that goes with it. Where colours are
shown the help sets its headings and the names in it off from the rest. The option that forbids
colours has no say in that, since it is an option of the session.
-/

namespace PocketCalc

namespace Help

/-- A text in bold type, if styles are in use. -/
def bold (inStyle : Bool) (text : String) : String :=
  if inStyle then "\x1b[1m" ++ text ++ "\x1b[0m" else text

/-- A heading is bold and underlined. -/
def heading (inStyle : Bool) (text : String) : String :=
  if inStyle then "\x1b[1m\x1b[4m" ++ text ++ "\x1b[0m" else text

/-- The help on the options. -/
def text (inStyle : Bool) : String :=
  "Interactive calculator with a memory register\n" ++
  "\n" ++
  heading inStyle "Usage:" ++ " " ++ bold inStyle "memcalc" ++ " [OPTIONS]\n" ++
  "\n" ++
  heading inStyle "Options:" ++ "\n" ++
  "      " ++ bold inStyle "--no-color" ++ "         Disable colored output\n" ++
  "  " ++ bold inStyle "-q" ++ ", " ++ bold inStyle "--quiet" ++
    "            Don't print the greeting\n" ++
  "      " ++ bold inStyle "--prompt" ++
    " <PROMPT>  Prompt shown before each line [default: \"> \"]\n" ++
  "  " ++ bold inStyle "-h" ++ ", " ++ bold inStyle "--help" ++ "             Print help\n" ++
  "  " ++ bold inStyle "-V" ++ ", " ++ bold inStyle "--version" ++ "          Print version\n"

def version : String := "memcalc 0.1.0\n"

end Help

namespace Halt

/-- What is printed in place of a session. A misuse prints nothing here. -/
def output (showsColour : Bool) : Halt → Text
  | .help => (Help.text showsColour).toList
  | .version => Help.version.toList
  | .misuse _ => []

/-- The exit code in place of a session. -/
def exitCode : Halt → Nat
  | .help | .version => 0
  | .misuse _ => 2

end Halt
end PocketCalc
