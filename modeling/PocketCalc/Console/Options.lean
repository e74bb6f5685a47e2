import PocketCalc.Console.Argument

/-!
# Options

What the program is told on its command line. `Options.ofArguments` works in two steps.
`Directive.ofArguments` says what each argument asks for: to set an option, or to start no
session, be it because the help is wanted or because the argument cannot be read. Then the
directives are obeyed from left to right until one of them starts no session, an option comes
for the second time, or a value is missing. So it is the first problem that counts, and asking
for help before it is in time.

There is one exception to the order. A prompt that stands apart from its value is set only when
the argument after it has been read. If that argument cannot be read, it is the one that is
complained about, whatever may be wrong with the prompt (`Directive.complaint`).

Each option can be set once. An option that is not set has its default.
-/

namespace PocketCalc

/-- The options of the program. -/
structure Options where
  noColor : Bool
  quiet : Bool
  prompt : Text
  deriving Repr, DecidableEq

/-- What can be wrong with the arguments. -/
inductive Misuse where
  /-- An option that is set already. -/
  | repeatedOption
  /-- No value where one is needed. -/
  | missingValue
  /-- A value for an option that has none. -/
  | unexpectedValue
  /-- Neither an option nor the value of one. -/
  | unknownArgument
  deriving Repr, DecidableEq

/-- Why arguments start no session. -/
inductive Halt where
  | help
  | version
  | misuse (cause : Misuse)
  deriving Repr, DecidableEq

/-! ## The switches -/

/-- The names that the program knows. -/
inductive Switch where
  | noColor
  | quiet
  | prompt
  | help
  | version
  deriving Repr, DecidableEq

namespace Switch

def all : List Switch := [noColor, quiet, prompt, help, version]

def name : Switch → String
  | noColor => "no-color"
  | quiet => "quiet"
  | prompt => "prompt"
  | help => "help"
  | version => "version"

/-- The letter that can stand for the name. -/
def letter? : Switch → Option Char
  | quiet => some 'q'
  | help => some 'h'
  | version => some 'V'
  | noColor | prompt => none

/-- The switch of a name, which is to be given in full and in its case. -/
def ofName? (name : Text) : Option Switch := all.find? (·.name.toList == name)

/-- The switch of a letter. -/
def ofLetter? (letter : Char) : Option Switch := all.find? (·.letter? == some letter)

theorem ofName?_name (switch : Switch) : ofName? switch.name.toList = some switch := by
  cases switch <;> decide

theorem ofLetter?_eq_some_iff {letter : Char} {switch : Switch} :
    ofLetter? letter = some switch ↔ switch.letter? = some letter := by
  constructor
  · intro h
    simpa using List.find?_some h
  · intro h
    cases switch <;> simp only [letter?, Option.some.injEq, reduceCtorEq] at h <;>
      subst h <;> decide

end Switch

/-! ## Directives -/

/-- What an argument asks for. -/
inductive Directive where
  | noColor
  | quiet
  /-- To set the prompt, the value being in the same argument. -/
  | prompt (text : Text)
  /-- To set the prompt to the next argument, which may be missing or no value. -/
  | promptApart (text : Option Text)
  /-- To start no session. -/
  | halt (reason : Halt)
  deriving Repr, DecidableEq

namespace Directive

/-- The directive of an argument that cannot be read. -/
def misuse (cause : Misuse) : Directive := .halt (.misuse cause)

/-- A switch without a value. The prompt then lacks one. -/
def ofSwitch : Switch → Directive
  | .noColor => .noColor
  | .quiet => .quiet
  | .prompt => .promptApart none
  | .help => .halt .help
  | .version => .halt .version

/-- A switch with a value. Only the prompt takes one. -/
def ofSwitchAndValue (switch : Switch) (value : Text) : Directive :=
  if switch = .prompt then .prompt value else misuse .unexpectedValue

/-- A letter in a cluster. -/
def ofLetter (letter : Char) : Directive :=
  match Switch.ofLetter? letter with
  | some switch => ofSwitch switch
  | none => misuse .unknownArgument

/-- A name with a value after an equals sign. -/
def ofNameAndValue (name value : Text) : Directive :=
  match Switch.ofName? name with
  | some switch => ofSwitchAndValue switch value
  | none => misuse .unknownArgument

/-- A name on its own. -/
def ofName (name : Text) : Directive :=
  match Switch.ofName? name with
  | some switch => ofSwitch switch
  | none => misuse .unknownArgument

/-- What arguments ask for, in order. A name that lacks its value takes the next argument for
it if that is an operand. All other operands are unknown, and so is everything after the mark
that ends the options. -/
def ofArguments : List Text → List Directive
  | [] => []
  | argument :: rest =>
    match Argument.ofText argument with
    | .endOfOptions => rest.map fun _ => misuse .unknownArgument
    | .operand _ => misuse .unknownArgument :: ofArguments rest
    | .letters first others => ofLetter first :: (others.map ofLetter ++ ofArguments rest)
    | .named name (some value) => ofNameAndValue name value :: ofArguments rest
    | .named name none =>
      match rest with
      | [] => [ofName name]
      | next :: later =>
        match Switch.ofName? name, Argument.ofText next with
        | some .prompt, .operand value => .promptApart value :: ofArguments later
        | _, _ => ofName name :: ofArguments (next :: later)

/-- The reason to be given for a directive that cannot be obeyed, among the directives that
follow it. -/
def complaint (reason : Halt) : Directive → List Directive → Halt
  | .promptApart _, .halt (.misuse cause) :: _ => .misuse cause
  | _, _ => reason

end Directive

/-! ## Obeying the directives -/

namespace Options

/-- What a session prompts with unless it is told otherwise. -/
def defaultPrompt : Text := "> ".toList

/-- The options that are set so far. -/
structure Draft where
  noColor : Bool
  quiet : Bool
  prompt : Option Text
  deriving Repr, DecidableEq

namespace Draft

/-- Nothing is set. -/
def empty : Draft where
  noColor := false
  quiet := false
  prompt := none

/-- Sets the prompt. -/
def setPrompt (draft : Draft) (text : Text) : Except Halt Draft :=
  if draft.prompt.isSome then .error (.misuse .repeatedOption)
  else .ok { draft with prompt := some text }

/-- Obeys a directive. -/
def obey (draft : Draft) : Directive → Except Halt Draft
  | .noColor =>
    if draft.noColor then .error (.misuse .repeatedOption)
    else .ok { draft with noColor := true }
  | .quiet =>
    if draft.quiet then .error (.misuse .repeatedOption) else .ok { draft with quiet := true }
  | .prompt text => draft.setPrompt text
  | .promptApart none => .error (.misuse .missingValue)
  | .promptApart (some text) => draft.setPrompt text
  | .halt reason => .error reason

/-- Obeys directives up to the first that cannot be obeyed. -/
def obeyAll (draft : Draft) : List Directive → Except Halt Draft
  | [] => .ok draft
  | directive :: rest =>
    match draft.obey directive with
    | .error reason => .error (directive.complaint reason rest)
    | .ok next => next.obeyAll rest

/-- The options, with the defaults for those that are not set. -/
def finish (draft : Draft) : Options where
  noColor := draft.noColor
  quiet := draft.quiet
  prompt := draft.prompt.getD defaultPrompt

end Draft

/-- The options that arguments set, or why they start no session. -/
def ofArguments (arguments : List Text) : Except Halt Options :=
  match Draft.empty.obeyAll (Directive.ofArguments arguments) with
  | .error reason => .error reason
  | .ok draft => .ok draft.finish

end Options
end PocketCalc
