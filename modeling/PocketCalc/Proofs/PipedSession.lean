import PocketCalc.Proofs.Editing
import PocketCalc.Proofs.RawLines
import PocketCalc.Proofs.Runs

/-!
# A piped session goes line by line

What a run on piped input prints is put together here from parts that know nothing of the loop
that prints it. The bytes are split into lines (`byteLines`), the lines are texts up to the first
that is none (`leadingTexts`), one calculator processes them all as if nothing could stop it
(`Calculator.outcomes`), and the outcomes count up to the first that asks for the exit
(`upToExit`). What stopped the session is left to `Ending`.

`Piped.run_eq_session` says that the loop prints that. Whatever the outcome of a line, it is the
next line's turn unless the exit was asked for; and nothing after the line that stopped the session
makes a difference.

## Why the texts are edited

A line with backspaces in it is not processed as it stands but as they leave it, so the parts are
joined by an `edit` of texts. With `Text.erase` in that place the session is the one that is run.
With no edit at all it is not, and `run_ne_session_of_backspace` shows where the two part.
-/

namespace PocketCalc

/-- What an outcome prints without colours. -/
def Outcome.plain (outcome : Outcome) : Text :=
  (outcome.truncation.elim [] fun kept => Message.truncation kept ++ ['\n']) ++
    outcome.output.elim [] fun output => output ++ ['\n']

/-- Outcomes up to the first that asks for the exit, with that one. -/
def upToExit : List Outcome → List Outcome
  | [] => []
  | outcome :: rest => if outcome.status = .exit then [outcome] else outcome :: upToExit rest

theorem length_upToExit_le (outcomes : List Outcome) :
    (upToExit outcomes).length ≤ outcomes.length := by
  induction outcomes with
  | nil => exact Nat.le_refl _
  | cons outcome rest ih =>
    rw [upToExit]
    split
    · simp
    · simpa using ih

namespace Piped

/-! ## The parts of a session -/

/-- The texts of lines, up to the first line that is no text. -/
def leadingTexts : List (List UInt8) → List Text
  | [] => []
  | line :: rest =>
    match decode? line with
    | none => []
    | some text => text :: leadingTexts rest

/-- What stops a session. -/
inductive Ending where
  /-- A line asked for the exit. -/
  | exit
  /-- A line was no text. -/
  | unreadable
  /-- There were no more lines. -/
  | endOfInput
  deriving DecidableEq

namespace Ending

/-- What stops a session on lines with these outcomes. A line that is no text comes after all
outcomes there are, so a line that asks for the exit comes before it. -/
def ofLines (lines : List (List UInt8)) (outcomes : List Outcome) : Ending :=
  if outcomes.any (·.status = .exit) then .exit
  else if lines.all fun line => (decode? line).isSome then .endOfInput
  else .unreadable

/-- What is printed when a line is asked for that does not come. -/
def steps : Ending → List Text
  | exit => []
  | unreadable => [[]]
  | endOfInput => ["exit\n".toList]

def exitCode : Ending → Nat
  | exit | endOfInput => 0
  | unreadable => 1

end Ending

/-- What a calculator answers to the lines that are texts, each as the edit leaves it. -/
def lineOutcomes (edit : Text → Text) (calculator : Calculator) (lines : List (List UInt8)) :
    List Outcome :=
  calculator.outcomes ((leadingTexts lines).map edit)

/-- The texts that are processed before the session stops. -/
def heardTexts (edit : Text → Text) (calculator : Calculator) (lines : List (List UInt8)) :
    List Text :=
  (leadingTexts lines).take (upToExit (lineOutcomes edit calculator lines)).length

/-- What a calculator prints each time a line is asked for, and the exit code. -/
def dialogue (edit : Text → Text) (calculator : Calculator) (lines : List (List UInt8)) :
    List Text × Nat :=
  let outcomes := lineOutcomes edit calculator lines
  let ending := Ending.ofLines lines outcomes
  ((upToExit outcomes).map Outcome.plain ++ ending.steps, ending.exitCode)

/-- The output of a session without colours, and its exit code: the greeting unless it is unwanted,
and then the dialogue, with the prompt each time a line is asked for. -/
def session (edit : Text → Text) (quiet : Bool) (prompt : Text) (bytes : List UInt8) :
    Text × Nat :=
  let (steps, exitCode) := dialogue edit .initial (byteLines bytes)
  ((if quiet then [] else Message.greeting.toList ++ ['\n']) ++ steps.flatMap (prompt ++ ·),
    exitCode)

/-! ## Lines that are cut and decoded -/

/-- The input that a line without its end is. -/
def inputOf (line : List UInt8) : Input :=
  match decode? line with
  | none => .unreadable
  | some text =>
    match Text.applyBackspaces? text with
    | none => .broken
    | some edited => .line edited

theorem inputs_eq_map_inputOf (bytes : List UInt8) :
    inputs bytes = (byteLines bytes).map inputOf := by
  rw [← map_dropLineEnd_rawLines, List.map_map]
  rfl

theorem inputOf_of_decode?_none {line : List UInt8} (h : decode? line = none) :
    inputOf line = .unreadable := by
  simp only [inputOf, h]

theorem inputOf_of_decode? {line : List UInt8} {text : Text} (h : decode? line = some text)
    (hErasable : Text.IsErasable text) : inputOf line = .line text.erase := by
  simp only [inputOf, h, Text.applyBackspaces?_eq_some_erase hErasable]

theorem length_leadingTexts_le (lines : List (List UInt8)) :
    (leadingTexts lines).length ≤ lines.length := by
  induction lines with
  | nil => exact Nat.le_refl _
  | cons line rest ih =>
    rw [leadingTexts]
    split
    · simp
    · simpa using ih

theorem length_leadingTexts_lt {lines : List (List UInt8)}
    (h : ¬ (lines.all fun line => (decode? line).isSome) = true) :
    (leadingTexts lines).length < lines.length := by
  induction lines with
  | nil => exact absurd rfl h
  | cons line rest ih =>
    rw [leadingTexts]
    split
    · simp
    · rename_i text hText
      have hRest : ¬ (rest.all fun line => (decode? line).isSome) = true := by
        simpa [hText] using h
      simpa using ih hRest

/-! ## One line and many -/

theorem warning_append_answer (outcome : Outcome) :
    Session.warning false outcome ++ Session.answer false outcome = outcome.plain := by
  obtain ⟨status, truncation, output⟩ := outcome
  cases truncation <;> cases output <;> cases status <;> rfl

theorem react_line (calculator : Calculator) (text : Text) :
    Session.react false calculator (.line text) =
      if (calculator.enter text).2.status = .exit then .stop (calculator.enter text).2.plain 0
      else .resume (calculator.enter text).2.plain (calculator.enter text).1 := by
  simp only [Session.react, warning_append_answer]

/-- **The loop is the dialogue**, from any calculator and on any lines. -/
theorem run_map_inputOf {calculator : Calculator} {lines : List (List UInt8)}
    (hErasable : ∀ text ∈ heardTexts Text.erase calculator lines, text.IsErasable) :
    Session.run false calculator (lines.map inputOf) = dialogue Text.erase calculator lines := by
  induction lines generalizing calculator with
  | nil => rfl
  | cons line rest ih =>
    cases hText : decode? line with
    | none =>
      simp [dialogue, lineOutcomes, leadingTexts, hText, Calculator.outcomes, upToExit,
        Ending.ofLines, Ending.steps, Ending.exitCode, inputOf_of_decode?_none hText, Session.run,
        Session.react]
    | some text =>
      have hOutcomes : lineOutcomes Text.erase calculator (line :: rest) =
          (calculator.enter text.erase).2 ::
            lineOutcomes Text.erase (calculator.enter text.erase).1 rest := by
        simp only [lineOutcomes, leadingTexts, hText, List.map_cons, Calculator.outcomes]
      rw [heardTexts, hOutcomes, leadingTexts, hText, upToExit] at hErasable
      rw [dialogue, hOutcomes, List.map_cons, Session.run]
      by_cases hExit : (calculator.enter text.erase).2.status = .exit
      · rw [if_pos hExit] at hErasable
        have hLine := inputOf_of_decode? hText (hErasable text (by simp))
        simp [hLine, react_line, hExit, upToExit, Ending.ofLines, Ending.steps, Ending.exitCode]
      · rw [if_neg hExit] at hErasable
        have hLine := inputOf_of_decode? hText (hErasable text (by simp))
        have hRest : Session.run false (calculator.enter text.erase).1 (rest.map inputOf) =
            dialogue Text.erase (calculator.enter text.erase).1 rest :=
          ih fun text hMem => hErasable text (by simpa using .inr hMem)
        simp [hLine, react_line, hExit, hRest, dialogue, upToExit, Ending.ofLines, hText]

/-- A run that stopped before its inputs did is not changed by more of them. -/
theorem run_append_of_length_le {inColour : Bool} {calculator : Calculator} {inputs : List Input}
    (h : (Session.run inColour calculator inputs).1.length ≤ inputs.length)
    (more : List Input) :
    Session.run inColour calculator (inputs ++ more) =
      Session.run inColour calculator inputs := by
  induction inputs generalizing calculator with
  | nil => simp [Session.run] at h
  | cons input rest ih =>
    rw [List.cons_append, Session.run, Session.run]
    rw [Session.run] at h
    cases hReact : Session.react inColour calculator input with
    | stop output exitCode => rfl
    | resume output after =>
      simp only [hReact, List.length_cons, Nat.add_le_add_iff_right] at h
      simp only [ih h]

/-- A dialogue that does not last until the end of the input stops on one of its lines. -/
theorem length_dialogue_le {edit : Text → Text} {calculator : Calculator}
    {lines : List (List UInt8)}
    (h : Ending.ofLines lines (lineOutcomes edit calculator lines) ≠ .endOfInput) :
    (dialogue edit calculator lines).1.length ≤ lines.length := by
  have hHeard : (upToExit (lineOutcomes edit calculator lines)).length ≤
      (leadingTexts lines).length := by
    calc (upToExit (lineOutcomes edit calculator lines)).length
        ≤ (lineOutcomes edit calculator lines).length := length_upToExit_le _
      _ = (leadingTexts lines).length := by simp [lineOutcomes]
  simp only [dialogue, List.length_append, List.length_map]
  cases hEnding : Ending.ofLines lines (lineOutcomes edit calculator lines) with
  | exit =>
    have hLines := length_leadingTexts_le lines
    simp only [Ending.steps, List.length_nil]
    omega
  | unreadable =>
    have hLines : (leadingTexts lines).length < lines.length := by
      apply length_leadingTexts_lt
      intro hAll
      simp only [Ending.ofLines, hAll, if_true] at hEnding
      split at hEnding <;> cases hEnding
    simp only [Ending.steps, List.length_cons, List.length_nil]
    omega
  | endOfInput => exact absurd hEnding h

/-! ## The session -/

section Session

variable {environment : Environment} {arguments : List Text} {options : Options}

theorem prompt_of_plain (hPlain : options.inColour environment.showsColour = false) :
    prompt environment options = if environment.showsPrompt then options.prompt else [] := by
  rw [prompt, hPlain]
  rfl

/-- What is run on options and lines that are given: the greeting, and then the loop. -/
theorem run_of_options (hOptions : Options.ofArguments arguments = .ok options)
    (hPlain : options.inColour environment.showsColour = false) (bytes : List UInt8) :
    run environment arguments bytes =
      (Session.greeting false options.quiet ++
          (Session.run false .initial (inputs bytes)).1.flatMap
            ((if environment.showsPrompt then options.prompt else []) ++ ·),
        (Session.run false .initial (inputs bytes)).2) := by
  simp only [run, hOptions, Session.transcript, hPlain, prompt_of_plain hPlain]

theorem run_eq_session_erase (hOptions : Options.ofArguments arguments = .ok options)
    (hPlain : options.inColour environment.showsColour = false) {bytes : List UInt8}
    (hErasable : ∀ text ∈ heardTexts Text.erase .initial (byteLines bytes), text.IsErasable) :
    run environment arguments bytes =
      session Text.erase options.quiet (if environment.showsPrompt then options.prompt else [])
        bytes := by
  rw [run_of_options hOptions hPlain, inputs_eq_map_inputOf, run_map_inputOf hErasable]
  rfl

/-- Nothing after the line on which a session stops makes a difference. -/
theorem run_append (hOptions : Options.ofArguments arguments = .ok options)
    (hPlain : options.inColour environment.showsColour = false) {bytes : List UInt8}
    (hErasable : ∀ text ∈ heardTexts Text.erase .initial (byteLines bytes), text.IsErasable)
    (hStops : Ending.ofLines (byteLines bytes)
      (lineOutcomes Text.erase .initial (byteLines bytes)) ≠ .endOfInput)
    (hLast : bytes.getLast? = some lineFeed) (more : List UInt8) :
    run environment arguments (bytes ++ more) = run environment arguments bytes := by
  have hInputs : inputs (bytes ++ more) = inputs bytes ++ inputs more := by
    rw [inputs, rawLines_append hLast, List.map_append]
    rfl
  have hLength : (Session.run false .initial (inputs bytes)).1.length ≤ (inputs bytes).length := by
    rw [inputs_eq_map_inputOf, run_map_inputOf hErasable, List.length_map]
    exact length_dialogue_le hStops
  rw [run_of_options hOptions hPlain, run_of_options hOptions hPlain, hInputs,
    run_append_of_length_le hLength]

theorem session_erase_of_not_mem {bytes : List UInt8}
    (h : ∀ text ∈ leadingTexts (byteLines bytes), Text.backspace ∉ text) (quiet : Bool)
    (prompt : Text) : session Text.erase quiet prompt bytes = session id quiet prompt bytes := by
  have hTexts : (leadingTexts (byteLines bytes)).map Text.erase =
      (leadingTexts (byteLines bytes)).map id :=
    List.map_congr_left fun text hText => Text.erase_eq_self (h text hText)
  simp only [session, dialogue, lineOutcomes, hTexts]

/-- **A piped session goes line by line.** Without colours a run prints the greeting and the
dialogue of one calculator with the lines, in which every backspace takes away the cluster before
it, and prints the prompt each time it asks for a line if that is left to it. Bytes after the line
on which the session stops make no difference. Lines without backspaces are processed as they
stand. -/
theorem run_eq_session (hOptions : Options.ofArguments arguments = .ok options)
    (hPlain : options.inColour environment.showsColour = false) (bytes : List UInt8)
    (hErasable : ∀ text ∈ heardTexts Text.erase .initial (byteLines bytes), text.IsErasable) :
    let prompt := if environment.showsPrompt then options.prompt else []
    run environment arguments bytes = session Text.erase options.quiet prompt bytes ∧
      (Ending.ofLines (byteLines bytes)
          (lineOutcomes Text.erase .initial (byteLines bytes)) ≠ .endOfInput →
        bytes.getLast? = some lineFeed →
        ∀ more, run environment arguments (bytes ++ more) = run environment arguments bytes) ∧
      ((∀ text ∈ leadingTexts (byteLines bytes), Text.backspace ∉ text) →
        run environment arguments bytes = session id options.quiet prompt bytes) := by
  intro prompt
  have hRun : run environment arguments bytes =
      session Text.erase options.quiet prompt bytes :=
    run_eq_session_erase hOptions hPlain hErasable
  refine ⟨hRun, fun hStops hLast more => run_append hOptions hPlain hErasable hStops hLast more,
    fun hNone => ?_⟩
  rw [hRun, session_erase_of_not_mem hNone]

end Session

/-- A request for the exit with a letter too many, and a backspace after it. -/
def exitAfterBackspace : List UInt8 := [101, 120, 105, 116, 116, 8, 10]

/-- On a dumb terminal the prompt comes before the one line that is read, whatever follows. -/
theorem run_dumb_exitAfterBackspace :
    Options.ofArguments ["-q".toList] = .ok ⟨false, true, "> ".toList⟩ ∧
      (∀ text ∈ heardTexts Text.erase .initial (byteLines exitAfterBackspace),
        text.IsErasable) ∧
      run ⟨false, true⟩ ["-q".toList] exitAfterBackspace = ("> ".toList, 0) ∧
      ∀ more, run ⟨false, true⟩ ["-q".toList] (exitAfterBackspace ++ more) =
        run ⟨false, true⟩ ["-q".toList] exitAfterBackspace := by
  have hOptions : Options.ofArguments ["-q".toList] = .ok ⟨false, true, "> ".toList⟩ := rfl
  have hErasable : ∀ text ∈ heardTexts Text.erase .initial (byteLines exitAfterBackspace),
      text.IsErasable := by decide +kernel
  have hRun := @run_eq_session ⟨false, true⟩ _ _ hOptions rfl exitAfterBackspace hErasable
  have hSession : session Text.erase true "> ".toList exitAfterBackspace = ("> ".toList, 0) := by
    decide +kernel
  exact ⟨hOptions, hErasable, hRun.1.trans hSession, hRun.2.1 (by decide +kernel) rfl⟩

/-- Taken as they stand, the same bytes hold no request for the exit. -/
theorem run_ne_session_of_backspace :
    Options.ofArguments ["-q".toList] = .ok ⟨false, true, "> ".toList⟩ ∧
      run ⟨false, false⟩ ["-q".toList] exitAfterBackspace = ([], 0) ∧
      session id true [] exitAfterBackspace =
        (Message.invalidInput.toList ++ "\nexit\n".toList, 0) ∧
      run ⟨false, false⟩ ["-q".toList] exitAfterBackspace ≠ session id true [] exitAfterBackspace := by
  have hRun : run ⟨false, false⟩ ["-q".toList] exitAfterBackspace = ([], 0) := by decide +kernel
  have hSession : session id true [] exitAfterBackspace =
      (Message.invalidInput.toList ++ "\nexit\n".toList, 0) := by decide +kernel
  refine ⟨rfl, hRun, hSession, ?_⟩
  rw [hRun, hSession]
  intro hSame
  have hOutput := congrArg Prod.fst hSame
  exact absurd hOutput (by decide)

end Piped
end PocketCalc
