import PocketCalc.Console.Piped
import PocketCalc.Proofs.Readback

/-!
# Colour is decoration

`Colour.strip` deletes every colour sequence from a text, in one pass from left to right: an escape,
a bracket, one or more digits and an `m`. `Piped.strip_run` says that this takes the colours out of
the output of a run and nothing else, whatever the input was, and that a run which is asked for no
colours has none to begin with.

## What a user can bring in

A line that was cut is quoted in the warning about it, so escapes get from the input into the
output, and with them the beginnings of colour sequences. They stay beginnings. What is quoted is
in upper case, so there is no `m` after such an escape (`Colour.IsTame`); and what follows the
quotation, an escape or a line feed, is nothing that a sequence could go on with
(`Colour.strip_append_of_isTame`). Of a prompt nothing of that kind is known, hence it must not have
an escape in it.

## One step at a time

Stripping a text says nothing of the text it is a part of, since a sequence can lie across a border.
So what is carried through the run is that a part loses its colours before any rest
(`Colour.Decorates`). Parts with this property can be put together, and a run with colours and one
without are compared part by part.
-/

namespace PocketCalc

namespace Colour

/-! ## Colour sequences -/

/-- What follows the colour sequence at the head of a text, if there is one. -/
def afterSequence? : Text → Option Text
  | '\x1b' :: '[' :: body =>
    match body.takeWhile Char.isDigit, body.dropWhile Char.isDigit with
    | _ :: _, 'm' :: rest => some rest
    | _, _ => none
  | _ => none

theorem afterSequence?_eq_some_iff {text after : Text} :
    afterSequence? text = some after ↔
      ∃ digits, digits ≠ [] ∧ (∀ c ∈ digits, c.isDigit = true) ∧
        text = '\x1b' :: '[' :: (digits ++ 'm' :: after) := by
  constructor
  · intro h
    unfold afterSequence? at h
    split at h
    · rename_i body
      split at h
      · rename_i first others rest hDigits hRest
        cases h
        refine ⟨first :: others, List.cons_ne_nil _ _, fun c hc => ?_, ?_⟩
        · exact List.mem_takeWhile_imp (hDigits ▸ hc)
        · rw [← hDigits, ← hRest, List.takeWhile_append_dropWhile]
      · cases h
    · cases h
  · rintro ⟨digits, hNonempty, hDigits, rfl⟩
    obtain ⟨first, others, rfl⟩ := List.exists_cons_of_ne_nil hNonempty
    have hMark : Char.isDigit 'm' = false := by decide
    simp only [afterSequence?, List.takeWhile_append_of_pos hDigits,
      List.dropWhile_append_of_pos hDigits]
    simp [hMark]

theorem length_lt_of_afterSequence? {text after : Text} (h : afterSequence? text = some after) :
    after.length < text.length := by
  obtain ⟨digits, _, _, rfl⟩ := afterSequence?_eq_some_iff.mp h
  simp only [List.length_cons, List.length_append]
  omega

/-- A text without its colour sequences. -/
def strip (text : Text) : Text :=
  match text with
  | [] => []
  | c :: rest =>
    match _hAfter : afterSequence? (c :: rest) with
    | some after => strip after
    | none => c :: strip rest
termination_by text.length
decreasing_by
  · exact length_lt_of_afterSequence? _hAfter
  · exact Nat.lt_succ_self _

@[simp] theorem strip_nil : strip [] = [] := by
  rw [strip]

theorem strip_of_afterSequence? {text after : Text} (h : afterSequence? text = some after) :
    strip text = strip after := by
  cases text with
  | nil => cases h
  | cons c rest =>
    rw [strip]
    split
    · rename_i after' hAfter
      rw [h, Option.some.injEq] at hAfter
      rw [hAfter]
    · rename_i hNone
      rw [h] at hNone
      cases hNone

theorem strip_cons {c : Char} {rest : Text} (h : afterSequence? (c :: rest) = none) :
    strip (c :: rest) = c :: strip rest := by
  rw [strip]
  split
  · rename_i after hAfter
    rw [h] at hAfter
    cases hAfter
  · rfl

/-! ## Texts that stripping leaves alone -/

/-- A text in which no `m` comes after an escape, so that no colour sequence ends in it. -/
def IsTame (text : Text) : Prop :=
  ∃ start rest, text = start ++ rest ∧ '\x1b' ∉ start ∧ 'm' ∉ rest

/-- A text that does not begin with anything that an unfinished colour sequence could go on with. -/
def IsBreak (text : Text) : Prop :=
  ∀ c, text.head? = some c → c ≠ '[' ∧ c.isDigit = false ∧ c ≠ 'm'

theorem afterSequence?_eq_none_of_ne {c : Char} (h : c ≠ '\x1b') (rest : Text) :
    afterSequence? (c :: rest) = none := by
  cases hAfter : afterSequence? (c :: rest) with
  | none => rfl
  | some after =>
    obtain ⟨digits, _, _, hText⟩ := afterSequence?_eq_some_iff.mp hAfter
    exact absurd (List.cons.inj hText).1 h

theorem strip_append_of_not_mem {text : Text} (h : '\x1b' ∉ text) (rest : Text) :
    strip (text ++ rest) = text ++ strip rest := by
  induction text with
  | nil => rfl
  | cons c text ih =>
    rw [List.mem_cons, not_or] at h
    rw [List.cons_append, strip_cons (afterSequence?_eq_none_of_ne (Ne.symm h.1) _), ih h.2]
    rfl

/-- A sequence that begins in a text without an `m` is not finished behind it, if what comes there
is nothing to go on with. -/
theorem afterSequence?_append_eq_none {text rest : Text} (hText : text ≠ []) (hMark : 'm' ∉ text)
    (hBreak : IsBreak rest) : afterSequence? (text ++ rest) = none := by
  cases hAfter : afterSequence? (text ++ rest) with
  | none => rfl
  | some after =>
    exfalso
    obtain ⟨digits, _, hDigits, hSequence⟩ := afterSequence?_eq_some_iff.mp hAfter
    have hMiddle : text ++ rest = ('\x1b' :: '[' :: digits) ++ 'm' :: after := by
      simpa using hSequence
    rw [List.append_eq_append_iff] at hMiddle
    rcases hMiddle with ⟨more, hMore, hRest⟩ | ⟨more, hMore, hRest⟩
    · -- The text ends within the sequence, and the rest goes on with it.
      cases more with
      | nil => exact (hBreak 'm' (by simp [hRest])).2.2 rfl
      | cons c more =>
        obtain ⟨hBracket, hDigit, _⟩ := hBreak c (by simp [hRest])
        obtain ⟨first, others, rfl⟩ := List.exists_cons_of_ne_nil hText
        have hMem : c ∈ '[' :: digits := by
          rw [(List.cons.inj hMore).2]
          simp
        rcases List.mem_cons.mp hMem with rfl | hMem
        · exact hBracket rfl
        · rw [hDigits c hMem] at hDigit
          cases hDigit
    · -- The text goes on to the last scalar of the sequence at least, or stops just before it.
      cases more with
      | nil =>
        have hHead : rest.head? = some 'm' := congrArg List.head? hRest.symm
        exact (hBreak 'm' hHead).2.2 rfl
      | cons c more =>
        obtain ⟨rfl, _⟩ := List.cons.inj hRest
        exact hMark (by simp [hMore])

theorem strip_append_of_isTame {text rest : Text} (h : IsTame text) (hBreak : IsBreak rest) :
    strip (text ++ rest) = text ++ strip rest := by
  obtain ⟨start, tail, rfl, hStart, hTail⟩ := h
  rw [List.append_assoc, strip_append_of_not_mem hStart, List.append_assoc]
  congr 1
  clear hStart
  induction tail with
  | nil => rfl
  | cons c tail ih =>
    have hNone := afterSequence?_append_eq_none (List.cons_ne_nil c tail) hTail hBreak
    rw [List.mem_cons, not_or] at hTail
    rw [List.cons_append] at hNone ⊢
    rw [strip_cons hNone, ih hTail.2]
    rfl

/-! ## Painted texts -/

theorem strip_opening (colour : Colour) (rest : Text) :
    strip (colour.opening ++ rest) = strip rest := by
  apply strip_of_afterSequence?
  cases colour <;> rfl

theorem strip_ending (rest : Text) : strip (ending ++ rest) = strip rest :=
  strip_of_afterSequence? rfl

/-- A tame text has no end of colours in it that it would have to be painted on after. -/
theorem reopened_of_isTame {opening text : Text} (h : IsTame text) :
    reopened opening text = text := by
  obtain ⟨start, rest, rfl, hStart, hRest⟩ := h
  induction start with
  | nil =>
    rw [List.nil_append]
    fun_induction reopened opening rest with
    | case1 rest => simp at hRest
    | case2 c rest _ ih =>
      rw [List.mem_cons, not_or] at hRest
      rw [ih hRest.2]
    | case3 => rfl
  | cons c start ih =>
    rw [List.mem_cons, not_or] at hStart
    rw [List.cons_append, reopened, ih hStart.2]
    rintro _ rfl
    exact absurd rfl hStart.1

/-- Whether a text is another one but for its colours, whatever comes after it. -/
def Decorates (painted plain : Text) : Prop :=
  ∀ rest, strip (painted ++ rest) = plain ++ strip rest

namespace Decorates

theorem strip_eq {painted plain : Text} (h : Decorates painted plain) : strip painted = plain := by
  simpa using h []

protected theorem append {painted plain painted' plain' : Text} (h : Decorates painted plain)
    (h' : Decorates painted' plain') : Decorates (painted ++ painted') (plain ++ plain') := by
  intro rest
  rw [List.append_assoc, h, h', List.append_assoc]

theorem of_not_mem {text : Text} (h : '\x1b' ∉ text) : Decorates text text :=
  strip_append_of_not_mem h

theorem flatten {painted plain : List Text} (h : List.Forall₂ Decorates painted plain) :
    Decorates painted.flatten plain.flatten := by
  induction h with
  | nil => exact of_not_mem (List.not_mem_nil)
  | cons hHead _ ih =>
    rw [List.flatten_cons, List.flatten_cons]
    exact hHead.append ih

end Decorates

theorem isTame_of_not_mem {text : Text} (h : '\x1b' ∉ text) : IsTame text :=
  ⟨text, [], (List.append_nil text).symm, h, List.not_mem_nil⟩

/-- Painting a tame text decorates it. -/
theorem decorates_paint (colour : Colour) {text : Text} (h : IsTame text) :
    Decorates (colour.paint text) text := by
  intro rest
  have hBreak : IsBreak (ending ++ rest) := by
    intro c hc
    obtain rfl : '\x1b' = c := Option.some.inj hc
    decide
  rw [paint, reopened_of_isTame h, List.append_assoc, List.append_assoc, strip_opening,
    strip_append_of_isTame h hBreak, strip_ending]

/-- A tame text on a line of its own is decorated by itself, painted or not. -/
theorem decorates_line (inUse : Bool) (colour : Colour) {text : Text} (h : IsTame text) :
    Decorates (paintIf inUse colour text ++ ['\n']) (text ++ ['\n']) := by
  have hLine : Decorates ['\n'] ['\n'] := Decorates.of_not_mem (by decide)
  cases inUse with
  | true => exact (decorates_paint colour h).append hLine
  | false =>
    intro rest
    have hBreak : IsBreak (['\n'] ++ rest) := by
      intro c hc
      obtain rfl : '\n' = c := Option.some.inj hc
      decide
    rw [paintIf_false, List.append_assoc, strip_append_of_isTame h hBreak, hLine,
      List.append_assoc]

/-- A text without an escape is decorated by itself, painted or not. -/
theorem decorates_paintIf (inUse : Bool) (colour : Colour) {text : Text} (h : '\x1b' ∉ text) :
    Decorates (paintIf inUse colour text) text := by
  cases inUse with
  | true => exact decorates_paint colour (isTame_of_not_mem h)
  | false => exact Decorates.of_not_mem h

end Colour

/-! ## What a session prints -/

open Colour (IsTame Decorates)

/-- What is shown of a value has no escape in it. -/
theorem Layout.escape_not_mem_plain_write (x : Float) : '\x1b' ∉ plain.write x := by
  intro hMem
  by_cases hFinite : Binary64.isFinite x = true
  · exact absurd (toNat_of_mem_plain_write hFinite hMem).1 (by decide)
  · have hLarge : ¬ Binary64.magnitude x < Binary64.infinity := by
      simpa [Binary64.isFinite] using hFinite
    have hNonzero : Binary64.magnitude x ≠ 0 := by
      intro hZero
      rw [hZero] at hLarge
      exact hLarge (by decide)
    have hInfinite : plain.magnitudeText (Binary64.magnitude x) = "inf".toList := by
      rw [magnitudeText, if_neg hNonzero, if_neg hLarge]
    simp only [write, hInfinite] at hMem
    split at hMem
    · exact absurd hMem (by decide)
    · split at hMem <;> exact absurd hMem (by decide)

theorem Message.not_mem_toList_append {c : Char} {left right : String} (hLeft : c ∉ left.toList)
    (hRight : c ∉ right.toList) : c ∉ (left ++ right).toList := by
  rw [String.toList_append, List.mem_append, not_or]
  exact ⟨hLeft, hRight⟩

theorem Message.escape_not_mem_help : '\x1b' ∉ help.toList := by
  -- The kernel is slow to put strings together, so they are looked through line by line.
  unfold help
  repeat' with_reducible apply not_mem_toList_append
  all_goals decide +kernel

/-- No answer has an escape in it. -/
theorem Message.escape_not_mem_render {status : Status} {registers : Registers} {text : Text}
    (h : render status registers = some text) : '\x1b' ∉ text := by
  have hLabel {label : String} {x : Float} (hLabel : '\x1b' ∉ label.toList) :
      '\x1b' ∉ label.toList ++ Layout.plain.write x := by
    rw [List.mem_append, not_or]
    exact ⟨hLabel, Layout.escape_not_mem_plain_write x⟩
  have hInvalid : '\x1b' ∉ invalidInput.toList := by decide +kernel
  have hDivision : '\x1b' ∉ divisionByZero.toList := by decide +kernel
  cases status with
  | ok => exact Option.some.inj h ▸ hLabel (by decide)
  | memory => exact Option.some.inj h ▸ hLabel (by decide)
  | help => exact Option.some.inj h ▸ escape_not_mem_help
  | invalidInput => exact Option.some.inj h ▸ hInvalid
  | divisionByZero => exact Option.some.inj h ▸ hDivision
  | exit => cases h

/-- The warning about a line is tame, since what it quotes is in upper case. -/
theorem Message.isTame_truncation (text : Text) : IsTame (truncation (Line.ofText text).text) := by
  refine ⟨_, _, rfl, by decide +kernel, fun hMem => ?_⟩
  obtain hSpace | ⟨word, hWord, hMem⟩ := Text.mem_joinWords hMem
  · exact absurd hSpace (by decide)
  · have hLower := (Line.isCapital_of_mem_ofText hWord hMem).isLower_eq_false
    exact absurd hLower (by decide)

namespace Session

variable (inColour : Bool) (calculator : Calculator)

theorem decorates_greeting (quiet : Bool) :
    Decorates (greeting inColour quiet) (greeting false quiet) := by
  cases quiet with
  | true => exact Decorates.of_not_mem List.not_mem_nil
  | false =>
    have hGreeting : '\x1b' ∉ Message.greeting.toList := by decide +kernel
    exact Colour.decorates_line inColour Colour.greeting (Colour.isTame_of_not_mem hGreeting)

theorem decorates_warning (text : Text) :
    Decorates (warning inColour (calculator.enter text).2)
      (warning false (calculator.enter text).2) := by
  have hTruncation : (calculator.enter text).2.truncation = (Line.ofText text).truncation := rfl
  rw [warning, warning, hTruncation, Line.truncation]
  split
  · exact Decorates.of_not_mem List.not_mem_nil
  · rename_i kept hKept
    obtain ⟨_, hText⟩ := Option.ite_none_right_eq_some.mp hKept
    rw [← Option.some.inj hText]
    exact Colour.decorates_line inColour Colour.warning (Message.isTame_truncation text)

theorem decorates_answer (text : Text) :
    Decorates (answer inColour (calculator.enter text).2)
      (answer false (calculator.enter text).2) := by
  rw [answer, answer]
  cases hOutput : (calculator.enter text).2.output with
  | none => exact Decorates.of_not_mem List.not_mem_nil
  | some output =>
    have hNone : '\x1b' ∉ output := Message.escape_not_mem_render hOutput
    cases Colour.answer? (calculator.enter text).2.status with
    | none => exact Decorates.of_not_mem (by simpa using hNone)
    | some colour => exact Colour.decorates_line inColour colour (Colour.isTame_of_not_mem hNone)

end Session

/-- Two reactions that are the same but for colours. -/
inductive Reaction.Decorates : Reaction → Reaction → Prop where
  | resume {painted plain : Text} (hOutput : Colour.Decorates painted plain)
      (calculator : Calculator) :
      Reaction.Decorates (.resume painted calculator) (.resume plain calculator)
  | stop {painted plain : Text} (hOutput : Colour.Decorates painted plain) (exitCode : Nat) :
      Reaction.Decorates (.stop painted exitCode) (.stop plain exitCode)

namespace Session

/-- **One step**: a reaction in colours is the one without, decorated. -/
theorem decorates_react (inColour : Bool) (calculator : Calculator) (input : Input) :
    (react inColour calculator input).Decorates (react false calculator input) := by
  cases input with
  | line text =>
    have hOutput := (decorates_warning inColour calculator text).append
      (decorates_answer inColour calculator text)
    simp only [react]
    split
    · exact .stop hOutput 0
    · exact .resume hOutput _
  | interrupted => exact .resume (Decorates.of_not_mem List.not_mem_nil) calculator
  | unreadable => exact .stop (Decorates.of_not_mem List.not_mem_nil) 1
  | broken => exact .stop (Decorates.of_not_mem List.not_mem_nil) 101
  | endOfInput => exact .stop (Decorates.of_not_mem (by decide)) 0

/-- A session in colours is the one without, decorated step by step, and ends in the same way. -/
theorem decorates_run (inColour : Bool) (calculator : Calculator) (inputs : List Input) :
    List.Forall₂ Decorates (run inColour calculator inputs).1 (run false calculator inputs).1 ∧
      (run inColour calculator inputs).2 = (run false calculator inputs).2 := by
  induction inputs generalizing calculator with
  | nil => exact ⟨.cons (Decorates.of_not_mem (by decide)) .nil, rfl⟩
  | cons input rest ih =>
    have hReact := decorates_react inColour calculator input
    rw [run, run]
    generalize react inColour calculator input = painted at hReact
    generalize react false calculator input = plain at hReact
    cases hReact with
    | resume hOutput after => exact ⟨.cons hOutput (ih after).1, (ih after).2⟩
    | stop hOutput exitCode => exact ⟨.cons hOutput .nil, rfl⟩

end Session

/-! ## What a run prints -/

namespace Piped

variable {arguments : List Text} {options : Options}

theorem run_of_ok (hOptions : Options.ofArguments arguments = .ok options)
    (environment : Environment) (bytes : List UInt8) :
    run environment arguments bytes =
      let inColour := options.inColour environment.showsColour
      let session := Session.run inColour .initial (inputs bytes)
      (Session.greeting inColour options.quiet ++
        session.1.flatMap (prompt environment options ++ ·), session.2) := by
  simp only [run, hOptions, Session.transcript]

/-- What is printed before and after each prompt is decorated, so all of it is. -/
theorem decorates_run (hOptions : Options.ofArguments arguments = .ok options)
    (hPrompt : '\x1b' ∉ options.prompt) (showsPrompt : Bool) (bytes : List UInt8) :
    Decorates (run ⟨true, showsPrompt⟩ arguments bytes).1
        (run ⟨false, showsPrompt⟩ arguments bytes).1 ∧
      (run ⟨true, showsPrompt⟩ arguments bytes).2 =
        (run ⟨false, showsPrompt⟩ arguments bytes).2 := by
  have hPlain : options.inColour false = false := rfl
  have hPrompts : Decorates (prompt ⟨true, showsPrompt⟩ options)
      (prompt ⟨false, showsPrompt⟩ options) := by
    cases showsPrompt with
    | false => exact Decorates.of_not_mem List.not_mem_nil
    | true => exact Colour.decorates_paintIf _ Colour.prompt hPrompt
  obtain ⟨hSteps, hCode⟩ := Session.decorates_run (options.inColour true) .initial (inputs bytes)
  rw [run_of_ok hOptions, run_of_ok hOptions]
  refine ⟨(Session.decorates_greeting _ _).append ?_, hCode⟩
  rw [List.flatMap_def, List.flatMap_def]
  refine Decorates.flatten ?_
  rw [List.forall₂_map_left_iff, List.forall₂_map_right_iff]
  exact hSteps.imp fun _ _ hStep => hPrompts.append hStep

/-- **Colour is decoration.** Without the colour sequences the output of a run in colours is that of
the run without, on all input and whether or not prompts are shown, provided that the prompt has no
escape in it; and the exit code is the same. If colours are declined, none are there in the first
place, whatever the prompt. -/
theorem strip_run (hOptions : Options.ofArguments arguments = .ok options) (showsPrompt : Bool)
    (bytes : List UInt8) :
    let coloured := run ⟨true, showsPrompt⟩ arguments bytes
    let plain := run ⟨false, showsPrompt⟩ arguments bytes
    ('\x1b' ∉ options.prompt → Colour.strip coloured.1 = plain.1 ∧ coloured.2 = plain.2) ∧
      (options.noColor = true → coloured = plain) := by
  intro coloured plain
  constructor
  · intro hPrompt
    obtain ⟨hOutput, hCode⟩ := decorates_run hOptions hPrompt showsPrompt bytes
    exact ⟨hOutput.strip_eq, hCode⟩
  · intro hDeclined
    have hPlain (showsColour : Bool) : options.inColour showsColour = false := by
      rw [Options.inColour, hDeclined, Bool.not_true, Bool.and_false]
    simp only [coloured, plain, run_of_ok hOptions, prompt, hPlain]

/-- A line of four words, of which the first is a colour sequence as it is typed. -/
def colouredWords : List UInt8 := [27, 91, 51, 49, 109, 32, 49, 32, 50, 32, 51, 10]

/-- The warning quotes the sequence in upper case, so that only the colours of the session go. -/
theorem strip_run_colouredWords :
    Options.ofArguments ["-q".toList] = .ok ⟨false, true, "> ".toList⟩ ∧
      '\x1b' ∉ "> ".toList ∧
      Colour.strip (run ⟨true, true⟩ ["-q".toList] colouredWords).1 =
        (run ⟨false, true⟩ ["-q".toList] colouredWords).1 ∧
      Options.ofArguments ["--no-color".toList] = .ok ⟨true, false, "> ".toList⟩ ∧
      run ⟨true, true⟩ ["--no-color".toList] colouredWords =
        run ⟨false, true⟩ ["--no-color".toList] colouredWords := by
  have hQuiet : Options.ofArguments ["-q".toList] = .ok ⟨false, true, "> ".toList⟩ := rfl
  have hDeclined : Options.ofArguments ["--no-color".toList] = .ok ⟨true, false, "> ".toList⟩ :=
    rfl
  have hPrompt : '\x1b' ∉ "> ".toList := by decide
  have hStrip := ((strip_run hQuiet true colouredWords).1 hPrompt).1
  exact ⟨hQuiet, hPrompt, hStrip, hDeclined,
    (strip_run hDeclined true colouredWords).2 rfl⟩

end Piped
end PocketCalc
