import PocketCalc.Console.Terminal
import PocketCalc.Proofs.RawLines

/-!
# A session at a terminal is a piped session

Keys come down to the lines that they submit: a line as it was typed, a line as it was brought
back, and nothing for a line that was given up. `submitted` lists them, up to the end of the input
or the first line that asks for the exit. `run_eq_piped_run` says that the output of the terminal,
taken as a whole, is the output of the same program on these lines in a pipe.

## The history, seen from the lines

What can be brought back is a function of what was submitted before: the lines that are not blank,
and of equal ones in a row only one (`recallable`). The history that the terminal keeps has no
other source. It is a part of that list, as many of its newest lines as there is room for
(`entries_add`), and so all of it as long as no more lines than that were submitted.

So both sessions can be followed side by side, with the submitted lines in one hand and the history
in the other. Whatever is brought back was typed before, so that no submitted line has a control
character in it, and none of them is changed by going through a pipe.
-/

namespace PocketCalc

/-! ## What can be brought back -/

/-- Of equal lines in a row, one. -/
def collapse : List Text → List Text
  | [] => []
  | text :: rest => if rest.head? = some text then collapse rest else text :: collapse rest

/-- The lines that can be brought back after lines were submitted, newest first as these are. -/
def recallable (sent : List Text) : List Text := collapse (sent.filter (!Text.isAllBlank ·))

/-- The line that so many steps back lead to after lines were submitted, newest first: the oldest
one if there are fewer to bring back, and the empty one if there is none or no step was taken. -/
def recalled (sent : List Text) (steps : Nat) : Text :=
  if steps = 0 then []
  else ((recallable sent)[min steps (recallable sent).length - 1]?).getD []

theorem head?_collapse (texts : List Text) : (collapse texts).head? = texts.head? := by
  induction texts with
  | nil => rfl
  | cons text rest ih =>
    rw [collapse]
    split
    · rename_i hHead
      rw [ih, hHead, List.head?_cons]
    · rfl

theorem collapse_sublist (texts : List Text) : (collapse texts).Sublist texts := by
  induction texts with
  | nil => exact List.Sublist.refl _
  | cons text rest ih =>
    rw [collapse]
    split
    · exact ih.cons _
    · exact ih.cons_cons _

theorem recallable_sublist (sent : List Text) : (recallable sent).Sublist sent :=
  (collapse_sublist _).trans List.filter_sublist

/-- What is brought back was submitted, or nothing is. -/
theorem recalled_eq_nil_or_mem (sent : List Text) (steps : Nat) :
    recalled sent steps = [] ∨ recalled sent steps ∈ sent := by
  rw [recalled]
  split
  · exact .inl rfl
  · cases hEntry : (recallable sent)[min steps (recallable sent).length - 1]? with
    | none => exact .inl rfl
    | some text => exact .inr ((recallable_sublist sent).subset (List.mem_of_getElem? hEntry))

namespace History

/-- One step: the newest lines that can be brought back stay what the history holds. -/
theorem entries_add {history : History} {sent : List Text}
    (h : history.entries = (recallable sent).take capacity) (text : Text) :
    (history.add text).entries = (recallable (text :: sent)).take capacity := by
  have hHead : history.entries.head? = (sent.filter (!Text.isAllBlank ·)).head? := by
    rw [h, List.head?_take, if_neg (by decide), recallable, head?_collapse]
  rw [add, hHead, recallable]
  by_cases hBlank : Text.isAllBlank text = true
  · rw [if_pos (.inl hBlank), List.filter_cons_of_neg (by simp [hBlank])]
    exact h
  · rw [List.filter_cons_of_pos (by simp [hBlank]), collapse]
    by_cases hSame : (sent.filter (!Text.isAllBlank ·)).head? = some text
    · rw [if_pos (.inr hSame), if_pos hSame]
      exact h
    · have hNew : ¬ (Text.isAllBlank text = true ∨
          (sent.filter (!Text.isAllBlank ·)).head? = some text) := not_or.mpr ⟨hBlank, hSame⟩
      rw [if_neg hNew, if_neg hSame, h]
      simp [recallable, List.take_take, capacity]

theorem back_eq_recalled {history : History} {sent : List Text}
    (h : history.entries = (recallable sent).take capacity) (hFew : sent.length ≤ capacity)
    (steps : Nat) : history.back steps = recalled sent steps := by
  have hLength : (recallable sent).length ≤ capacity :=
    Nat.le_trans (recallable_sublist sent).length_le hFew
  rw [List.take_of_length_le hLength] at h
  rw [back, recalled, h, List.getLast?_eq_getElem?, List.length_take]
  split
  · rename_i hZero
    simp [hZero]
  · rename_i hSteps
    rw [List.getElem?_take_of_lt (by omega)]

end History

/-! ## What is submitted -/

/-- A character that is no part of a text but asks for something. -/
def isControl (c : Char) : Bool := c.toNat < 0x20 || (0x7F ≤ c.toNat && c.toNat < 0xA0)

namespace Key

def isInterrupt : Key → Bool
  | interrupt _ => true
  | line _ | back _ | endOfInput => false

/-- The line that a key submits, if others were submitted before. -/
def submits? (sent : List Text) : Key → Option Text
  | line text => some text
  | back steps => some (recalled sent steps)
  | interrupt _ | endOfInput => none

end Key

namespace Terminal

/-- The lines that keys submit to a calculator after others, which are given newest first. The end
of the input ends them, and so does a line that asks for the exit. -/
def submittedFrom (calculator : Calculator) (sent : List Text) : List Key → List Text
  | [] => []
  | key :: rest =>
    match key.submits? sent with
    | none => if key = .endOfInput then [] else submittedFrom calculator sent rest
    | some text =>
      text ::
        if (calculator.enter text).2.status = .exit then []
        else submittedFrom (calculator.enter text).1 (text :: sent) rest

/-- The lines that keys submit in a session. -/
def submitted (keys : List Key) : List Text := submittedFrom .initial [] keys

/-- Each key with what is printed for it. The end of the input comes after the last key. -/
def printed (keys : List Key) (steps : List Text) : List (Key × Text) :=
  (keys ++ [Key.endOfInput]).zip steps

theorem typed_eq_self_of_isControl {text : Text} (h : ∀ c ∈ text, isControl c = false) :
    Key.typed text = text := by
  refine Key.typed_eq_self fun c hc => ?_
  have hControl := h c hc
  simp only [isControl, Key.isIdle, Bool.or_eq_false_iff, Bool.and_eq_false_iff,
    decide_eq_false_iff_not] at hControl ⊢
  omega

theorem not_mem_of_isControl {text : Text} (h : ∀ c ∈ text, isControl c = false) {c : Char}
    (hc : isControl c = true) : c ∉ text := by
  intro hMem
  rw [h c hMem] at hc
  cases hc

/-- Submitted lines are typed ones, also those that were brought back. -/
theorem isControl_of_mem_submittedFrom {calculator : Calculator} {sent : List Text}
    {keys : List Key} (hSent : ∀ text ∈ sent, ∀ c ∈ text, isControl c = false)
    (hTyped : ∀ text, Key.line text ∈ keys → ∀ c ∈ text, isControl c = false) :
    ∀ text ∈ submittedFrom calculator sent keys, ∀ c ∈ text, isControl c = false := by
  induction keys generalizing calculator sent with
  | nil => nofun
  | cons key rest ih =>
    have hRest : ∀ text, Key.line text ∈ rest → ∀ c ∈ text, isControl c = false :=
      fun text hMem => hTyped text (List.mem_cons_of_mem _ hMem)
    rw [submittedFrom]
    cases hKey : key.submits? sent with
    | none =>
      simp only
      split
      · nofun
      · exact ih hSent hRest
    | some text =>
      have hText : ∀ c ∈ text, isControl c = false := by
        cases key with
        | line typed =>
          cases hKey
          exact hTyped text (List.mem_cons_self ..)
        | back steps =>
          cases hKey
          obtain hNil | hMem := recalled_eq_nil_or_mem sent steps
          · simp [hNil]
          · exact hSent _ hMem
        | interrupt _ => cases hKey
        | endOfInput => cases hKey
      simp only [List.forall_mem_cons]
      refine ⟨hText, ?_⟩
      split
      · nofun
      · exact ih (List.forall_mem_cons.mpr ⟨hText, hSent⟩) hRest

/-! ## Two sessions side by side -/

/-- A key that submits a line is that line to the session, and to the history. -/
theorem input_of_submits? {history : History} {sent : List Text} {key : Key} {text : Text}
    (hEntries : history.entries = (recallable sent).take History.capacity)
    (hFew : sent.length ≤ History.capacity)
    (hTyped : ∀ text, key = .line text → ∀ c ∈ text, isControl c = false)
    (h : key.submits? sent = some text) :
    key.input history = .line text ∧ key.remember history = history.add text := by
  cases key with
  | line typed =>
    cases h
    have hText := typed_eq_self_of_isControl (hTyped text rfl)
    simp [Key.input, Key.remember, Key.sent?, hText]
  | back steps =>
    cases h
    have hText := History.back_eq_recalled hEntries hFew steps
    simp [Key.input, Key.remember, Key.sent?, hText]
  | interrupt _ => cases h
  | endOfInput => cases h

/-- **Keys are the lines that they submit**: the same is printed in all, and the session ends in the
same way. -/
theorem run_inputs_eq_submittedFrom (inColour : Bool) {calculator : Calculator}
    {history : History} {sent : List Text} {keys : List Key}
    (hEntries : history.entries = (recallable sent).take History.capacity)
    (hTyped : ∀ text, Key.line text ∈ keys → ∀ c ∈ text, isControl c = false)
    (hMany : sent.length + (submittedFrom calculator sent keys).length ≤ History.capacity) :
    let keyed := Session.run inColour calculator (inputs history keys)
    let lined := Session.run inColour calculator ((submittedFrom calculator sent keys).map .line)
    keyed.1.flatten = lined.1.flatten ∧ keyed.2 = lined.2 := by
  induction keys generalizing calculator history sent with
  | nil => exact ⟨rfl, rfl⟩
  | cons key rest ih =>
    have hRest : ∀ text, Key.line text ∈ rest → ∀ c ∈ text, isControl c = false :=
      fun text hMem => hTyped text (List.mem_cons_of_mem _ hMem)
    rw [submittedFrom] at hMany ⊢
    rw [inputs]
    cases hKey : key.submits? sent with
    | some text =>
      simp only [hKey, List.length_cons] at hMany
      obtain ⟨hInput, hRemember⟩ := input_of_submits? hEntries (by omega)
        (fun text hSame => hTyped text (hSame ▸ List.mem_cons_self ..)) hKey
      simp only [hInput, hRemember, List.map_cons, Session.run, Session.react]
      by_cases hExit : (calculator.enter text).2.status = .exit
      · simp [hExit]
      · simp only [if_neg hExit] at hMany ⊢
        have hFew : (text :: sent).length +
            (submittedFrom (calculator.enter text).1 (text :: sent) rest).length ≤
              History.capacity := by
          simp only [List.length_cons]
          omega
        have hNext := ih (History.entries_add hEntries text) hRest hFew
        simp only [List.flatten_cons, hNext.1, hNext.2, and_self]
    | none =>
      cases key with
      | line _ => cases hKey
      | back _ => cases hKey
      | endOfInput => exact ⟨rfl, rfl⟩
      | interrupt _ =>
        simp only [hKey] at hMany
        exact ih hEntries hRest hMany

/-- A line that is given up leaves no trace, neither in what is printed for the other keys nor in
the way the session ends. -/
theorem run_inputs_filter (inColour : Bool) (calculator : Calculator) (history : History)
    (keys : List Key) :
    let others := keys.filter (!·.isInterrupt)
    let keyed := Session.run inColour calculator (inputs history keys)
    let undisturbed := Session.run inColour calculator (inputs history others)
    (printed keys keyed.1).filter (!·.1.isInterrupt) = printed others undisturbed.1 ∧
      keyed.2 = undisturbed.2 := by
  induction keys generalizing calculator history with
  | nil => exact ⟨rfl, rfl⟩
  | cons key rest ih =>
    by_cases hInterrupt : key.isInterrupt = true
    · cases key with
      | interrupt text => exact ih calculator history
      | _ => cases hInterrupt
    · have hKeep : (!key.isInterrupt) = true := by simpa using hInterrupt
      have hOthers : (key :: rest).filter (!·.isInterrupt) =
          key :: rest.filter (!·.isInterrupt) := by simp [hKeep]
      rw [hOthers]
      simp only [printed, inputs, List.cons_append, Session.run]
      cases Session.react inColour calculator (key.input history) with
      | stop output exitCode => simp [hKeep]
      | resume output after =>
        have hNext := ih after (key.remember history)
        simp only [printed] at hNext
        simp only [List.zip_cons_cons, List.filter_cons, hKeep, if_true, hNext.1, hNext.2, and_self]

/-! ## The session -/

theorem inputs_encodeLines_submitted {keys : List Key}
    (hTyped : ∀ text, Key.line text ∈ keys → ∀ c ∈ text, isControl c = false) :
    Piped.inputs (Piped.encodeLines (submitted keys)) = (submitted keys).map .line := by
  refine Piped.inputs_encodeLines fun text hMem => ?_
  have hNone : ∀ earlier ∈ ([] : List Text), ∀ c ∈ earlier, isControl c = false := nofun
  have hText := isControl_of_mem_submittedFrom hNone hTyped text hMem
  exact ⟨not_mem_of_isControl hText (by decide), not_mem_of_isControl hText (by decide),
    not_mem_of_isControl hText (by decide)⟩

/-- **A session at a terminal is a piped session**: on the lines that the keys submit, the same is
printed in all and the exit code is the same. Keys that give up a line can be left out, and what is
printed for each of the others stays as it is. -/
theorem run_eq_piped_run (showsColour : Bool) (arguments : List Text) (keys : List Key)
    (hTyped : ∀ text, Key.line text ∈ keys → ∀ c ∈ text, isControl c = false)
    (hMany : (submitted keys).length ≤ 100) :
    let terminal := run showsColour arguments keys
    let others := keys.filter (!·.isInterrupt)
    let undisturbed := run showsColour arguments others
    (terminal.start ++ terminal.steps.flatten, terminal.exitCode) =
        Piped.run ⟨showsColour, false⟩ arguments (Piped.encodeLines (submitted keys)) ∧
      undisturbed.start = terminal.start ∧
      (printed keys terminal.steps).filter (!·.1.isInterrupt) =
        printed others undisturbed.steps ∧
      undisturbed.exitCode = terminal.exitCode := by
  intro terminal others undisturbed
  cases hOptions : Options.ofArguments arguments with
  | error reason =>
    simp [terminal, undisturbed, run, Piped.run, hOptions, Transcript.ofHalt, printed]
  | ok options =>
    have hEntries : History.empty.entries = (recallable []).take History.capacity := rfl
    have hFew : ([] : List Text).length + (submittedFrom .initial [] keys).length ≤
        History.capacity := by
      rw [List.length_nil, Nat.zero_add]
      exact hMany
    have hSame := run_inputs_eq_submittedFrom (options.inColour showsColour) hEntries hTyped hFew
    have hOthers := run_inputs_filter (options.inColour showsColour) .initial .empty keys
    simp only [terminal, undisturbed, run, Piped.run, hOptions, Session.transcript,
      inputs_encodeLines_submitted hTyped, Piped.prompt]
    refine ⟨?_, trivial, hOthers.1, hOthers.2.symm⟩
    rw [hSame.1, hSame.2]
    simp [submitted, List.flatMap_def]

/-- A line is sent, another is given up, the first is brought back, and the exit is asked for. -/
def helpTwice : List Key :=
  [.line "help".toList, .interrupt "1 + 1".toList, .back 1, .line "exit".toList, .line "mr".toList]

theorem run_helpTwice :
    (∀ text, Key.line text ∈ helpTwice → ∀ c ∈ text, isControl c = false) ∧
      submitted helpTwice = ["help".toList, "help".toList, "exit".toList] ∧
      ((run true [] helpTwice).start ++ (run true [] helpTwice).steps.flatten,
          (run true [] helpTwice).exitCode) =
        Piped.run ⟨true, false⟩ []
          (Piped.encodeLines ["help".toList, "help".toList, "exit".toList]) := by
  have hAll {text : Text} (h : text.all (!isControl ·) = true) :
      ∀ c ∈ text, isControl c = false := by
    simpa using h
  have hTyped : ∀ text, Key.line text ∈ helpTwice → ∀ c ∈ text, isControl c = false := by
    intro text hMem
    simp only [helpTwice, List.mem_cons, Key.line.injEq, List.not_mem_nil, or_false, reduceCtorEq,
      false_or] at hMem
    rcases hMem with rfl | rfl | rfl <;> exact hAll (by decide)
  have hSubmitted : submitted helpTwice = ["help".toList, "help".toList, "exit".toList] := by
    decide +kernel
  have hPiped := run_eq_piped_run true [] helpTwice hTyped (by rw [hSubmitted]; decide)
  rw [hSubmitted] at hPiped
  exact ⟨hTyped, hSubmitted, hPiped.1⟩

end Terminal
end PocketCalc
