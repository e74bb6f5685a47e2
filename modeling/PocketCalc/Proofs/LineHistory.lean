import Mathlib.Data.List.Destutter
import PocketCalc.Proofs.TerminalSession

/-!
# The history is what was submitted

At every point of a session the history is the list of the lines that were submitted so far, less the
blank ones, and with one line for each run of equal ones (`Terminal.entries_eq_destutter`). A line is
submitted if it is handed over to the session, be it that it was typed or that it was brought back
from the history itself. The lines are therefore read off the inputs of the session (`sentLines`),
and the history is not asked for them.

That recalled lines are recorded again is harmless for two reasons. What is recorded is added to a
list of submitted lines all the same, so the invariant does not ask where a line came from
(`entries_historyAfter`). And what is brought back is an entry or the empty line, so that nothing gets
into the history that was not typed (`typed_of_mem_historyAfter`).

The history holds newest lines first and drops what is equal to the line before, which keeps the last
line of each run. Submitted lines in their own order are collapsed to the first line of each run.
That is the same list read backwards (`reverse_collapse`).
-/

namespace PocketCalc

/-! ## Runs of equal lines -/

/-- One more line at the end of a list begins a run of its own unless it equals the last one. -/
theorem destutter'_concat (first : Text) (texts : List Text) (text : Text) :
    (texts ++ [text]).destutter' (· ≠ ·) first =
      if (first :: texts).getLast? = some text then texts.destutter' (· ≠ ·) first
      else texts.destutter' (· ≠ ·) first ++ [text] := by
  induction texts generalizing first with
  | nil => by_cases hSame : first = text <;> simp [hSame]
  | cons second rest ih =>
    rw [List.cons_append, List.getLast?_cons_cons]
    by_cases hRun : first = second
    · subst hRun
      rw [List.destutter'_cons_neg _ (not_not.mpr rfl), List.destutter'_cons_neg _ (not_not.mpr rfl)]
      exact ih first
    · rw [List.destutter'_cons_pos _ hRun, List.destutter'_cons_pos _ hRun, ih second]
      split <;> rfl

theorem destutter_concat (texts : List Text) (text : Text) :
    (texts ++ [text]).destutter (· ≠ ·) =
      if texts.getLast? = some text then texts.destutter (· ≠ ·)
      else texts.destutter (· ≠ ·) ++ [text] := by
  cases texts with
  | nil => rfl
  | cons first rest => exact destutter'_concat first rest text

/-- To collapse runs from the newest line on, or from the oldest one on, is the same. -/
theorem reverse_collapse (texts : List Text) :
    (collapse texts).reverse = texts.reverse.destutter (· ≠ ·) := by
  induction texts with
  | nil => rfl
  | cons text rest ih =>
    rw [collapse, List.reverse_cons, destutter_concat, List.getLast?_reverse, ← ih]
    split
    · rfl
    · rw [List.reverse_cons]

namespace History

/-- What one step back leads to is an entry already, or blank. -/
theorem add_back_one (history : History) : history.add (history.back 1) = history := by
  rw [back_one, add]
  obtain ⟨_ | ⟨newest, older⟩⟩ := history
  · exact if_pos (.inl rfl)
  · exact if_pos (.inr rfl)

theorem back_eq_nil_or_mem (history : History) (steps : Nat) :
    history.back steps = [] ∨ history.back steps ∈ history.entries := by
  rw [back]
  cases hLast : (history.entries.take steps).getLast? with
  | none => exact .inl rfl
  | some text => exact .inr (List.mem_of_mem_take (List.mem_of_getLast? hLast))

theorem mem_add {history : History} {text entry : Text} (h : entry ∈ (history.add text).entries) :
    entry ∈ history.entries ∨ entry = text ∧ Text.isAllBlank text = false := by
  rw [add] at h
  split at h
  · exact .inl h
  · rename_i hNew
    obtain ⟨hBlank, _⟩ := not_or.mp hNew
    obtain rfl | hOld := List.mem_cons.mp (List.mem_of_mem_take h)
    · exact .inr ⟨rfl, Bool.eq_false_iff.mpr hBlank⟩
    · exact .inl hOld

end History

/-- A key records no text that it does not type. -/
theorem Key.mem_remember {history : History} {key : Key} {entry : Text}
    (h : entry ∈ (key.remember history).entries) :
    entry ∈ history.entries ∨ ∃ text, key = .line text ∧ typed text = entry := by
  cases key with
  | line text =>
    obtain hOld | ⟨rfl, _⟩ := History.mem_add h
    · exact .inl hOld
    · exact .inr ⟨text, rfl, rfl⟩
  | back steps =>
    obtain hOld | ⟨rfl, hText⟩ := History.mem_add h
    · exact .inl hOld
    · obtain hNil | hOld := history.back_eq_nil_or_mem steps
      · rw [hNil] at hText
        cases hText
      · exact .inl hOld
  | interrupt _ => exact .inl h
  | endOfInput => exact .inl h

/-- The line that a session is handed, if it is handed one. -/
def Input.line? : Input → Option Text
  | line text => some text
  | interrupted | unreadable | broken | endOfInput => none

theorem Key.line?_input (history : History) (key : Key) :
    (key.input history).line? = key.sent? history := by
  cases key <;> rfl

namespace Terminal

/-! ## A session up to some point -/

/-- The history that keys leave behind. -/
def historyAfter (history : History) : List Key → History
  | [] => history
  | key :: rest => historyAfter (key.remember history) rest

/-- The lines that keys hand over to the session, in order. -/
def sentLines (history : History) (keys : List Key) : List Text :=
  (inputs history keys).filterMap Input.line?

/-- Later keys find the history that earlier ones leave behind. -/
theorem inputs_append (history : History) (keys later : List Key) :
    inputs history (keys ++ later) =
      inputs history keys ++ inputs (historyAfter history keys) later := by
  induction keys generalizing history with
  | nil => rfl
  | cons key rest ih =>
    rw [List.cons_append, inputs, inputs, ih, List.cons_append]
    rfl

/-- **The invariant of a session**: the newest lines that can be brought back, of all that were
submitted, are what the history holds. -/
theorem entries_historyAfter {history : History} {sent : List Text}
    (h : history.entries = (recallable sent).take History.capacity) (keys : List Key) :
    (historyAfter history keys).entries =
      (recallable ((sentLines history keys).reverse ++ sent)).take History.capacity := by
  induction keys generalizing history sent with
  | nil => exact h
  | cons key rest ih =>
    rw [historyAfter, sentLines, inputs, List.filterMap_cons, key.line?_input]
    cases hSent : key.sent? history with
    | none =>
      have hKept : key.remember history = history := by rw [Key.remember, hSent]
      rw [hKept]
      exact ih h
    | some text =>
      have hAdded : key.remember history = history.add text := by rw [Key.remember, hSent]
      rw [hAdded, ih (History.entries_add h text), List.reverse_cons, List.append_assoc]
      rfl

theorem typed_of_mem_historyAfter {history : History} {keys : List Key} {entry : Text}
    (h : entry ∈ (historyAfter history keys).entries) :
    entry ∈ history.entries ∨ ∃ text, Key.line text ∈ keys ∧ Key.typed text = entry := by
  induction keys generalizing history with
  | nil => exact .inl h
  | cons key rest ih =>
    obtain hStep | ⟨text, hMem, hText⟩ := ih h
    · obtain hOld | ⟨text, rfl, hText⟩ := Key.mem_remember hStep
      · exact .inl hOld
      · exact .inr ⟨text, List.mem_cons_self .., hText⟩
    · exact .inr ⟨text, List.mem_cons_of_mem _ hMem, hText⟩

/-- A line that is given up is not recorded. -/
theorem historyAfter_filter (history : History) (keys : List Key) :
    historyAfter history (keys.filter (!·.isInterrupt)) = historyAfter history keys := by
  induction keys generalizing history with
  | nil => rfl
  | cons key rest ih =>
    cases key with
    | interrupt _ => exact ih history
    | line _ => exact ih _
    | back _ => exact ih _
    | endOfInput => exact ih _

/-! ## The session -/

section

variable {keys : List Key} (hMany : (sentLines .empty keys).length ≤ 100)
include hMany

theorem entries_eq_recallable :
    (historyAfter .empty keys).entries = recallable (sentLines .empty keys).reverse := by
  have hEntries : History.empty.entries = (recallable []).take History.capacity := rfl
  have hFew : (recallable (sentLines .empty keys).reverse).length ≤ History.capacity := by
    have hLength := (recallable_sublist (sentLines .empty keys).reverse).length_le
    rw [List.length_reverse] at hLength
    exact Nat.le_trans hLength hMany
  rw [entries_historyAfter hEntries, List.append_nil, List.take_of_length_le hFew]

theorem reverse_entries :
    (historyAfter .empty keys).entries.reverse =
      ((sentLines .empty keys).filter (!Text.isAllBlank ·)).destutter (· ≠ ·) := by
  rw [entries_eq_recallable hMany, recallable, reverse_collapse, List.filter_reverse,
    List.reverse_reverse]

theorem head?_entries :
    (historyAfter .empty keys).entries.head? =
      ((sentLines .empty keys).filter (!Text.isAllBlank ·)).getLast? := by
  rw [entries_eq_recallable hMany, recallable, head?_collapse, List.filter_reverse,
    List.head?_reverse]

/-- **The history is what was submitted**, less the blank lines and with each run of equal lines
collapsed to one. These are all the lines that the session was handed so far, and it is this history
that the next keys find. So no entry is blank and no two neighbours are equal, every entry was once
typed and sent, and keys that give up a line could as well not have been there. A text without control
characters is submitted as it is typed, and the entry is this text. One step back leads to the latest
line that is not blank, or to the empty line if there is none, and to submit it leaves the history as
it is. -/
theorem entries_eq_destutter :
    let history := historyAfter .empty keys
    let lines := (sentLines .empty keys).filter (!Text.isAllBlank ·)
    history.entries.reverse = lines.destutter (· ≠ ·) ∧
      (∀ later, inputs .empty (keys ++ later) = inputs .empty keys ++ inputs history later) ∧
      (∀ entry ∈ history.entries, Text.isAllBlank entry = false) ∧
      history.entries.IsChain (· ≠ ·) ∧
      (∀ entry ∈ history.entries, ∃ text, Key.line text ∈ keys ∧ Key.typed text = entry ∧
        ((∀ c ∈ text, isControl c = false) → text = entry)) ∧
      (∀ text, (∀ c ∈ text, isControl c = false) →
        ∀ earlier, (Key.line text).input earlier = .line text) ∧
      historyAfter .empty (keys.filter (!·.isInterrupt)) = history ∧
      (Key.back 1).input history = .line (lines.getLast?.getD []) ∧
      (Key.back 1).remember history = history := by
  intro history lines
  have hEntries : history.entries.reverse = lines.destutter (· ≠ ·) := reverse_entries hMany
  refine ⟨hEntries, inputs_append .empty keys, fun entry hMem => ?_, ?_, fun entry hMem => ?_,
    fun text hText earlier => ?_, historyAfter_filter .empty keys, ?_, history.add_back_one⟩
  · have hLine : entry ∈ lines := by
      rw [← List.mem_reverse, hEntries] at hMem
      exact (List.destutter_sublist _ lines).subset hMem
    simpa using (List.mem_filter.mp hLine).2
  · have hChain : history.entries.reverse.IsChain (· ≠ ·) := by
      rw [hEntries]
      exact List.isChain_destutter _ lines
    exact (List.isChain_reverse.mp hChain).imp fun _ _ hNe => hNe.symm
  · obtain hNone | ⟨text, hKey, hTyped⟩ := typed_of_mem_historyAfter hMem
    · cases hNone
    · exact ⟨text, hKey, hTyped, fun hText => (typed_eq_self_of_isControl hText).symm.trans hTyped⟩
  · rw [Key.input, typed_eq_self_of_isControl hText]
  · show Input.line (history.back 1) = _
    rw [History.back_one, head?_entries hMany]

end

/-- The same line three times, with a blank one, one that was given up and itself in between. -/
def sameLineThrice : List Key :=
  [.line "mr".toList, .line " ".toList, .line "mr".toList, .interrupt "1 + 1".toList, .back 7,
    .line "help".toList, .back 2]

theorem entries_sameLineThrice :
    (sentLines .empty sameLineThrice).length ≤ 100 ∧
      (historyAfter .empty sameLineThrice).entries.reverse =
        ["mr".toList, "help".toList, "mr".toList] ∧
      (Key.back 1).input (historyAfter .empty sameLineThrice) = .line "mr".toList := by
  have hMany : (sentLines .empty sameLineThrice).length ≤ 100 := by decide
  have hLines : (sentLines .empty sameLineThrice).filter (!Text.isAllBlank ·) =
      ["mr".toList, "mr".toList, "mr".toList, "help".toList, "mr".toList] := by decide
  obtain ⟨hEntries, _, _, _, _, _, _, hNewest, _⟩ := entries_eq_destutter hMany
  rw [hLines] at hEntries hNewest
  exact ⟨hMany, hEntries, hNewest⟩

end Terminal
end PocketCalc
