import PocketCalc.Text.Cluster

/-!
# Backspaces within a line

A line that was not edited while it was typed can hold backspaces. Each takes away what was
entered before it and not taken away yet, one cluster at a time. A backspace is a cluster of its
own, whatever stands beside it, so the line is cut into clusters once and for all, and the
clusters are entered into a `Draft` one after the other.

A draft records of each cluster no more than its size in bytes of UTF-8, and has one byte for
that. So a cluster of 256 bytes or more is not taken away as a whole: the recorded size is the
remainder, and only as many bytes go, from the end. If they end within a scalar, the draft is no
text any longer and there is no way on. `applyBackspaces?_eq_some` says that a line without
backspaces is left as it is.
-/

namespace PocketCalc.Text

def backspace : Char := '\x08'

/-- The size of a cluster as it is recorded. -/
def recordedSize (cluster : Text) : Nat :=
  cluster.foldl (fun size c => size + c.utf8Size) 0 % 256

/-- What is left of scalars, last first, when so many bytes are taken away from their end. There
is no answer if the bytes end within a scalar. -/
def dropBytes? : Nat → List Char → Option (List Char)
  | 0, kept => some kept
  | _ + 1, [] => none
  | size + 1, c :: kept =>
    if c.utf8Size ≤ size + 1 then dropBytes? (size + 1 - c.utf8Size) kept else none

/-- A line of which some clusters have been entered. -/
structure Draft where
  /-- The scalars that are kept, last first. -/
  kept : List Char
  /-- The recorded sizes of the clusters that can be taken away, last first. -/
  sizes : List Nat
  deriving Repr, DecidableEq

namespace Draft

def empty : Draft := ⟨[], []⟩

/-- The draft after one more cluster. A backspace at the start has no effect. -/
def enter? (draft : Draft) (cluster : Text) : Option Draft :=
  if cluster = [backspace] then
    match draft.sizes with
    | [] => some draft
    | size :: sizes => (dropBytes? size draft.kept).map fun kept => { kept, sizes }
  else
    some { kept := cluster.reverse ++ draft.kept, sizes := recordedSize cluster :: draft.sizes }

/-- Without a backspace among them all clusters are kept. -/
theorem kept_foldlM_enter? {cut : List Text} (h : [backspace] ∉ cut) (draft : Draft) :
    (cut.foldlM enter? draft).map Draft.kept = some (cut.flatten.reverse ++ draft.kept) := by
  induction cut generalizing draft with
  | nil => rfl
  | cons cluster rest ih =>
    rw [List.mem_cons, not_or] at h
    simp [enter?, Ne.symm h.1, ih h.2]

end Draft

/-- What the backspaces in a text leave of it, if that is a text. -/
def applyBackspaces? (text : Text) : Option Text :=
  ((clusters text).foldlM Draft.enter? .empty).map fun draft => draft.kept.reverse

/-- No cluster is a backspace where there is none. -/
theorem not_mem_clusters {text : Text} (h : backspace ∉ text) : [backspace] ∉ clusters text := by
  intro hMem
  apply h
  rw [← flatten_clusters text]
  exact List.mem_flatten.mpr ⟨[backspace], hMem, List.mem_singleton.mpr rfl⟩

/-- A text without a backspace is left as it is. -/
theorem applyBackspaces?_eq_some {text : Text} (h : backspace ∉ text) :
    applyBackspaces? text = some text := by
  have hKept := congrArg (Option.map List.reverse)
    (Draft.kept_foldlM_enter? (not_mem_clusters h) .empty)
  simpa [applyBackspaces?, Draft.empty, Function.comp_def] using hKept

end PocketCalc.Text
