import PocketCalc.Text.Backspace

/-!
# What backspaces leave of a line

The draft of a line keeps sizes in bytes, and takes that many bytes away when a backspace comes.
Seen from outside a backspace takes away a cluster: the draft is a stack of clusters, a backspace
pops it, and `erase` is what is left in the end.

The two views agree as long as the size of every cluster that is taken away was kept in full
(`IsErasable`), and only then (`applyBackspaces?_eq_some_erase_iff`): bytes that a backspace leaves
behind are never made up for, so the draft is too large in the end. What is not taken away may be of
any size.
-/

namespace PocketCalc.Text

/-- The size of a text in bytes. -/
def byteSize : Text → Nat
  | [] => 0
  | c :: rest => c.utf8Size + byteSize rest

/-- The clusters that are left, last first, after one more cluster. -/
def eraseStep (kept : List Text) (cluster : Text) : List Text :=
  if cluster = [backspace] then kept.tail else cluster :: kept

/-- A text in which every backspace has taken away itself and the cluster before it. -/
def erase (text : Text) : Text := ((clusters text).foldl eraseStep []).reverse.flatten

/-- The clusters that backspaces take away, in order, from those that are kept and those that come. -/
def taken : List Text → List Text → List Text
  | _, [] => []
  | kept, cluster :: rest =>
    (if cluster = [backspace] then kept.head?.toList else []) ++ taken (eraseStep kept cluster) rest

/-- Whether every cluster that is taken away has a size that was kept in full. -/
def IsErasable (text : Text) : Prop :=
  ∀ cluster ∈ taken [] (clusters text), byteSize cluster < 256

instance (text : Text) : Decidable (IsErasable text) := by
  unfold IsErasable
  infer_instance

/-! ## Sizes -/

theorem byteSize_append (left right : Text) :
    byteSize (left ++ right) = byteSize left + byteSize right := by
  induction left with
  | nil => simp [byteSize]
  | cons c rest ih =>
    simp only [List.cons_append, byteSize, ih]
    omega

theorem byteSize_reverse (text : Text) : byteSize text.reverse = byteSize text := by
  induction text with
  | nil => rfl
  | cons c rest ih =>
    rw [List.reverse_cons, byteSize_append, ih]
    simp only [byteSize]
    omega

theorem foldl_utf8Size (size : Nat) (text : Text) :
    text.foldl (fun size c => size + c.utf8Size) size = size + byteSize text := by
  induction text generalizing size with
  | nil => rfl
  | cons c rest ih =>
    simp only [List.foldl_cons, ih, byteSize]
    omega

theorem recordedSize_eq_mod (cluster : Text) : recordedSize cluster = byteSize cluster % 256 := by
  rw [recordedSize, foldl_utf8Size, Nat.zero_add]

/-- As many bytes as a text has are that text. -/
theorem dropBytes?_append (text kept : List Char) :
    dropBytes? (byteSize text) (text ++ kept) = some kept := by
  induction text with
  | nil => cases kept <;> rfl
  | cons c rest ih =>
    have hPos : 0 < c.utf8Size := c.utf8Size_pos
    obtain ⟨size, hSize⟩ : ∃ size, byteSize (c :: rest) = size + 1 :=
      Nat.exists_eq_succ_of_ne_zero (by simp only [byteSize]; omega)
    have hLe : c.utf8Size ≤ size + 1 := by
      simp only [byteSize] at hSize
      omega
    have hRest : size + 1 - c.utf8Size = byteSize rest := by
      simp only [byteSize] at hSize
      omega
    rw [hSize, List.cons_append, dropBytes?, if_pos hLe, hRest, ih]

/-! ## The draft as a stack of clusters -/

namespace Draft

/-- The draft in which the given clusters are kept, last first. -/
def ofClusters (kept : List Text) : Draft := ⟨kept.flatMap List.reverse, kept.map recordedSize⟩

/-- One step: what a cluster does to the stack, it does to the draft. -/
theorem enter?_ofClusters {kept : List Text} {cluster : Text}
    (h : cluster = [backspace] → ∀ last ∈ kept.head?, byteSize last < 256) :
    (ofClusters kept).enter? cluster = some (ofClusters (eraseStep kept cluster)) := by
  rw [enter?, eraseStep]
  split
  · rename_i hBackspace
    cases kept with
    | nil => rfl
    | cons last kept =>
      have hSize : recordedSize last = byteSize last.reverse := by
        rw [recordedSize_eq_mod, byteSize_reverse, Nat.mod_eq_of_lt (h hBackspace last rfl)]
      simp only [ofClusters, List.map_cons, List.flatMap_cons, List.tail_cons]
      rw [hSize, dropBytes?_append]
      rfl
  · rfl

theorem foldlM_enter?_ofClusters {kept cut : List Text}
    (h : ∀ cluster ∈ taken kept cut, byteSize cluster < 256) :
    cut.foldlM enter? (ofClusters kept) = some (ofClusters (cut.foldl eraseStep kept)) := by
  induction cut generalizing kept with
  | nil => rfl
  | cons cluster rest ih =>
    rw [taken, List.forall_mem_append] at h
    obtain ⟨hTaken, hRest⟩ := h
    have hLast : cluster = [backspace] → ∀ last ∈ kept.head?, byteSize last < 256 := by
      intro hBackspace last hMem
      refine hTaken last ?_
      rwa [if_pos hBackspace, Option.mem_toList]
    rw [List.foldlM_cons, enter?_ofClusters hLast, List.foldl_cons]
    exact ih hRest

theorem reverse_kept_ofClusters (kept : List Text) :
    (ofClusters kept).kept.reverse = kept.reverse.flatten := by
  induction kept with
  | nil => rfl
  | cons last kept ih =>
    simp only [ofClusters] at ih ⊢
    simp [ih]

end Draft

/-! ## Lines -/

theorem foldl_eraseStep_of_not_mem {cut : List Text} (h : [backspace] ∉ cut) (kept : List Text) :
    cut.foldl eraseStep kept = cut.reverse ++ kept := by
  induction cut generalizing kept with
  | nil => rfl
  | cons cluster rest ih =>
    rw [List.mem_cons, not_or] at h
    rw [List.foldl_cons, eraseStep, if_neg (Ne.symm h.1), ih h.2]
    simp

/-- Where there is no backspace nothing is taken away. -/
theorem erase_eq_self {text : Text} (h : backspace ∉ text) : erase text = text := by
  rw [erase, foldl_eraseStep_of_not_mem (not_mem_clusters h)]
  simp

/-- **Backspaces take away clusters**, and break no line of which what they take away is small. -/
theorem applyBackspaces?_eq_some_erase {text : Text} (h : IsErasable text) :
    applyBackspaces? text = some (erase text) := by
  have hFold := Draft.foldlM_enter?_ofClusters h
  have hEmpty : Draft.ofClusters [] = .empty := rfl
  rw [hEmpty] at hFold
  rw [applyBackspaces?, hFold, Option.map_some, Draft.reverse_kept_ofClusters, erase]

/-! ## What is left behind -/

/-- As many bytes are missing as were to be taken away. -/
theorem byteSize_of_dropBytes? {size : Nat} {kept rest : List Char}
    (h : dropBytes? size kept = some rest) : byteSize kept = size + byteSize rest := by
  fun_induction dropBytes? size kept with
  | case1 kept =>
    cases h
    exact (Nat.zero_add _).symm
  | case2 => cases h
  | case3 size c kept hFits ih =>
    have hRest := ih h
    simp only [byteSize]
    omega
  | case4 => cases h

/-- By how many bytes the recorded sizes of clusters fall short. -/
def shortage : List Text → Nat
  | [] => 0
  | cluster :: rest => byteSize cluster - recordedSize cluster + shortage rest

theorem recordedSize_le (cluster : Text) : recordedSize cluster ≤ byteSize cluster := by
  rw [recordedSize_eq_mod]
  exact Nat.mod_le ..

theorem lt_of_shortage_eq_zero {taken : List Text} (h : shortage taken = 0) :
    ∀ cluster ∈ taken, byteSize cluster < 256 := by
  induction taken with
  | nil => exact fun _ hMem => absurd hMem List.not_mem_nil
  | cons cluster rest ih =>
    have hSize := recordedSize_eq_mod cluster
    have hLess := recordedSize_le cluster
    rw [shortage] at h
    exact List.forall_mem_cons.mpr ⟨by omega, ih (by omega)⟩

/-- What a draft has more than the stack of clusters is what the recorded sizes fall short by, of the
clusters that are taken away. -/
theorem byteSize_foldlM_enter? {cut stack : List Text} {draft final : Draft}
    (hSizes : draft.sizes = stack.map recordedSize) (h : cut.foldlM Draft.enter? draft = some final) :
    byteSize final.kept + byteSize (Draft.ofClusters stack).kept =
      byteSize draft.kept + byteSize (Draft.ofClusters (cut.foldl eraseStep stack)).kept +
        shortage (taken stack cut) := by
  induction cut generalizing stack draft with
  | nil =>
    cases h
    rfl
  | cons cluster rest ih =>
    obtain ⟨next, hEnter, hRest⟩ := Option.bind_eq_some_iff.mp h
    rw [Draft.enter?] at hEnter
    rw [taken, List.foldl_cons]
    by_cases hBackspace : cluster = [backspace]
    · rw [if_pos hBackspace, hSizes] at hEnter
      cases stack with
      | nil =>
        cases hEnter
        simp only [eraseStep, if_pos hBackspace] at ih ⊢
        exact ih hSizes hRest
      | cons last stack =>
        obtain ⟨kept, hDrop, rfl⟩ := Option.map_eq_some_iff.mp hEnter
        have hStep := ih rfl hRest
        have hDropped := byteSize_of_dropBytes? hDrop
        have hLess := recordedSize_le last
        simp only [eraseStep, if_pos hBackspace, List.tail_cons, List.head?_cons, Option.toList_some,
          List.singleton_append, shortage, Draft.ofClusters, List.flatMap_cons, byteSize_append,
          byteSize_reverse] at hStep ⊢
        omega
    · rw [if_neg hBackspace] at hEnter
      cases hEnter
      have hNext : recordedSize cluster :: draft.sizes = (cluster :: stack).map recordedSize :=
        congrArg _ hSizes
      have hStep := ih hNext hRest
      simp only [eraseStep, if_neg hBackspace, List.nil_append, Draft.ofClusters, List.flatMap_cons,
        byteSize_append, byteSize_reverse] at hStep ⊢
      omega

/-- **Nothing else is left out.** If the size of a cluster that is taken away was not kept in full,
the line is broken, or it is not what taking away clusters leaves. -/
theorem applyBackspaces?_eq_some_erase_iff {text : Text} :
    applyBackspaces? text = some (erase text) ↔ IsErasable text := by
  refine ⟨fun h => ?_, applyBackspaces?_eq_some_erase⟩
  obtain ⟨final, hFinal, hKept⟩ := Option.map_eq_some_iff.mp h
  rw [erase, ← Draft.reverse_kept_ofClusters, List.reverse_inj] at hKept
  have hNoSizes : Draft.empty.sizes = ([] : List Text).map recordedSize := rfl
  have hEmpty : byteSize Draft.empty.kept = 0 := rfl
  have hNone : byteSize (Draft.ofClusters []).kept = 0 := rfl
  have hBytes := byteSize_foldlM_enter? hNoSizes hFinal
  rw [hKept] at hBytes
  exact lt_of_shortage_eq_zero (by omega)

end PocketCalc.Text
