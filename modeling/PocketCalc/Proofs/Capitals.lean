import Mathlib
import PocketCalc.Text.Upper

/-!
# Upper-casing stops after one pass

A *capital* is a scalar that no run and no expansion of the case table takes for a small letter.
Two facts about capitals carry everything that is said about lines put in upper case:

* `isCapital_of_mem_upper`: whatever upper-casing yields is a capital, also each scalar of a
  longer upper case by itself;
* `upper_eq_self`: a text of capitals is its own upper case.

So it does not matter where a text is cut after upper-casing, be it within the upper case of one
letter: what is left is a text of capitals.

## The table, two ranges at a time

The capitals of a run are a range of codes, as its small letters are. No range of capitals meets
a range of small letters, unless both go in steps of two and keep to different parities. That is
a comparison of ends for each pair of runs, so the kernel settles it without going through the
letters. The ASCII letters are taken for one more run, `asciiRun`.

The comparisons are written with `Nat.blt` and `Nat.beq`, which the kernel evaluates as they
stand; through the decidability of `<` the same check takes four times as long.
-/

namespace PocketCalc.Text

/-! ## Capitals -/

/-- The small letters of ASCII, as a run. -/
def asciiRun : CaseRun := ⟨0x61, 0x7A, 1, 0x41⟩

/-- Every run of small letters. -/
def smallRuns : List CaseRun := asciiRun :: caseRuns

/-- A code of a scalar that is no small letter. -/
structure IsCapitalCode (code : Nat) : Prop where
  valid : code.isValidChar
  inNoRun : ∀ run ∈ smallRuns, run.capital? code = none
  notExpanded : ∀ entry ∈ caseExpansions, code ≠ entry.1

/-- A scalar that is no small letter. -/
def IsCapital (c : Char) : Prop := IsCapitalCode c.toNat

theorem CaseRun.capital?_eq_some_iff {run : CaseRun} {code capital : Nat} :
    run.capital? code = some capital ↔
      (run.first ≤ code ∧ code ≤ run.last ∧ (code - run.first) % run.stride = 0) ∧
        run.capital + (code - run.first) = capital := by
  simp [CaseRun.capital?]

theorem isSome_capital?_asciiRun (c : Char) : (asciiRun.capital? c.toNat).isSome = c.isLower := by
  rw [Bool.eq_iff_iff]
  simp [CaseRun.capital?, asciiRun, Char.isLower, UInt32.le_iff_toNat_le, Nat.mod_one]

theorem IsCapital.isLower_eq_false {c : Char} (h : IsCapital c) : c.isLower = false := by
  rw [← isSome_capital?_asciiRun, h.inNoRun asciiRun (List.mem_cons_self ..), Option.isSome_none]

/-- A capital is its own upper case. -/
theorem upperChar_of_isCapital {c : Char} (h : IsCapital c) : upperChar c = [c] := by
  by_cases hAscii : c.toNat < 0x80
  · rw [upperChar_ascii hAscii, Char.toUpper_eq_of_not_isLower (by simp [h.isLower_eq_false])]
  · have hExpansions : caseExpansions.lookup c.toNat = none :=
      List.lookup_eq_none_iff.mpr fun entry hEntry => by
        simpa using h.notExpanded entry hEntry
    have hRuns : caseRuns.findSome? (CaseRun.capital? · c.toNat) = none :=
      List.findSome?_eq_none_iff.mpr fun run hRun =>
        h.inNoRun run (List.mem_cons_of_mem _ hRun)
    simp [upperChar, hAscii, upperCodes, hExpansions, hRuns]

/-- A text of capitals is its own upper case. -/
theorem upper_eq_self {text : Text} (h : ∀ c ∈ text, IsCapital c) : upper text = text := by
  induction text with
  | nil => rfl
  | cons c rest ih =>
    rw [List.forall_mem_cons] at h
    rw [upper_cons, upperChar_of_isCapital h.1, ih h.2, List.singleton_append]

/-! ## The table -/

/-- The end of the range of a run's capitals. -/
def CaseRun.lastCapital (run : CaseRun) : Nat := run.capital + (run.last - run.first)

/-- Whether every letter of a run is an even number of steps away from its first. -/
def CaseRun.keepsParity (run : CaseRun) : Bool := run.stride.beq 2 || run.first.beq run.last

/-- Whether the ends of two runs show that no capital of the first is a small letter of the
second. -/
def CaseRun.avoids (run other : CaseRun) : Bool :=
  run.lastCapital.blt other.first || (other.last.blt run.capital ||
    (run.keepsParity && other.stride.beq 2 && !(run.capital % 2).beq (other.first % 2)))

/-- Whether the ends of a run show that the code is no capital of it. -/
def CaseRun.misses (run : CaseRun) (code : Nat) : Bool :=
  code.blt run.capital || run.lastCapital.blt code

theorem CaseRun.capital?_eq_none_of_avoids {run other : CaseRun} (h : run.avoids other = true)
    {code capital : Nat} (hRun : run.capital? code = some capital) :
    other.capital? capital = none := by
  obtain ⟨⟨hFirst, hLast, hStride⟩, rfl⟩ := capital?_eq_some_iff.mp hRun
  apply if_neg
  rintro ⟨hFirst', hLast', hStride'⟩
  simp only [avoids, keepsParity, lastCapital, Bool.or_eq_true, Bool.and_eq_true,
    Bool.not_eq_true', Nat.blt_eq, Nat.beq_eq] at h
  rcases h with hBelow | hAbove | ⟨⟨hParity, hOther⟩, hDiffer⟩
  · omega
  · omega
  · have hNe := Nat.ne_of_beq_eq_false hDiffer
    rw [hOther] at hStride'
    rcases hParity with hTwo | hOne
    · rw [hTwo] at hStride
      omega
    · omega

theorem CaseRun.ne_of_misses {run : CaseRun} {code capital missed : Nat}
    (h : run.misses missed = true) (hRun : run.capital? code = some capital) :
    capital ≠ missed := by
  obtain ⟨⟨_, hLast, _⟩, rfl⟩ := capital?_eq_some_iff.mp hRun
  simp only [misses, lastCapital, Bool.or_eq_true, Nat.blt_eq] at h
  omega

theorem avoids_of_mem_smallRuns :
    ∀ run ∈ smallRuns, ∀ other ∈ smallRuns, run.avoids other = true := by
  have hTable : (smallRuns.all fun run => smallRuns.all fun other => run.avoids other) = true := by
    decide +kernel
  simpa only [List.all_eq_true] using hTable

theorem misses_of_mem_smallRuns :
    ∀ run ∈ smallRuns, ∀ entry ∈ caseExpansions, run.misses entry.1 = true := by
  have hTable : (smallRuns.all fun run => caseExpansions.all fun entry =>
      run.misses entry.1) = true := by
    decide +kernel
  simpa only [List.all_eq_true] using hTable

/-- Capitals of runs are scalars: none of their ranges meets the surrogates. -/
theorem lastCapital_of_mem_smallRuns : ∀ run ∈ smallRuns,
    run.lastCapital < 0xD800 ∨ 0xDFFF < run.capital ∧ run.lastCapital < 0x110000 := by
  decide +kernel

theorem of_mem_caseExpansions : ∀ entry ∈ caseExpansions, ∀ code ∈ entry.2,
    code < 0xD800 ∧ (∀ run ∈ smallRuns, run.capital? code = none) ∧
      ∀ other ∈ caseExpansions, code ≠ other.1 := by
  have hTable : (caseExpansions.all fun entry => entry.2.all fun code =>
      code.blt 0xD800 && (smallRuns.all fun run => (run.capital? code).isNone) &&
        caseExpansions.all fun other => !code.beq other.1) = true := by
    decide +kernel
  intro entry hEntry code hCode
  rw [List.all_eq_true] at hTable
  have hEntryTable := hTable entry hEntry
  rw [List.all_eq_true] at hEntryTable
  have hCodeTable := hEntryTable code hCode
  simp only [Bool.and_eq_true, List.all_eq_true, Nat.blt_eq, Option.isNone_iff_eq_none,
    Bool.not_eq_true'] at hCodeTable
  obtain ⟨⟨hLt, hRuns⟩, hKeys⟩ := hCodeTable
  exact ⟨hLt, hRuns, fun other hOther => Nat.ne_of_beq_eq_false (hKeys other hOther)⟩

/-- The table leaves ASCII alone. -/
theorem le_first_of_mem_caseRuns : ∀ run ∈ caseRuns, 0x80 ≤ run.first := by
  decide +kernel

theorem le_of_mem_caseExpansions : ∀ entry ∈ caseExpansions, 0x80 ≤ entry.1 := by
  decide +kernel

/-! ## What upper-casing yields -/

/-- The capital of a run's letter is a capital. -/
theorem isCapitalCode_of_run {run : CaseRun} (h : run ∈ smallRuns) {code capital : Nat}
    (hRun : run.capital? code = some capital) : IsCapitalCode capital where
  valid := by
    have hLast := lastCapital_of_mem_smallRuns run h
    obtain ⟨⟨_, hCode, _⟩, rfl⟩ := CaseRun.capital?_eq_some_iff.mp hRun
    simp only [CaseRun.lastCapital] at hLast
    simp only [Nat.isValidChar]
    omega
  inNoRun other hOther :=
    CaseRun.capital?_eq_none_of_avoids (avoids_of_mem_smallRuns run h other hOther) hRun
  notExpanded entry hEntry :=
    CaseRun.ne_of_misses (misses_of_mem_smallRuns run h entry hEntry) hRun

/-- Each scalar of a longer upper case is a capital. -/
theorem isCapitalCode_of_expansion {entry : Nat × List Nat} (h : entry ∈ caseExpansions)
    {code : Nat} (hCode : code ∈ entry.2) : IsCapitalCode code := by
  obtain ⟨hLt, hRuns, hKeys⟩ := of_mem_caseExpansions entry h code hCode
  exact ⟨.inl hLt, hRuns, hKeys⟩

theorem isCapital_ofNat {code : Nat} (h : IsCapitalCode code) : IsCapital (Char.ofNat code) := by
  rwa [IsCapital, Char.toNat_ofNat, if_pos h.valid]

theorem isCapital_of_ascii {c : Char} (hAscii : c.toNat < 0x80) (h : c.isLower = false) :
    IsCapital c where
  valid := c.valid
  inNoRun run hRun := by
    rcases List.mem_cons.mp hRun with rfl | hRun
    · rw [← isSome_capital?_asciiRun] at h
      simpa using h
    · have hFirst := le_first_of_mem_caseRuns run hRun
      exact if_neg fun hHolds => by omega
  notExpanded entry hEntry := by
    have hKey := le_of_mem_caseExpansions entry hEntry
    omega

/-- A scalar beyond ASCII that the table does not map is a capital. -/
theorem isCapital_of_unmapped {c : Char} (hAscii : ¬ c.toNat < 0x80)
    (hExpansions : caseExpansions.lookup c.toNat = none)
    (hRuns : caseRuns.findSome? (CaseRun.capital? · c.toNat) = none) : IsCapital c where
  valid := c.valid
  inNoRun run hRun := by
    rcases List.mem_cons.mp hRun with rfl | hRun
    · refine if_neg fun hHolds => ?_
      have hLast : c.toNat ≤ 0x7A := hHolds.2.1
      omega
    · exact List.findSome?_eq_none_iff.mp hRuns run hRun
  notExpanded entry hEntry := by
    simpa using List.lookup_eq_none_iff.mp hExpansions entry hEntry

/-- What the upper case of a scalar can be: the scalar itself if it is a capital, the capital of a
run that holds it, or a longer upper case. -/
inductive UpperCase (c : Char) : Prop where
  | capital (hCapital : IsCapital c) (hUpper : upperChar c = [c])
  | run {run : CaseRun} {code : Nat} (hRun : run ∈ smallRuns)
      (hCode : run.capital? c.toNat = some code) (hUpper : upperChar c = [Char.ofNat code])
  | expansion {codes : List Nat} (hEntry : (c.toNat, codes) ∈ caseExpansions)
      (hUpper : upperChar c = codes.map Char.ofNat)

theorem upperCase_of_ascii {c : Char} (h : c.toNat < 0x80) : UpperCase c := by
  by_cases hLower : c.isLower = true
  · obtain ⟨code, hCode⟩ := Option.isSome_iff_exists.mp ((isSome_capital?_asciiRun c).trans hLower)
    refine .run (List.mem_cons_self ..) hCode ?_
    obtain ⟨⟨hFirst, _, _⟩, rfl⟩ := CaseRun.capital?_eq_some_iff.mp hCode
    have hDistance : asciiRun.capital + (c.toNat - asciiRun.first) = c.toNat - 32 := by
      simp only [asciiRun] at hFirst ⊢
      omega
    rw [upperChar_ascii h, Char.toUpper_eq_of_isLower hLower, hDistance]
  · have hCapital := isCapital_of_ascii h (by simpa using hLower)
    exact .capital hCapital (upperChar_of_isCapital hCapital)

theorem upperCase (c : Char) : UpperCase c := by
  by_cases hAscii : c.toNat < 0x80
  · exact upperCase_of_ascii hAscii
  cases hExpansions : caseExpansions.lookup c.toNat with
  | some codes =>
    obtain ⟨before, after, hTable, _⟩ := List.lookup_eq_some_iff.mp hExpansions
    have hEntry : (c.toNat, codes) ∈ caseExpansions := by simp [hTable]
    refine .expansion hEntry ?_
    rw [upperChar, if_neg hAscii, upperCodes, hExpansions]
  | none =>
    cases hRuns : caseRuns.findSome? (CaseRun.capital? · c.toNat) with
    | some code =>
      obtain ⟨run, hMem, hCode⟩ := List.exists_of_findSome?_eq_some hRuns
      refine .run (List.mem_cons_of_mem _ hMem) hCode ?_
      simp [upperChar, hAscii, upperCodes, hExpansions, hRuns]
    | none =>
      have hCapital := isCapital_of_unmapped hAscii hExpansions hRuns
      exact .capital hCapital (upperChar_of_isCapital hCapital)

/-- **Upper-casing a scalar yields capitals**, one or more. -/
theorem isCapital_of_mem_upperChar {c d : Char} (h : d ∈ upperChar c) : IsCapital d := by
  cases upperCase c with
  | capital hCapital hUpper =>
    rw [hUpper, List.mem_singleton] at h
    exact h ▸ hCapital
  | run hRun hCode hUpper =>
    rw [hUpper, List.mem_singleton] at h
    exact h ▸ isCapital_ofNat (isCapitalCode_of_run hRun hCode)
  | expansion hEntry hUpper =>
    rw [hUpper, List.mem_map] at h
    obtain ⟨code, hCode, rfl⟩ := h
    exact isCapital_ofNat (isCapitalCode_of_expansion hEntry hCode)

/-- Whatever upper-casing yields is a text of capitals. -/
theorem isCapital_of_mem_upper {text : Text} {c : Char} (h : c ∈ upper text) : IsCapital c := by
  obtain ⟨_, _, hMem⟩ := List.mem_flatMap.mp h
  exact isCapital_of_mem_upperChar hMem

end PocketCalc.Text
