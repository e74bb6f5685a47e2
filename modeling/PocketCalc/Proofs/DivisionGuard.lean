import PocketCalc.Proofs.ExactReading
import PocketCalc.Proofs.FloatModel
import PocketCalc.Proofs.KeptText
import PocketCalc.Proofs.Provenance
import PocketCalc.Proofs.Sentences

/-!
# The guard of the division

A division is refused just if its divisor is nearer to zero than 10⁻¹⁰, the real number, and so no
division by a zero of either sign is ever carried out (`Calculator.enter_divide`).

No float is 10⁻¹⁰. What a divisor is compared with is the float nearest to it, which lies above, and
what makes the comparison exact all the same is that no float lies between the two
(`isNegligible_iff_value_lt`). For a divisor that is typed there is a second rounding in the way, that
of the numeral. Rounding keeps the order (`Binary64.IsRounding.mono`), and 10⁻¹⁰ itself rounds to the
float that is compared with, so a numeral of at least 10⁻¹⁰ is never refused. The other way round it
is the float that counts: a numeral a little below 10⁻¹⁰ can round to that float, and then it is a
divisor like any other.
-/

namespace PocketCalc

open Binary64 (IsRounding)

/-! ## The threshold -/

/-- The number that a divisor must not be nearer to zero than. -/
def divisorThreshold : ℚ := 1 / 10 ^ 10

theorem isRounding_divisorThreshold : IsRounding divisorThreshold leastDivisor := by
  have hValue : Decimal.value ⟨1, -10⟩ = divisorThreshold := by
    rw [Decimal.value, divisorThreshold, zpow_neg, Nat.cast_one, one_mul, one_div]
    rfl
  have hRounding := @Decimal.isRounding_nearest ⟨1, -10⟩ (.inr (by decide))
  rw [hValue] at hRounding
  exact hRounding

/-- The threshold lies between two neighbouring magnitudes. -/
theorem value_lt_divisorThreshold_iff {bits : ℕ} :
    Binary64.value bits < divisorThreshold ↔ bits < leastDivisor := by
  have hParts : Binary64.value bits < (1 : ℕ) / (10 ^ 10 : ℕ) ↔ bits < leastDivisor :=
    Binary64.value_lt_iff_of_units (by decide) (by decide +kernel) (by decide +kernel)
  rwa [Nat.cast_one, Nat.cast_pow, Nat.cast_ofNat] at hParts

/-- **The comparison with the nearest float decides about the number itself**, for every divisor. -/
theorem isNegligible_iff_value_lt {divisor : Float} :
    isNegligible divisor = true ↔
      Binary64.value (Binary64.magnitude divisor) < divisorThreshold := by
  rw [value_lt_divisorThreshold_iff, isNegligible, decide_eq_true_iff]

/-- It is the comparison of the absolute value with `1e-10` among the floats. -/
theorem isNegligible_eq_abs_lt (divisor : Float) :
    isNegligible divisor = decide (divisor.abs < 1e-10) := by
  have hMagnitude : Binary64.magnitude 1e-10 = leastDivisor := by decide +kernel
  have hNumber : Binary64.magnitude 1e-10 ≤ Binary64.infinity := by decide +kernel
  have hCompare := @Binary64.abs_lt_iff divisor 1e-10 (by decide +kernel) hNumber
  rw [hMagnitude] at hCompare
  exact decide_eq_decide.mpr hCompare.symm

/-- NaN and infinite divisors are not negligible. -/
theorem isNegligible_iff_absolute_lt {divisor : Float} :
    isNegligible divisor = true ↔
      divisor.isNaN = false ∧ Binary64.absolute divisor < divisorThreshold := by
  unfold Binary64.absolute
  rw [isNegligible_iff_value_lt, ← Bool.not_eq_true, Binary64.isNaN_iff]
  split
  · rename_i hFinite
    have hLess : Binary64.magnitude divisor < Binary64.infinity := of_decide_eq_true hFinite
    rw [WithTop.coe_lt_coe]
    exact (and_iff_right (Nat.not_lt.mpr (Nat.le_of_lt hLess))).symm
  · rename_i hInfinite
    have hLarge : Binary64.infinity ≤ Binary64.magnitude divisor := by
      simpa [Binary64.isFinite] using hInfinite
    have hLeast : leastDivisor ≤ Binary64.infinity := by decide +kernel
    rw [value_lt_divisorThreshold_iff]
    refine iff_of_false (Nat.not_lt.mpr (Nat.le_trans hLeast hLarge)) fun h => ?_
    exact not_top_lt h.2

/-- What is short of the least normal value is negligible whatever it is rounded to. -/
theorem value_lt_of_underflow {q : ℚ} {bits : ℕ} (h : IsRounding q bits)
    (hSmall : q < Binary64.value Binary64.binade) : Binary64.value bits < divisorThreshold := by
  have hBits : bits ≤ Binary64.binade := h.le_of_le_value hSmall.le
  have hLeast : Binary64.binade < leastDivisor := by decide +kernel
  exact value_lt_divisorThreshold_iff.mpr (Nat.lt_of_le_of_lt hBits hLeast)

/-- What is not below the threshold is not rounded to below it. -/
theorem not_value_lt_of_threshold_le {q : ℚ} {bits : ℕ} (h : IsRounding q bits)
    (hLarge : divisorThreshold ≤ q) : ¬ Binary64.value bits < divisorThreshold := by
  have hBits : leastDivisor ≤ bits := isRounding_divisorThreshold.mono h hLarge
  rw [value_lt_divisorThreshold_iff]
  exact Nat.not_lt.mpr hBits

/-! ## The word of the divisor -/

/-- No symbol is a numeral. -/
theorem Numeral.Spells.ne_symbol {word : Text} {spelling : Spelling} (h : Spells word spelling)
    (operator : Operator) : asciiCapitals word ≠ operator.symbol := by
  intro hSymbol
  obtain ⟨c, hc, hDigit⟩ := exists_isDigit_of_scan? (scan?_of_spells h)
  rw [Operator.isDigit_eq_false_of_ofSymbol? (Operator.ofSymbol?_eq_some_iff.mpr hSymbol) c hc]
    at hDigit
  cases hDigit

theorem Denotes.spells_or_recall {memory value : Float} {word : Text}
    (h : Denotes memory word value) :
    (∃ spelling, Numeral.Spells word spelling) ∨ asciiCapitals word = "MR" := by
  cases h with
  | numeral hNumeral =>
    obtain ⟨numeral, hScan, _⟩ := Option.bind_eq_some_iff.mp hNumeral
    obtain ⟨spelling, hSpells, _⟩ := Numeral.scan?_eq_some_iff.mp hScan
    exact .inl ⟨spelling, hSpells⟩
  | recalled hRecall => exact .inr hRecall

/-- A numeral denotes what it rounds to. -/
theorem Denotes.isRounding_of_spells {memory value : Float} {word : Text}
    {spelling : Numeral.Spelling} (h : Denotes memory word value)
    (hSpells : Numeral.Spells word spelling) (hLength : word.length ≤ 80) :
    ∃ bits < Binary64.infinity, IsRounding spelling.value bits ∧
      value = Binary64.ofMagnitude spelling.negative bits := by
  cases h with
  | numeral hNumeral =>
    rw [Numeral.read?_of_spells hSpells hLength] at hNumeral
    split at hNumeral
    · rename_i hFinite
      exact ⟨spelling.decimal.nearest, hFinite, (Decimal.isRounding_value_iff hFinite).mpr rfl,
        (Option.some.inj hNumeral).symm⟩
    · cases hNumeral
  | recalled hRecall => exact absurd hRecall (hSpells.ne_symbol .memoryRecall)

/-- What the guard makes of a numeral. -/
theorem Denotes.isNegligible_of_spells {memory value : Float} {word : Text}
    {spelling : Numeral.Spelling} (h : Denotes memory word value)
    (hSpells : Numeral.Spells word spelling) (hLength : word.length ≤ 80) :
    (∃ bits < Binary64.infinity, IsRounding spelling.value bits ∧
        value = Binary64.ofMagnitude spelling.negative bits ∧
        (isNegligible value = true ↔ Binary64.value bits < divisorThreshold)) ∧
      (divisorThreshold ≤ spelling.value → ¬ isNegligible value = true) ∧
      (spelling.value < Binary64.value Binary64.binade → isNegligible value = true) := by
  obtain ⟨bits, hFinite, hRounding, hValue⟩ := h.isRounding_of_spells hSpells hLength
  have hGuard : isNegligible value = true ↔ Binary64.value bits < divisorThreshold := by
    rw [hValue, isNegligible_iff_value_lt, Binary64.magnitude_ofMagnitude (Nat.le_of_lt hFinite)]
  refine ⟨⟨bits, hFinite, hRounding, hValue, hGuard⟩, ?_, ?_⟩
  · intro hLarge hRefused
    exact not_value_lt_of_threshold_le hRounding hLarge (hGuard.mp hRefused)
  · intro hSmall
    exact hGuard.mpr (value_lt_of_underflow hRounding hSmall)

/-- The last word of a command with operands is its right operand. -/
theorem Sentence.denotes_getLast? {registers : Registers} {words : List Text} {x y : Float}
    {operator : Operator} (h : Sentence registers words (.binary x y operator)) :
    ∃ word ∈ words.getLast?, Denotes registers.memory word y := by
  cases h with
  | chained _ hRight => exact ⟨_, rfl, hRight⟩
  | full _ _ hRight => exact ⟨_, rfl, hRight⟩

namespace Calculator

/-! ## The line -/

section Divide

variable {calculator : Calculator} {text : Text} {x y : Float}
  (hDivide : calculator.command (Line.ofText text).words = .ok (.binary x y .divide))
include hDivide

theorem process_divide :
    calculator.process (Line.ofText text).words =
      if isNegligible y then
        ({ calculator with left := x, right := y, operator := .divide }, .divisionByZero)
      else
        ({ registers := { calculator.registers with result := x / y }, left := x, right := y,
           operator := .divide }, .ok) := by
  rw [process_of_command_ok hDivide]
  unfold put execute
  dsimp only
  rw [Operator.apply_divide]
  split <;> rfl

theorem enter_of_isNegligible (h : isNegligible y = true) :
    (calculator.enter text).1 = { calculator with left := x, right := y, operator := .divide } ∧
      (calculator.enter text).2.status = .divisionByZero := by
  have hProcess := process_divide hDivide
  rw [if_pos h] at hProcess
  exact ⟨congrArg Prod.fst hProcess, congrArg Prod.snd hProcess⟩

theorem enter_of_not_isNegligible (h : ¬ isNegligible y = true) :
    (calculator.enter text).1 =
        { registers := { calculator.registers with result := x / y }, left := x, right := y,
          operator := .divide } ∧
      (calculator.enter text).2.status = .ok := by
  have hProcess := process_divide hDivide
  rw [if_neg h] at hProcess
  exact ⟨congrArg Prod.fst hProcess, congrArg Prod.snd hProcess⟩

theorem status_enter_eq_divisionByZero_iff :
    (calculator.enter text).2.status = .divisionByZero ↔ isNegligible y = true := by
  by_cases h : isNegligible y = true
  · exact iff_of_true (enter_of_isNegligible hDivide h).2 h
  · rw [(enter_of_not_isNegligible hDivide h).2]
    exact iff_of_false nofun h

theorem operands_enter_divide :
    (calculator.enter text).1.left = x ∧ (calculator.enter text).1.right = y := by
  by_cases h : isNegligible y = true
  · rw [(enter_of_isNegligible hDivide h).1]
    exact ⟨rfl, rfl⟩
  · rw [(enter_of_not_isNegligible hDivide h).1]
    exact ⟨rfl, rfl⟩

end Divide

/-- **A division is refused just if its divisor is nearer to zero than 10⁻¹⁰.** The divisor is the last
word. If that is a numeral, it is the magnitude to which the numeral rounds that is compared, so no
numeral of at least 10⁻¹⁰ is refused, and every one that is short of the least normal value is, zeros
among them. If it is the memory recall, the memory is compared, and refused if it is not NaN and its
absolute value is below. A refused division leaves the memory and the result as they were. Any other
sets the result to the quotient of the two operands, and its divisor is no zero of either sign. -/
theorem enter_divide (calculator : Calculator) (text : Text) {x y : Float}
    (hDivide : calculator.command (Line.ofText text).words = .ok (.binary x y .divide)) :
    let after := (calculator.enter text).1
    let status := (calculator.enter text).2.status
    (∃ divisor ∈ (Line.ofText text).words.getLast?,
      ((∃ spelling, Numeral.Spells divisor spelling) ∨ asciiCapitals divisor = "MR") ∧
        (∀ spelling, Numeral.Spells divisor spelling →
          (∃ bits < Binary64.infinity, IsRounding spelling.value bits ∧
            y = Binary64.ofMagnitude spelling.negative bits ∧
            (status = .divisionByZero ↔ Binary64.value bits < divisorThreshold)) ∧
          (divisorThreshold ≤ spelling.value → status ≠ .divisionByZero) ∧
          (spelling.value < Binary64.value Binary64.binade → status = .divisionByZero)) ∧
        (asciiCapitals divisor = "MR" →
          y = calculator.registers.memory ∧
            (status = .divisionByZero ↔ calculator.registers.memory.isNaN = false ∧
              Binary64.absolute calculator.registers.memory < divisorThreshold))) ∧
      (status = .divisionByZero → after.registers = calculator.registers) ∧
      (status ≠ .divisionByZero → status = .ok ∧
        after.registers = { calculator.registers with result := after.left / after.right }) ∧
      (after.left = x ∧ after.right = y) ∧
      (y = 0 ∨ y = -0 → status = .divisionByZero) := by
  intro after status
  have hStatus : status = .divisionByZero ↔ isNegligible y = true :=
    status_enter_eq_divisionByZero_iff hDivide
  have hOperands : after.left = x ∧ after.right = y := operands_enter_divide hDivide
  simp only [ne_eq, hStatus]
  refine ⟨?_, fun hRefused => ?_, fun hCarriedOut => ?_, hOperands, ?_⟩
  · obtain ⟨divisor, hLast, hDenotes⟩ :=
      (Command.ofWords_eq_ok_iff.mp hDivide).denotes_getLast?
    have hLength : divisor.length ≤ 80 := Line.length_le_of_mem_ofText (List.mem_of_getLast? hLast)
    refine ⟨divisor, hLast, hDenotes.spells_or_recall, fun spelling hSpells => ?_, fun hRecall => ?_⟩
    · exact hDenotes.isNegligible_of_spells hSpells hLength
    · have hMemory : y = calculator.registers.memory := (denotes_recall_iff hRecall).mp hDenotes
      rw [hMemory]
      exact ⟨rfl, isNegligible_iff_absolute_lt⟩
  · show (calculator.enter text).1.registers = calculator.registers
    rw [(enter_of_isNegligible hDivide hRefused).1]
  · obtain ⟨hAfter, hOk⟩ := enter_of_not_isNegligible hDivide hCarriedOut
    rw [hOperands.1, hOperands.2]
    exact ⟨hOk, congrArg Calculator.registers hAfter⟩
  · rintro (rfl | rfl) <;> decide +kernel

/-- A numeral below 10⁻¹⁰ that rounds to the float above is a divisor like any other. -/
theorem enter_divide_roundedUp :
    let text := "1 / 9.9999999999999999e-11".toList
    initial.command (Line.ofText text).words = .ok (.binary 1 1e-10 .divide) ∧
      (initial.enter text).2.status = .ok ∧
      (initial.enter text).1.registers.result = 1 / 1e-10 := by
  intro text
  have hDivide : initial.command (Line.ofText text).words = .ok (.binary 1 1e-10 .divide) := by
    have hWords : (Line.ofText text).words =
        ["1".toList, "/".toList, "9.9999999999999999E-11".toList] := by decide
    have hLeft : Numeral.read? "1".toList = some 1 := by decide +kernel
    have hRight : Numeral.read? "9.9999999999999999E-11".toList = some 1e-10 := by decide +kernel
    rw [hWords]
    exact Command.ofWords_eq_ok_iff.mpr
      (.full (.numeral hLeft) (mem_joiningSymbols.mpr ⟨rfl, rfl⟩) (.numeral hRight))
  obtain ⟨_, _, hCarriedOut, hOperands, _⟩ := enter_divide initial text hDivide
  have hStatus : (initial.enter text).2.status ≠ .divisionByZero := by decide +kernel
  obtain ⟨hOk, hRegisters⟩ := hCarriedOut hStatus
  rw [hOperands.1, hOperands.2] at hRegisters
  exact ⟨hDivide, hOk, congrArg Registers.result hRegisters⟩

end Calculator
end PocketCalc
