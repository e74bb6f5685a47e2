import Mathlib
import PocketCalc.Token

/-!
# Symbols

A word is the symbol of an operator if its capitals are that symbol. No word is the symbol of two
operators (`ofSymbol?_eq_some_iff`). The two kinds of symbols are listed with their operators,
apart from the table of operators. No word is a symbol and a numeral at once
(`read?_eq_none_of_ofSymbol?`): every numeral has a digit in it, and no symbol has one. The
signs are why this needs a proof, as they are symbols by themselves and begin numerals.
-/

namespace PocketCalc

/-- A word with its ASCII letters in capitals. -/
def asciiCapitals (word : Text) : String := String.ofList (word.map Char.toUpper)

namespace Operator

/-! ## Finding an operator by its symbol -/

/-- To be the same in small letters is to be the same in capitals. -/
theorem sameLetters_iff {left right : Text} :
    sameLetters left right = true ↔ left.map Char.toUpper = right.map Char.toUpper := by
  rw [sameLetters, beq_iff_eq]
  constructor
  · intro h
    simpa [Function.comp_def] using congrArg (List.map Char.toUpper) h
  · intro h
    simpa [Function.comp_def] using congrArg (List.map Char.toLower) h

/-- Symbols are in capitals. -/
theorem map_toUpper_symbol (operator : Operator) :
    operator.symbol.toList.map Char.toUpper = operator.symbol.toList := by
  cases operator <;> decide

theorem sameLetters_symbol_iff {operator : Operator} {word : Text} :
    sameLetters operator.symbol.toList word = true ↔ asciiCapitals word = operator.symbol := by
  rw [sameLetters_iff, map_toUpper_symbol, asciiCapitals, ← String.toList_inj,
    String.toList_ofList, eq_comm]

theorem asciiCapitals_of_ofSymbol? {word : Text} {operator : Operator}
    (h : ofSymbol? word = some operator) : asciiCapitals word = operator.symbol := by
  unfold ofSymbol? at h
  have hFound := List.find?_some h
  exact sameLetters_symbol_iff.mp hFound

theorem symbol_injective {left right : Operator} (h : left.symbol = right.symbol) :
    left = right := by
  have hFound := ofSymbol?_symbol left
  rw [h, ofSymbol?_symbol] at hFound
  exact (Option.some.inj hFound).symm

/-- **A word has at most one operator**, the one whose symbol its capitals are. -/
theorem ofSymbol?_eq_some_iff {word : Text} {operator : Operator} :
    ofSymbol? word = some operator ↔ asciiCapitals word = operator.symbol := by
  refine ⟨asciiCapitals_of_ofSymbol?, fun h => ?_⟩
  cases hFound : ofSymbol? word with
  | none =>
    have hNot := List.find?_eq_none.mp hFound operator (mem_all operator)
    exact absurd (sameLetters_symbol_iff.mpr h) hNot
  | some found =>
    have hSymbol := asciiCapitals_of_ofSymbol? hFound
    rw [symbol_injective (hSymbol.symm.trans h)]

end Operator

/-! ## The two kinds of symbols -/

/-- The symbols that are commands by themselves. -/
def standaloneSymbols : List (String × Operator) :=
  [("M+", .memoryAdd), ("M-", .memorySubtract), ("MR", .memoryRecall), ("MC", .memoryClear),
    ("HELP", .help), ("EXIT", .exit)]

/-- The symbols that join two operands. -/
def joiningSymbols : List (String × Operator) :=
  [("+", .add), ("-", .subtract), ("*", .multiply), ("/", .divide), ("^", .power)]

theorem mem_standaloneSymbols {word : Text} {operator : Operator} :
    (asciiCapitals word, operator) ∈ standaloneSymbols ↔
      Operator.ofSymbol? word = some operator ∧ operator.isStandalone = true := by
  rw [Operator.ofSymbol?_eq_some_iff]
  cases operator <;> simp [standaloneSymbols, Operator.symbol, Operator.isStandalone]

theorem mem_joiningSymbols {word : Text} {operator : Operator} :
    (asciiCapitals word, operator) ∈ joiningSymbols ↔
      Operator.ofSymbol? word = some operator ∧ operator.isStandalone = false := by
  rw [Operator.ofSymbol?_eq_some_iff]
  cases operator <;> simp [joiningSymbols, Operator.symbol, Operator.isStandalone]

theorem ne_memoryRecall_of_mem_joiningSymbols {word : Text} {operator : Operator}
    (h : (asciiCapitals word, operator) ∈ joiningSymbols) : operator ≠ .memoryRecall := by
  rintro rfl
  cases (mem_joiningSymbols.mp h).2

namespace Operator

/-! ## Symbols are no numerals -/

theorem isDigit_eq_false_of_mem_symbol {operator : Operator} {c : Char}
    (h : c ∈ operator.symbol.toList) : c.isDigit = false := by
  have hTable : (operator.symbol.toList.all fun c => !c.isDigit) = true := by
    cases operator <;> rfl
  simpa using List.all_eq_true.mp hTable c h

theorem isDigit_eq_false_of_ofSymbol? {word : Text} {operator : Operator}
    (h : ofSymbol? word = some operator) : ∀ c ∈ word, c.isDigit = false := by
  intro c hc
  have hCapitals : word.map Char.toUpper = operator.symbol.toList := by
    rw [← ofSymbol?_eq_some_iff.mp h, asciiCapitals, String.toList_ofList]
  have hMem : c.toUpper ∈ operator.symbol.toList := hCapitals ▸ List.mem_map_of_mem hc
  by_contra hDigit
  have hLower : ¬ c.isLower = true := by
    simp only [Char.isDigit, Char.isLower, Bool.and_eq_true, decide_eq_true_eq, ge_iff_le,
      UInt32.le_iff_toNat_le, Bool.not_eq_false] at hDigit ⊢
    have hNine : c.val.toNat ≤ 57 := hDigit.2
    have hA : 'a'.val.toNat = 97 := rfl
    omega
  rw [Char.toUpper_eq_of_not_isLower hLower] at hMem
  exact hDigit (isDigit_eq_false_of_mem_symbol hMem)

end Operator

namespace Numeral

theorem mem_of_mem_scanSign {text : Text} {c : Char} (h : c ∈ (scanSign text).2) : c ∈ text := by
  unfold scanSign at h
  split at h
  · exact List.mem_cons_of_mem _ h
  · exact List.mem_cons_of_mem _ h
  · exact h

theorem of_mem_scanFraction {text : Text} {c : Char} (h : c ∈ (scanFraction text).1) :
    c ∈ text ∧ c.isDigit = true := by
  unfold scanFraction at h
  split at h
  · exact ⟨List.mem_cons_of_mem _ ((List.takeWhile_sublist _).subset h), List.mem_takeWhile_imp h⟩
  · cases h

/-- A numeral has a digit before or after its point. -/
theorem exists_isDigit_of_scan? {text : Text} {numeral : Numeral}
    (h : scan? text = some numeral) : ∃ c ∈ text, c.isDigit = true := by
  simp only [scan?] at h
  split at h
  · cases h
  · rename_i hDigits
    rw [Bool.and_eq_true, List.isEmpty_iff, List.isEmpty_iff, not_and_or] at hDigits
    rcases hDigits with hWhole | hFraction
    · obtain ⟨c, hc⟩ := List.exists_mem_of_ne_nil _ hWhole
      exact ⟨c, mem_of_mem_scanSign ((List.takeWhile_sublist _).subset hc),
        List.mem_takeWhile_imp hc⟩
    · obtain ⟨c, hc⟩ := List.exists_mem_of_ne_nil _ hFraction
      obtain ⟨hMem, hDigit⟩ := of_mem_scanFraction hc
      exact ⟨c, mem_of_mem_scanSign ((List.dropWhile_sublist _).subset hMem), hDigit⟩

theorem read?_eq_none_of_ofSymbol? {word : Text} {operator : Operator}
    (h : Operator.ofSymbol? word = some operator) : read? word = none := by
  cases hScan : scan? word with
  | none => rw [read?, hScan, Option.bind_none]
  | some numeral =>
    obtain ⟨c, hc, hDigit⟩ := exists_isDigit_of_scan? hScan
    rw [Operator.isDigit_eq_false_of_ofSymbol? h c hc] at hDigit
    cases hDigit

end Numeral
end PocketCalc
