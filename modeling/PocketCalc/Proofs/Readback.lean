import PocketCalc.Proofs.KeptText
import PocketCalc.Proofs.PlainNumeral
import PocketCalc.Proofs.Runs
import PocketCalc.Proofs.Sentences

/-!
# Numbers that are shown can be typed

A finite value is shown as the text of a numeral, `Numeral.ofFloat`, and this numeral is read as the
value again, sign and all (`read?_write`). For zero that is so by itself, and for other values the
shortest decimal rounds to them.

On a line the text is one word, since there are no blanks in it, and upper-casing leaves it alone. So
it loads the very value that was shown, whatever the state and whatever the memory holds: the text
is that of no symbol, the recall of the memory least of all.
-/

namespace PocketCalc

/-! ## From a value to its numeral and back -/

/-- A value is its sign and its magnitude. -/
theorem Binary64.ofMagnitude_magnitude (x : Float) :
    ofMagnitude (isNegative x) (magnitude x) = x := by
  have hBits : x.toBits.toNat < 2 * signBit := x.toBits.toNat_lt
  have hSame : (if isNegative x then signBit + magnitude x else magnitude x) = x.toBits.toNat := by
    rw [isNegative, magnitude]
    by_cases hSign : signBit ≤ x.toBits.toNat
    · have hBelow : x.toBits.toNat - signBit < signBit := by omega
      rw [if_pos (by simpa using hSign), Nat.mod_eq_sub_mod hSign, Nat.mod_eq_of_lt hBelow]
      omega
    · rw [if_neg (by simpa using hSign), Nat.mod_eq_of_lt (by omega)]
  rw [ofMagnitude, hSame, UInt64.ofNat_toNat, Float.ofBits_toBits]

namespace Decimal

/-- The decimal that stands for a magnitude, zero among them. -/
def ofMagnitude (bits : Nat) : Decimal := if bits = 0 then ⟨0, 0⟩ else shortest bits

theorem nearest_ofMagnitude (bits : Nat) : (ofMagnitude bits).nearest = bits := by
  rw [ofMagnitude]
  by_cases hZero : bits = 0
  · rw [if_pos hZero, nearest_zero, hZero]
  · rw [if_neg hZero, nearest_shortest hZero]

theorem exponent_ofMagnitude_lt {bits : Nat} (h : bits < Binary64.infinity) :
    (ofMagnitude bits).exponent < 310 := by
  have hNearest := nearest_ofMagnitude bits
  by_cases hZero : bits = 0
  · rw [ofMagnitude, if_pos hZero]
    decide
  · exact exponent_lt (coefficient_ne_zero (by omega)) (by omega)

end Decimal

theorem Layout.magnitudeText_plain {bits : Nat} (h : bits < Binary64.infinity) :
    plain.magnitudeText bits = plain.decimalText (Decimal.ofMagnitude bits) := by
  rw [magnitudeText, Decimal.ofMagnitude]
  by_cases hZero : bits = 0
  · rw [if_pos hZero, if_pos hZero]
    rfl
  · rw [if_neg hZero, if_neg hZero, if_pos h]

namespace Numeral

/-- The numeral that a finite value is shown as. -/
def ofFloat (x : Float) : Numeral :=
  ofDecimal (Binary64.isNegative x) (Decimal.ofMagnitude (Binary64.magnitude x))

theorem isPlain_ofFloat (x : Float) : (ofFloat x).IsPlain := isPlain_ofDecimal ..

theorem plainText_ofFloat {x : Float} (h : Binary64.isFinite x = true) :
    (ofFloat x).plainText = Layout.plain.write x := by
  have hFinite : Binary64.magnitude x < Binary64.infinity := of_decide_eq_true h
  have hNumber : ¬ Binary64.infinity < Binary64.magnitude x := by omega
  rw [ofFloat, plainText_ofDecimal, ← Layout.magnitudeText_plain hFinite, Layout.write,
    if_neg hNumber]
  cases Binary64.isNegative x <;> rfl

theorem toFloat?_ofFloat {x : Float} (h : Binary64.isFinite x = true) :
    (ofFloat x).toFloat? = some x := by
  have hFinite : Binary64.magnitude x < Binary64.infinity := of_decide_eq_true h
  have hNearest : (ofFloat x).decimal.nearest = Binary64.magnitude x := by
    rw [ofFloat, nearest_decimal_ofDecimal _ (Decimal.exponent_ofMagnitude_lt hFinite),
      Decimal.nearest_ofMagnitude]
  simp only [toFloat?, hNearest]
  rw [if_pos hFinite, ofFloat, negative_ofDecimal, Binary64.ofMagnitude_magnitude]

/-- **A value is read back from the text that shows it.** -/
theorem read?_write {x : Float} (h : Binary64.isFinite x = true) :
    read? (Layout.plain.write x) = some x := by
  rw [← plainText_ofFloat h, read?, scan?_plainText (isPlain_ofFloat x), Option.bind_some,
    toFloat?_ofFloat h]

example : read? "-0".toList = some (Float.ofBits 0x8000000000000000) := by decide

end Numeral

/-! ## The text as a word -/

/-- Between the blanks of ASCII and its small letters there are digits, signs and the point. -/
theorem Text.isBlank_eq_false {c : Char} (h : 0x21 ≤ c.toNat ∧ c.toNat ≤ 0x60) :
    isBlank c = false := by
  simp only [isBlank, blankRanges, List.any_cons, List.any_nil, Bool.or_eq_false_iff,
    Bool.and_eq_false_iff, decide_eq_false_iff_not, and_true]
  omega

theorem Text.isCapital_of_toNat {c : Char} (h : 0x21 ≤ c.toNat ∧ c.toNat ≤ 0x60) :
    IsCapital c := by
  have hSmall : ¬ 'a'.toNat ≤ c.toNat := by
    have hLetter : 'a'.toNat = 0x61 := rfl
    omega
  refine isCapital_of_ascii (by omega) ?_
  rw [Char.isLower, Bool.and_eq_false_iff]
  exact .inl (decide_eq_false hSmall)

theorem Layout.toNat_of_mem_plain_write {x : Float} (h : Binary64.isFinite x = true) {c : Char}
    (hc : c ∈ plain.write x) : 0x21 ≤ c.toNat ∧ c.toNat ≤ 0x60 := by
  rw [← Numeral.plainText_ofFloat h] at hc
  rcases Numeral.mem_plainText (Numeral.isPlain_ofFloat x) hc with hDigit | rfl | rfl
  · rw [Char.isDigit, Bool.and_eq_true, decide_eq_true_eq, decide_eq_true_eq] at hDigit
    have hZero : 0x30 ≤ c.toNat := hDigit.1
    have hNine : c.toNat ≤ 0x39 := hDigit.2
    omega
  · decide
  · decide

theorem Layout.plain_write_ne_nil {x : Float} (h : Binary64.isFinite x = true) :
    plain.write x ≠ [] := by
  have hWhole := (Numeral.isPlain_ofFloat x).whole_ne_nil
  rw [← Numeral.plainText_ofFloat h, Numeral.plainText]
  simp [hWhole]

/-! ## The text on a line -/

theorem Token.ofWords_write {x : Float} (h : Binary64.isFinite x = true) (memory : Float) :
    ofWords memory [Layout.plain.write x] =
      .ok [{ text := Layout.plain.write x, value := some x }] := by
  have hDenotes : Denotes memory (Layout.plain.write x) x := .numeral (Numeral.read?_write h)
  rw [ofWords_eq_ok_iff]
  constructor
  · intro word hMem
    rw [List.mem_singleton.mp hMem]
    exact isKnown_of_denotes hDenotes
  · rw [List.map_singleton, reading, wordValue_eq_some_iff.mpr hDenotes]

/-- The sum of a value that is shown and zero. -/
def additionOfZero (x : Float) : List Text := [Layout.plain.write x, ['+'], ['0']]

theorem joinWords_additionOfZero (x : Float) :
    Text.joinWords (additionOfZero x) = Layout.plain.write x ++ " + 0".toList := by
  rw [additionOfZero, Text.joinWords_cons_cons, Text.joinWords_cons_cons,
    Text.joinWords_singleton]
  rfl

theorem Line.ofText_additionOfZero {x : Float} (h : Binary64.isFinite x = true)
    (hLength : (Text.joinWords (additionOfZero x)).length ≤ maxLength) :
    ofText (Text.joinWords (additionOfZero x)) = { words := additionOfZero x, isCut := false } := by
  have hCodes : ∀ word ∈ additionOfZero x,
      word ≠ [] ∧ ∀ c ∈ word, 0x21 ≤ c.toNat ∧ c.toNat ≤ 0x60 := by
    intro word hMem
    rw [additionOfZero, List.mem_cons, List.mem_cons, List.mem_singleton] at hMem
    rcases hMem with rfl | rfl | rfl
    · exact ⟨Layout.plain_write_ne_nil h, fun _ hc => Layout.toNat_of_mem_plain_write h hc⟩
    · exact ⟨List.cons_ne_nil _ _, List.forall_mem_singleton.mpr (by decide)⟩
    · exact ⟨List.cons_ne_nil _ _, List.forall_mem_singleton.mpr (by decide)⟩
  refine ofText_joinWords ?_ ?_ hLength (Nat.le_refl 3)
  · intro word hMem
    exact ⟨(hCodes word hMem).1, fun c hc => Text.isBlank_eq_false ((hCodes word hMem).2 c hc)⟩
  · intro word hMem c hc
    exact Text.isCapital_of_toNat ((hCodes word hMem).2 c hc)

theorem sentence_additionOfZero {x : Float} (h : Binary64.isFinite x = true)
    (registers : Registers) : Sentence registers (additionOfZero x) (.binary x 0 .add) := by
  have hZero : Numeral.read? (Layout.plain.write 0) = some 0 := Numeral.read?_write (by decide)
  rw [Layout.write_zero] at hZero
  exact .full (.numeral (Numeral.read?_write h)) (mem_joiningSymbols.mpr ⟨rfl, rfl⟩)
    (.numeral hZero)

namespace Calculator

theorem left_enter_of_binary {calculator : Calculator} {text : Text} {x y : Float}
    {operator : Operator}
    (h : Sentence calculator.registers (Line.ofText text).words (.binary x y operator)) :
    (calculator.enter text).1.left = x := by
  have hCommand : calculator.command (Line.ofText text).words = .ok (.binary x y operator) :=
    Command.ofWords_eq_ok_iff.mpr h
  simp only [enter, process_of_command_ok hCommand]
  rfl

/-- **A number that is shown can be typed back.** The text behind `Result: ` and behind `Memory: ` is
one token with the same value, whatever the memory holds, and at the head of a sum that fits into
a line it loads the left operand with that value from every state. Values are the same if their bits
are, so zero keeps its sign. -/
theorem enter_shown (x : Float) (hFinite : Binary64.isFinite x = true) :
    let shown := Layout.plain.write x
    let sum := shown ++ " + 0".toList
    (∀ registers : Registers, registers.result = x →
        Message.render .ok registers = some ("Result: ".toList ++ shown)) ∧
      (∀ registers : Registers, registers.memory = x →
        Message.render .memory registers = some ("Memory: ".toList ++ shown)) ∧
      (∀ memory : Float,
        Token.ofWords memory [shown] = .ok [{ text := shown, value := some x }]) ∧
      (sum.length ≤ 80 → ∀ calculator : Calculator,
        (calculator.enter sum).1.left = x ∧ (calculator.enter sum).2.truncation = none) := by
  intro shown sum
  refine ⟨fun registers hResult => ?_, fun registers hMemory => ?_, Token.ofWords_write hFinite,
    fun hLength calculator => ?_⟩
  · rw [Message.render, hResult]
  · rw [Message.render, hMemory]
  have hSum : sum = Text.joinWords (additionOfZero x) := (joinWords_additionOfZero x).symm
  rw [hSum] at hLength ⊢
  have hLine := Line.ofText_additionOfZero hFinite hLength
  constructor
  · apply left_enter_of_binary
    rw [hLine]
    exact sentence_additionOfZero hFinite calculator.registers
  · simp only [enter, hLine]
    rfl

/-- A tenth, which no binary value is exactly, comes back with the bits that it had. -/
theorem enter_shown_tenth :
    Binary64.isFinite 0.1 = true ∧ Layout.plain.write 0.1 = "0.1".toList ∧
      (∀ memory : Float,
        Token.ofWords memory ["0.1".toList] = .ok [{ text := "0.1".toList, value := some 0.1 }]) ∧
      ∀ calculator : Calculator, (calculator.enter "0.1 + 0".toList).1.left = 0.1 ∧
        (calculator.enter "0.1 + 0".toList).2.truncation = none := by
  have hFinite : Binary64.isFinite 0.1 = true := by decide
  have hShown : Layout.plain.write 0.1 = "0.1".toList := by decide +kernel
  obtain ⟨_, _, hToken, hSum⟩ := enter_shown 0.1 hFinite
  have hLine : "0.1".toList ++ " + 0".toList = "0.1 + 0".toList := by decide
  rw [hShown] at hToken hSum
  simp only [hLine] at hSum
  exact ⟨hFinite, hShown, hToken, hSum (by decide)⟩

end Calculator
end PocketCalc
