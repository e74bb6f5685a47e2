import Mathlib
import PocketCalc.Proofs.NearestMagnitude
import PocketCalc.Proofs.NumeralGrammar
import PocketCalc.Proofs.Symbols

/-!
# Words are read exactly

A word is read as a number if the grammar spells it and the number that it writes rounds to a finite
magnitude, and then it is read as that magnitude with its own sign
(`Numeral.read?_iff_isRounding`). Both halves are known by now, the grammar of the scanner and the
rounding of decimals. What stands between them is the limit on exponents. The scanner stops counting
at 65536, so it rounds another decimal than the one that is written.

On a line this cannot be seen. A word has no more than 80 scalars, and their digits are worth less
than `2 ^ 320`. Whether the exponent is 65536 or far beyond, the number is past all finite magnitudes
or nearer to zero than to any other, and the clamps of `Decimal.nearest` make no difference between
the two (`nearest_decimal_numeral`).
-/

namespace PocketCalc.Numeral

open Binary64 (IsRounding)

/-! ## What digits can be worth -/

theorem digitsValue_append_singleton (digits : Text) (digit : Char) :
    digitsValue (digits ++ [digit]) = 10 * digitsValue digits + (digit.toNat - '0'.toNat) := by
  rw [digitsValue, List.foldl_append]
  rfl

theorem exponentValue_append_singleton (digits : Text) (digit : Char) :
    exponentValue (digits ++ [digit]) =
      if exponentValue digits < exponentLimit then
        10 * exponentValue digits + (digit.toNat - '0'.toNat)
      else exponentValue digits := by
  rw [exponentValue, List.foldl_append]
  rfl

/-- Digits that are no longer counted have made up the limit, and more digits do not undo that. -/
theorem exponentValue_eq_or_limit_le (digits : Text) :
    exponentValue digits = digitsValue digits ∨
      exponentLimit ≤ exponentValue digits ∧ exponentLimit ≤ digitsValue digits := by
  induction digits using List.reverseRecOn with
  | nil => exact .inl rfl
  | append_singleton digits digit ih =>
    rw [digitsValue_append_singleton, exponentValue_append_singleton]
    split
    · rename_i hCounted
      rcases ih with hSame | hLimit
      · rw [hSame]
        exact .inl rfl
      · omega
    · omega

theorem digitsValue_lt {digits : Text} (h : AllDigits digits) :
    digitsValue digits < 10 ^ digits.length := by
  induction digits using List.reverseRecOn with
  | nil => decide
  | append_singleton digits digit ih =>
    have hDigits : AllDigits digits := fun c hc => h c (List.mem_append_left _ hc)
    have hDigit : digit.isDigit = true := h digit (List.mem_append_right _ (List.mem_singleton_self _))
    have hNine : digit.toNat - '0'.toNat ≤ 9 := by
      rw [Char.isDigit, Bool.and_eq_true, decide_eq_true_eq, decide_eq_true_eq] at hDigit
      have hCode : digit.toNat ≤ 57 := hDigit.2
      have hZero : '0'.toNat = 48 := rfl
      omega
    have hBefore := ih hDigits
    rw [digitsValue_append_singleton, List.length_append, List.length_singleton, Nat.pow_succ]
    omega

theorem log2_digitsValue_le {digits : Text} (h : AllDigits digits) :
    (digitsValue digits).log2 ≤ 4 * digits.length := by
  by_cases hZero : digitsValue digits = 0
  · rw [hZero, Nat.log2_zero]
    exact Nat.zero_le _
  · have hLess : digitsValue digits < 2 ^ (4 * digits.length) :=
      calc digitsValue digits
          < 10 ^ digits.length := digitsValue_lt h
        _ ≤ (2 ^ 4) ^ digits.length := Nat.pow_le_pow_left (by decide) _
        _ = 2 ^ (4 * digits.length) := (Nat.pow_mul 2 4 _).symm
    exact Nat.le_of_lt ((Nat.log2_lt hZero).mpr hLess)

/-- Zeros are worth nothing. -/
theorem digitsValue_eq_zero {digits : Text} (h : ∀ c ∈ digits, c = '0') :
    digitsValue digits = 0 := by
  rw [List.eq_replicate_of_mem h, ← List.append_nil (List.replicate _ _),
    digitsValue_replicate_append]
  rfl

/-! ## What can stand in a numeral -/

/-- The scalars that numerals are made of. -/
def IsNumeralScalar (c : Char) : Prop :=
  c.isDigit = true ∨ c = '+' ∨ c = '-' ∨ c = '.' ∨ c = 'e' ∨ c = 'E'

theorem isNumeralScalar_of_isSign {sign : Text} {negative : Bool} (h : IsSign sign negative) :
    ∀ c ∈ sign, IsNumeralScalar c := by
  intro c hc
  cases h with
  | none => cases hc
  | plus => exact .inr (.inl (List.mem_singleton.mp hc))
  | minus => exact .inr (.inr (.inl (List.mem_singleton.mp hc)))

theorem isNumeralScalar_of_isFraction {point fraction : Text} (h : IsFraction point fraction) :
    ∀ c ∈ point, IsNumeralScalar c := by
  intro c hc
  cases h with
  | none => cases hc
  | point hDigits =>
    rcases List.mem_cons.mp hc with rfl | hDigit
    · exact .inr (.inr (.inr (.inl rfl)))
    · exact .inl (hDigits c hDigit)

theorem isNumeralScalar_of_isExponent {exponent digits : Text} {negative : Bool}
    (h : IsExponent exponent negative digits) : ∀ c ∈ exponent, IsNumeralScalar c := by
  intro c hc
  cases h with
  | none => cases hc
  | mark hMark hSign _ hDigits =>
    rcases List.mem_cons.mp hc with rfl | hRest
    · exact .inr (.inr (.inr (.inr hMark)))
    · rcases List.mem_append.mp hRest with hMem | hDigit
      · exact isNumeralScalar_of_isSign hSign c hMem
      · exact .inl (hDigits c hDigit)

namespace Spells

variable {text : Text} {spelling : Spelling}

theorem isNumeralScalar (h : Spells text spelling) : ∀ c ∈ text, IsNumeralScalar c := by
  obtain ⟨hSign, hWhole, hFraction, hExponent, _⟩ := h
  refine List.forall_mem_append.mpr ⟨isNumeralScalar_of_isSign hSign, ?_⟩
  refine List.forall_mem_append.mpr ⟨fun c hc => .inl (hWhole c hc), ?_⟩
  exact List.forall_mem_append.mpr
    ⟨isNumeralScalar_of_isFraction hFraction, isNumeralScalar_of_isExponent hExponent⟩

theorem allDigits (h : Spells text spelling) : AllDigits (spelling.whole ++ spelling.fraction) := by
  obtain ⟨_, hWhole, hFraction, _, _⟩ := h
  refine List.forall_mem_append.mpr ⟨hWhole, ?_⟩
  cases hFraction with
  | none => exact fun c hc => by cases hc
  | point hDigits => exact hDigits

theorem length_le (h : Spells text spelling) :
    (spelling.whole ++ spelling.fraction).length ≤ text.length := by
  obtain ⟨_, _, hFraction, _, _⟩ := h
  cases hFraction <;> simp only [List.length_append, List.length_cons, List.length_nil] <;> omega

end Spells

/-! ## The limit on exponents -/

/-- The decimal that is written, with no limit on its exponent. -/
def Spelling.decimal (spelling : Spelling) : Decimal where
  coefficient := digitsValue (spelling.whole ++ spelling.fraction)
  exponent := spelling.exponent - spelling.fraction.length

theorem Spelling.value_decimal (spelling : Spelling) : spelling.decimal.value = spelling.value := rfl

/-- The exponent that is cut short is the written one, or both are past the limit in the same
direction. -/
theorem Spelling.exponent_numeral (spelling : Spelling) :
    spelling.numeral.exponent = spelling.exponent ∨
      (exponentLimit ≤ spelling.numeral.exponent ∧ exponentLimit ≤ spelling.exponent) ∨
      (spelling.numeral.exponent ≤ -exponentLimit ∧ spelling.exponent ≤ -exponentLimit) := by
  have hValue : Nat.ofDigitChars 10 spelling.exponentDigits 0 =
    digitsValue spelling.exponentDigits := rfl
  rw [Spelling.exponent, Spelling.numeral, hValue]
  rcases exponentValue_eq_or_limit_le spelling.exponentDigits with hSame | ⟨hCut, hWritten⟩
  · rw [hSame]
    exact .inl rfl
  · cases spelling.exponentNegative with
    | false => exact .inr (.inl ⟨Int.ofNat_le.mpr hCut, Int.ofNat_le.mpr hWritten⟩)
    | true =>
      exact .inr (.inr ⟨Int.neg_le_neg (Int.ofNat_le.mpr hCut),
        Int.neg_le_neg (Int.ofNat_le.mpr hWritten)⟩)

/-- **The limit on exponents does not show** in words as short as those of a line. -/
theorem nearest_decimal_numeral {word : Text} {spelling : Spelling} (h : Spells word spelling)
    (hLength : word.length ≤ 80) :
    spelling.numeral.decimal.nearest = spelling.decimal.nearest := by
  have hDigits := h.length_le
  have hLog := log2_digitsValue_le h.allDigits
  have hFraction : spelling.fraction.length ≤ 80 := by
    rw [List.length_append] at hDigits
    omega
  have hCoefficient : spelling.numeral.decimal.coefficient = spelling.decimal.coefficient := rfl
  have hBits : spelling.decimal.coefficient.log2 ≤ 320 := Nat.le_trans hLog (by omega)
  have hCut : spelling.numeral.decimal.exponent =
    spelling.numeral.exponent - spelling.fraction.length := rfl
  have hWritten : spelling.decimal.exponent = spelling.exponent - spelling.fraction.length := rfl
  have hLimit : exponentLimit = 65536 := rfl
  by_cases hZero : spelling.decimal.coefficient = 0
  · exact (if_pos (hCoefficient.trans hZero)).trans (if_pos hZero).symm
  rcases spelling.exponent_numeral with hSame | ⟨hCutLarge, hLarge⟩ | ⟨hCutTiny, hTiny⟩
  · have hDecimal : spelling.numeral.decimal = spelling.decimal := by
      show Decimal.mk _ (spelling.numeral.exponent - _) = Decimal.mk _ _
      rw [hSame]
      rfl
    rw [hDecimal]
  · rw [Decimal.nearest_eq_infinity hZero (by omega),
      Decimal.nearest_eq_infinity (hCoefficient ▸ hZero) (by omega)]
  · have hWrittenTiny : spelling.decimal.exponent + (spelling.decimal.coefficient.log2 + 1 : ℕ) ≤
        -330 := by omega
    rw [Decimal.nearest_eq_zero hWrittenTiny, Decimal.nearest_eq_zero]
    rw [hCoefficient]
    omega

/-! ## Words -/

theorem read?_of_spells {word : Text} {spelling : Spelling} (h : Spells word spelling)
    (hLength : word.length ≤ 80) :
    read? word =
      if spelling.decimal.nearest < Binary64.infinity then
        some (Binary64.ofMagnitude spelling.negative spelling.decimal.nearest)
      else none := by
  rw [read?, scan?_of_spells h, Option.bind_some, ← nearest_decimal_numeral h hLength]
  rfl

/-- What is read is what the spelling rounds to. -/
theorem read?_eq_some_iff {word : Text} (hLength : word.length ≤ 80) {x : Float} :
    read? word = some x ↔ ∃ spelling bits, Spells word spelling ∧ IsRounding spelling.value bits ∧
      bits < Binary64.infinity ∧ x = Binary64.ofMagnitude spelling.negative bits := by
  constructor
  · intro h
    obtain ⟨numeral, hScan, _⟩ := Option.bind_eq_some_iff.mp h
    obtain ⟨spelling, hSpells, _⟩ := scan?_eq_some_iff.mp hScan
    rw [read?_of_spells hSpells hLength] at h
    split at h
    · rename_i hFinite
      exact ⟨spelling, spelling.decimal.nearest, hSpells,
        (Decimal.isRounding_value_iff hFinite).mpr rfl, hFinite, (Option.some.inj h).symm⟩
    · cases h
  · rintro ⟨spelling, bits, hSpells, hRounding, hFinite, rfl⟩
    have hNearest : spelling.decimal.nearest = bits :=
      (Decimal.isRounding_value_iff hFinite).mp hRounding
    rw [read?_of_spells hSpells hLength, hNearest, if_pos hFinite]

/-- What is no numeral is not read. -/
theorem read?_eq_none {word : Text} (h : ∀ spelling, ¬ Spells word spelling) : read? word = none := by
  cases hScan : scan? word with
  | none => rw [read?, hScan, Option.bind_none]
  | some numeral =>
    obtain ⟨spelling, hSpells, _⟩ := scan?_eq_some_iff.mp hScan
    exact absurd hSpells (h spelling)

/-- An overflow is the only reason not to read a numeral. -/
theorem read?_eq_none_iff {word : Text} {spelling : Spelling} (h : Spells word spelling)
    (hLength : word.length ≤ 80) :
    read? word = none ↔ Binary64.overflowThreshold ≤ spelling.value := by
  have hFinite := Decimal.nearest_lt_infinity_iff spelling.decimal
  rw [Spelling.value_decimal] at hFinite
  rw [read?_of_spells h hLength, ← not_lt, ← hFinite]
  split
  · rename_i hUnder
    exact iff_of_false (Option.some_ne_none _) (not_not_intro hUnder)
  · rename_i hOver
    exact iff_of_true rfl hOver

theorem read?_of_zeros {word : Text} {spelling : Spelling} (h : Spells word spelling)
    (hLength : word.length ≤ 80) (hZeros : ∀ c ∈ spelling.whole ++ spelling.fraction, c = '0') :
    read? word = some (Binary64.ofMagnitude spelling.negative 0) := by
  have hNearest : spelling.decimal.nearest = 0 := if_pos (digitsValue_eq_zero hZeros)
  rw [read?_of_spells h hLength, hNearest]
  rfl

/-- What is at most the largest subnormal value rounds to one of them or to zero. -/
theorem read?_of_underflow {word : Text} {spelling : Spelling} (h : Spells word spelling)
    (hLength : word.length ≤ 80)
    (hSmall : spelling.value ≤ Binary64.value (Binary64.binade - 1)) :
    ∃ bits < Binary64.binade,
      read? word = some (Binary64.ofMagnitude spelling.negative bits) := by
  have hUnder : spelling.value < Binary64.overflowThreshold :=
    hSmall.trans_lt (Binary64.value_lt_overflowThreshold (by decide))
  have hFinite : spelling.decimal.nearest < Binary64.infinity :=
    (Decimal.nearest_lt_infinity_iff spelling.decimal).mpr hUnder
  have hRounding : IsRounding spelling.value spelling.decimal.nearest :=
    (Decimal.isRounding_value_iff hFinite).mpr rfl
  have hBits := hRounding.le_of_le_value hSmall
  have hBinade := Binary64.binade_pos
  refine ⟨spelling.decimal.nearest, by omega, ?_⟩
  rw [read?_of_spells h hLength, if_pos hFinite]

/-- **Words are read exactly.** A word of at most 80 scalars is read as a number just if the grammar
spells it and the number that is written rounds, to nearest with ties to even, to a finite magnitude;
it is read as that magnitude with the sign of the word. A word is not read if it has a scalar that
numerals do not have, such as a letter of `inf`, an underscore or a digit that is not ASCII, or if it
has no digit. A numeral is not read just if it is at or above the threshold of overflow. Zeros are
zero with the sign of the word, whatever their exponent, and what is no larger than the largest
subnormal value is read as one of these or as zero, with its sign. -/
theorem read?_iff_isRounding {word : Text} (hLength : word.length ≤ 80) :
    (∀ x, read? word = some x ↔
      ∃ spelling bits, Spells word spelling ∧ IsRounding spelling.value bits ∧
        bits < Binary64.infinity ∧ x = Binary64.ofMagnitude spelling.negative bits) ∧
      ((∃ c ∈ word, ¬ IsNumeralScalar c) → read? word = none) ∧
      ((∀ c ∈ word, c.isDigit = false) → read? word = none) ∧
      ∀ spelling, Spells word spelling →
        (read? word = none ↔ Binary64.overflowThreshold ≤ spelling.value) ∧
        ((∀ c ∈ spelling.whole ++ spelling.fraction, c = '0') →
          read? word = some (Binary64.ofMagnitude spelling.negative 0)) ∧
        (spelling.value ≤ Binary64.value (Binary64.binade - 1) →
          ∃ bits < Binary64.binade,
            read? word = some (Binary64.ofMagnitude spelling.negative bits)) := by
  refine ⟨fun x => read?_eq_some_iff hLength, ?_, ?_, fun spelling hSpells =>
    ⟨read?_eq_none_iff hSpells hLength, read?_of_zeros hSpells hLength,
      read?_of_underflow hSpells hLength⟩⟩
  · rintro ⟨c, hc, hForeign⟩
    exact read?_eq_none fun spelling hSpells => hForeign (hSpells.isNumeralScalar c hc)
  · intro hNoDigit
    refine read?_eq_none fun spelling hSpells => ?_
    obtain ⟨c, hc, hDigit⟩ := exists_isDigit_of_scan? (scan?_of_spells hSpells)
    rw [hNoDigit c hc] at hDigit
    cases hDigit

/-- Halfway between two values the even one is read, here the one nearer to zero. -/
theorem read?_halfway :
    let word := "-9007199254740993".toList
    word.length ≤ 80 ∧ read? word = some (-9007199254740992) := by
  intro word
  let spelling : Spelling := ⟨true, "9007199254740993".toList, [], false, []⟩
  have hLength : word.length ≤ 80 := by decide
  have hDigits : AllDigits spelling.whole := by simp [AllDigits, spelling]
  have hSpells : Spells word spelling := .intro .minus hDigits .none .none (by simp [spelling])
  have hFinite : 1076 * Binary64.binade < Binary64.infinity := by decide
  have hNearest : spelling.decimal.nearest = 1076 * Binary64.binade := by decide +kernel
  have hRounding : IsRounding spelling.value (1076 * Binary64.binade) :=
    (Decimal.isRounding_value_iff hFinite).mpr hNearest
  exact ⟨hLength, ((read?_iff_isRounding hLength).1 _).mpr
    ⟨spelling, 1076 * Binary64.binade, hSpells, hRounding, hFinite, by decide +kernel⟩⟩

end PocketCalc.Numeral
