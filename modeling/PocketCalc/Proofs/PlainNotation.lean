import PocketCalc.Proofs.FewestDigits
import PocketCalc.Proofs.FloatModel
import PocketCalc.Proofs.Readback

/-!
# Results have as few digits as possible

The answer `Result: …` shows a value in plain notation, with no zero that is not needed and with no
more significant digits than any word that is read as the value (`Message.render_ok_fewest_digits`).
The competitors are words of any length and in any notation, exponents included.

Zeros at either end of the digits of a word are not counted, so a word with `k` significant digits
writes a number below `10 ^ k`, times a power of ten (`Numeral.exists_digitsValue_eq`). That the
scanner stops counting at large exponents changes this power only. The shortest decimal has no more
digits than that, and none of them is a zero at the end. What the plain layout adds to them are zeros
at one end or the other, up to the point (`Numeral.ofDecimal_cases`).
-/

namespace PocketCalc

namespace Numeral

/-! ## Significant digits -/

/-- Digits without the zeros in front of them and at their end. -/
def significant (digits : Text) : Text := (digits.dropWhile (· = '0')).rdropWhile (· = '0')

/-- How many digits before and after a point count. -/
def significantDigits (whole fraction : Text) : ℕ := (significant (whole ++ fraction)).length

example : significantDigits "0".toList "00120".toList = 2 := by decide

/-- Digits are the significant ones between zeros. -/
theorem exists_eq_significant (digits : Text) :
    ∃ front back,
      digits = List.replicate front '0' ++ (significant digits ++ List.replicate back '0') := by
  have hFront : ∀ c ∈ digits.takeWhile (· = '0'), c = '0' := by
    intro c hc
    simpa using List.mem_takeWhile_imp hc
  have hBack : ∀ c ∈ (digits.dropWhile (· = '0')).rtakeWhile (· = '0'), c = '0' := by
    intro c hc
    simpa using List.mem_rtakeWhile_imp hc
  refine ⟨(digits.takeWhile (· = '0')).length,
    ((digits.dropWhile (· = '0')).rtakeWhile (· = '0')).length, ?_⟩
  rw [← List.eq_replicate_of_mem hFront, ← List.eq_replicate_of_mem hBack, significant,
    List.rdropWhile_append_rtakeWhile, List.takeWhile_append_dropWhile]

/-- What digits are worth, from the significant ones. -/
theorem exists_digitsValue_eq {digits : Text} (h : AllDigits digits) :
    ∃ count scale, digitsValue digits = count * 10 ^ scale ∧
      count < 10 ^ (significant digits).length := by
  obtain ⟨front, back, hDigits⟩ := exists_eq_significant digits
  have hSignificant : AllDigits (significant digits) := by
    intro c hc
    refine h c ?_
    rw [hDigits]
    exact List.mem_append_right _ (List.mem_append_left _ hc)
  refine ⟨digitsValue (significant digits), back, ?_, digitsValue_lt hSignificant⟩
  conv_lhs => rw [hDigits]
  rw [digitsValue_replicate_append, digitsValue_append_replicate]
  rfl

theorem rdropWhile_append_replicate (digits : Text) (count : ℕ) :
    (digits ++ List.replicate count '0').rdropWhile (· = '0') = digits.rdropWhile (· = '0') := by
  induction count with
  | zero => rw [List.replicate_zero, List.append_nil]
  | succ count ih =>
    rw [List.replicate_succ', ← List.append_assoc, List.rdropWhile_concat_pos _ _ _ (by decide), ih]

/-- Zeros at the ends make no digits significant. -/
theorem length_significant_le (front : ℕ) (digits : Text) (back : ℕ) :
    (significant (List.replicate front '0' ++ (digits ++ List.replicate back '0'))).length ≤
      digits.length := by
  have hZeros (count : ℕ) : ∀ c ∈ List.replicate count '0', decide (c = '0') = true :=
    fun c hc => decide_eq_true (List.eq_of_mem_replicate hc)
  rw [significant, List.dropWhile_append_of_pos (hZeros front), List.dropWhile_append]
  split
  · rw [List.dropWhile_eq_nil_iff.mpr (hZeros back), List.rdropWhile_nil]
    exact Nat.zero_le _
  · rw [rdropWhile_append_replicate]
    exact Nat.le_trans (List.rdropWhile_prefix _ _).length_le (List.dropWhile_suffix _).length_le

/-! ## The digits of a whole number -/

theorem allDigits_toDigits (n : ℕ) : AllDigits (Nat.toDigits 10 n) :=
  fun _ hc => Nat.isDigit_of_mem_toDigits (by decide) (by decide) hc

theorem head?_toDigits_ne {n : ℕ} (h : n ≠ 0) : (Nat.toDigits 10 n).head? ≠ some '0' := by
  intro hHead
  obtain ⟨rest, hRest⟩ := List.head?_eq_some_iff.mp hHead
  have hDigits : AllDigits rest := by
    intro c hc
    refine allDigits_toDigits n c ?_
    rw [hRest]
    exact List.mem_cons_of_mem _ hc
  have hValue : digitsValue rest = n := by
    rw [← digitsValue_toDigits n, hRest]
    exact (digitsValue_replicate_append 1 rest).symm
  have hLess : n < 10 ^ rest.length := by
    rw [← hValue]
    exact digitsValue_lt hDigits
  have hLength := Decimal.length_toDigits_le h hLess
  rw [hRest, List.length_cons] at hLength
  omega

theorem getLast?_toDigits_ne {n : ℕ} (h : ¬ 10 ∣ n) : (Nat.toDigits 10 n).getLast? ≠ some '0' := by
  intro hLast
  obtain ⟨init, hInit⟩ := List.getLast?_eq_some_iff.mp hLast
  have hValue : n = 10 * digitsValue init := by
    rw [← digitsValue_toDigits n, hInit, digitsValue_append_singleton]
    rfl
  exact h ⟨_, hValue⟩

/-! ## The numeral of a decimal -/

/-- The three places of the point: before the digits, behind them, or among them. -/
theorem ofDecimal_cases (negative : Bool) (decimal : Decimal) :
    (decimal.exponent < 0 ∧ ∃ gap, ofDecimal negative decimal =
      { negative, whole := ['0'], exponent := 0,
        fraction := List.replicate gap '0' ++ Nat.toDigits 10 decimal.coefficient }) ∨
    (0 ≤ decimal.exponent ∧ ∃ gap, ofDecimal negative decimal =
      { negative, whole := Nat.toDigits 10 decimal.coefficient ++ List.replicate gap '0',
        fraction := [], exponent := 0 }) ∨
    (decimal.exponent < 0 ∧ ∃ whole fraction, whole ≠ [] ∧ fraction ≠ [] ∧
      Nat.toDigits 10 decimal.coefficient = whole ++ fraction ∧
      ofDecimal negative decimal = { negative, whole, fraction, exponent := 0 }) := by
  have hSome : 0 < (Nat.toDigits 10 decimal.coefficient).length := Nat.length_toDigits_pos
  simp only [ofDecimal]
  split
  · exact .inl ⟨by omega, _, rfl⟩
  · split
    · exact .inr (.inl ⟨by omega, _, rfl⟩)
    · refine .inr (.inr ⟨by omega, _, _, ?_, ?_, (List.take_append_drop _ _).symm, rfl⟩)
      · rw [Ne, List.take_eq_nil_iff, not_or]
        exact ⟨by omega, Nat.toDigits_ne_nil⟩
      · rw [Ne, List.drop_eq_nil_iff]
        omega

/-- Plain notation without zeros that are not needed: none in front but the one before a point, and
none at the end of a fraction. -/
structure IsTidy (numeral : Numeral) : Prop extends numeral.IsPlain where
  leading : numeral.whole = ['0'] ∨ numeral.whole.head? ≠ some '0'
  trailing : numeral.fraction.getLast? ≠ some '0'

theorem isTidy_ofDecimal (negative : Bool) {decimal : Decimal} (h : ¬ 10 ∣ decimal.coefficient) :
    (ofDecimal negative decimal).IsTidy := by
  have hNonzero : decimal.coefficient ≠ 0 := fun hZero => h (hZero ▸ dvd_zero 10)
  have hHead := head?_toDigits_ne hNonzero
  have hLast := getLast?_toDigits_ne h
  have hDigits : Nat.toDigits 10 decimal.coefficient ≠ [] := Nat.toDigits_ne_nil
  have hPlain := isPlain_ofDecimal negative decimal
  obtain ⟨_, gap, hBefore⟩ | ⟨_, gap, hBehind⟩ |
    ⟨_, whole, fraction, hWhole, hFraction, hSplit, hAmong⟩ := ofDecimal_cases negative decimal
  · rw [hBefore] at hPlain ⊢
    refine ⟨hPlain, .inl rfl, ?_⟩
    rwa [List.getLast?_append_of_ne_nil _ hDigits]
  · rw [hBehind] at hPlain ⊢
    refine ⟨hPlain, .inr ?_, (Option.some_ne_none '0').symm⟩
    rwa [List.head?_append_of_ne_nil _ hDigits]
  · rw [hSplit, List.head?_append_of_ne_nil _ hWhole] at hHead
    rw [hSplit, List.getLast?_append_of_ne_nil _ hFraction] at hLast
    rw [hAmong] at hPlain ⊢
    exact ⟨hPlain, .inr hHead, hLast⟩

theorem fraction_ofDecimal_eq_nil_iff (negative : Bool) (decimal : Decimal) :
    (ofDecimal negative decimal).fraction = [] ↔ 0 ≤ decimal.exponent := by
  have hDigits : Nat.toDigits 10 decimal.coefficient ≠ [] := Nat.toDigits_ne_nil
  obtain ⟨hExponent, gap, hBefore⟩ | ⟨hExponent, gap, hBehind⟩ |
    ⟨hExponent, whole, fraction, _, hSome, _, hAmong⟩ := ofDecimal_cases negative decimal
  · rw [hBefore]
    exact iff_of_false (List.append_ne_nil_of_right_ne_nil _ hDigits) (not_le.mpr hExponent)
  · rw [hBehind]
    exact iff_of_true rfl hExponent
  · rw [hAmong]
    exact iff_of_false hSome (not_le.mpr hExponent)

/-- What is written are the digits of the coefficient between zeros. -/
theorem exists_digits_ofDecimal (negative : Bool) (decimal : Decimal) :
    ∃ front back, (ofDecimal negative decimal).whole ++ (ofDecimal negative decimal).fraction =
      List.replicate front '0' ++
        (Nat.toDigits 10 decimal.coefficient ++ List.replicate back '0') := by
  obtain ⟨_, gap, hBefore⟩ | ⟨_, gap, hBehind⟩ | ⟨_, whole, fraction, _, _, hSplit, hAmong⟩ :=
    ofDecimal_cases negative decimal
  · exact ⟨gap + 1, 0, by simp [hBefore, List.replicate_succ]⟩
  · exact ⟨0, gap, by simp [hBehind]⟩
  · exact ⟨0, 0, by simp [hAmong, hSplit]⟩

theorem significantDigits_ofDecimal_le (negative : Bool) (decimal : Decimal) :
    significantDigits (ofDecimal negative decimal).whole (ofDecimal negative decimal).fraction ≤
      (Nat.toDigits 10 decimal.coefficient).length := by
  obtain ⟨front, back, hDigits⟩ := exists_digits_ofDecimal negative decimal
  rw [significantDigits, hDigits]
  exact length_significant_le front _ back

/-! ## Competitors -/

/-- A word that is read as a value writes a decimal that rounds to its magnitude. -/
theorem nearest_of_read? {word : Text} {x : Float} (h : read? word = some x) {spelling : Spelling}
    (hSpells : Spells word spelling) :
    spelling.numeral.decimal.nearest = Binary64.magnitude x := by
  rw [read?, scan?_of_spells hSpells, Option.bind_some] at h
  simp only [toFloat?] at h
  split at h
  · rename_i hFinite
    rw [← Option.some.inj h, Binary64.magnitude_ofMagnitude (Nat.le_of_lt hFinite)]
  · cases h

end Numeral

namespace Message

/-- **Results have as few digits as possible.** A finite value other than zero is shown in plain
notation: a minus if it is negative, digits, and a point with more digits only if the value is no
whole number, never with an exponent or a zero that is not needed. What is shown is read as the value,
and so are other words. They all are numerals, and none has fewer significant digits. -/
theorem render_ok_fewest_digits (v : Float) (hFinite : Binary64.isFinite v = true)
    (hNonzero : Binary64.magnitude v ≠ 0) :
    ∃ numeral : Numeral,
      (∀ registers : Registers, registers.result = v →
        render .ok registers = some ("Result: ".toList ++ numeral.plainText)) ∧
      Numeral.read? numeral.plainText = some v ∧
      numeral.negative = Binary64.isNegative v ∧ numeral.IsTidy ∧
      (numeral.fraction = [] ↔ ∃ n : ℕ, Binary64.value (Binary64.magnitude v) = n) ∧
      ∀ word, Numeral.read? word = some v →
        (∃ spelling, Numeral.Spells word spelling) ∧
          ∀ spelling, Numeral.Spells word spelling →
            Numeral.significantDigits numeral.whole numeral.fraction ≤
              Numeral.significantDigits spelling.whole spelling.fraction := by
  have hMagnitude : Binary64.magnitude v < Binary64.infinity := of_decide_eq_true hFinite
  have hDecimal : Decimal.ofMagnitude (Binary64.magnitude v) =
      Decimal.shortest (Binary64.magnitude v) := if_neg hNonzero
  have hText := Numeral.plainText_ofFloat hFinite
  refine ⟨Numeral.ofFloat v, fun registers hResult => ?_, ?_, Numeral.negative_ofDecimal .., ?_, ?_,
    fun word hRead => ⟨?_, fun spelling hSpells => ?_⟩⟩
  · rw [render, hResult, hText]
  · rw [hText]
    exact Numeral.read?_write hFinite
  · rw [Numeral.ofFloat, hDecimal]
    exact Numeral.isTidy_ofDecimal _
      (Decimal.not_ten_dvd_coefficient_shortest hMagnitude hNonzero)
  · rw [Numeral.ofFloat, hDecimal, Numeral.fraction_ofDecimal_eq_nil_iff]
    exact Decimal.exponent_shortest_nonneg_iff hMagnitude hNonzero
  · obtain ⟨numeral, hScan, _⟩ := Option.bind_eq_some_iff.mp hRead
    obtain ⟨spelling, hSpells, _⟩ := Numeral.scan?_eq_some_iff.mp hScan
    exact ⟨spelling, hSpells⟩
  · rw [Numeral.ofFloat, hDecimal]
    refine Nat.le_trans (Numeral.significantDigits_ofDecimal_le ..) ?_
    obtain ⟨count, scale, hZeros, hLess⟩ := Numeral.exists_digitsValue_eq hSpells.allDigits
    have hNearest := Numeral.nearest_of_read? hRead hSpells
    have hShort := Decimal.coefficient_shortest_lt_of_mul hMagnitude hNonzero hNearest hZeros hLess
    exact Decimal.length_toDigits_le (Decimal.coefficient_shortest_ne_zero hNonzero) hShort

/-- The least positive value, which has 751 digits if it is written exactly, is shown with one. -/
theorem render_ok_fewest_digits_least :
    Binary64.isFinite (Float.ofBits 1) = true ∧ Binary64.magnitude (Float.ofBits 1) ≠ 0 ∧
      ∃ numeral : Numeral,
        (∀ registers : Registers, registers.result = Float.ofBits 1 →
          render .ok registers = some ("Result: ".toList ++ numeral.plainText)) ∧
        Numeral.read? numeral.plainText = some (Float.ofBits 1) ∧ numeral.IsTidy ∧
        Numeral.significantDigits numeral.whole numeral.fraction ≤ 1 := by
  have hFinite : Binary64.isFinite (Float.ofBits 1) = true := by decide
  have hNonzero : Binary64.magnitude (Float.ofBits 1) ≠ 0 := by decide
  have hRead : Numeral.read? "5e-324".toList = some (Float.ofBits 1) := by decide +kernel
  have hWhole : Numeral.AllDigits ['5'] := by simp [Numeral.AllDigits]
  have hDigits : Numeral.AllDigits "324".toList := by simp [Numeral.AllDigits]
  have hExponent : Numeral.IsExponent "e-324".toList true "324".toList :=
    .mark (.inl rfl) .minus (by decide) hDigits
  have hSpells : Numeral.Spells "5e-324".toList ⟨false, ['5'], [], true, "324".toList⟩ :=
    .intro .none hWhole .none hExponent (by simp)
  obtain ⟨numeral, hRender, hText, _, hTidy, _, hFewest⟩ :=
    render_ok_fewest_digits (Float.ofBits 1) hFinite hNonzero
  have hOne : Numeral.significantDigits numeral.whole numeral.fraction ≤ 1 :=
    (hFewest _ hRead).2 _ hSpells
  exact ⟨hFinite, hNonzero, numeral, hRender, hText, hTidy, hOne⟩

end Message
end PocketCalc
