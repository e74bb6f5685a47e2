import PocketCalc.Command
import PocketCalc.Proofs.Symbols

/-!
# The phrases that tokens can form

A token is a text and perhaps a value, and nothing makes the two fit: the symbol of an operator
may come with a value, the symbol of the memory recall without one, and a text that means nothing
with one or the other. `Phrase` says which lists of such tokens are commands, and which ones, by
what is asked of the token in each place: one that is a command by itself (`Token.IsAlone`), one
that joins (`Token.IsJoint`), and an operand, of which the value is all that counts.

`Command.ofTokens?_eq_some_iff` says that tokens resolve to a command exactly if they are a phrase
of it, whatever the tokens are. `ofTokens?_iff_shapes` takes this apart into the commands of either
kind and the tokens that form none; for these `none` is the one answer, which a calculator passes
on as invalid input. The words of a line give rise to few of all these tokens. What becomes of
those is said by `Sentence`, whose proofs rest on the phrases.

## What the value of an operator token decides

Both tests of an operator token look at its value, and they part at the memory recall. By itself
it may have a value, since words give it the one of the memory. Between operands no token with a
value will do, but there the memory recall is turned away by its symbol already, as it does not
join. So `IsJoint` needs no exception.
-/

namespace PocketCalc

namespace Token

/-! ## What a token is good for -/

/-- A token that is a command by itself. Only the memory recall may have a value. -/
structure IsAlone (token : Token) (operator : Operator) : Prop where
  symbol : (asciiCapitals token.text, operator) ∈ standaloneSymbols
  value : operator ≠ .memoryRecall → token.value = none

/-- A token that joins two operands. -/
structure IsJoint (token : Token) (operator : Operator) : Prop where
  symbol : (asciiCapitals token.text, operator) ∈ joiningSymbols
  value : token.value = none

variable {token : Token} {operator : Operator}

theorem IsAlone.isStandalone (h : token.IsAlone operator) : operator.isStandalone = true :=
  (mem_standaloneSymbols.mp h.symbol).2

theorem IsJoint.joins (h : token.IsJoint operator) : operator.isStandalone = false :=
  (mem_joiningSymbols.mp h.symbol).2

theorem standalone?_eq_some_iff : token.standalone? = some operator ↔ token.IsAlone operator := by
  have hValue : token.value = none ∨ operator = .memoryRecall ↔
      (operator ≠ .memoryRecall → token.value = none) := by
    rw [or_comm, or_iff_not_imp_left]
  constructor
  · intro h
    unfold standalone? at h
    split at h
    · rename_i found hSymbol
      rw [Option.ite_none_right_eq_some] at h
      obtain ⟨⟨hStandalone, hMay⟩, hFound⟩ := h
      cases hFound
      exact ⟨mem_standaloneSymbols.mpr ⟨hSymbol, hStandalone⟩, hValue.mp hMay⟩
    · cases h
  · intro h
    obtain ⟨hSymbol, hStandalone⟩ := mem_standaloneSymbols.mp h.symbol
    simp only [standalone?, hSymbol]
    exact if_pos ⟨hStandalone, hValue.mpr h.value⟩

theorem connective?_eq_some_iff : token.connective? = some operator ↔ token.IsJoint operator := by
  constructor
  · intro h
    unfold connective? at h
    split at h
    · rename_i found hSymbol
      rw [Option.ite_none_right_eq_some, Bool.not_eq_true'] at h
      obtain ⟨⟨hJoins, hValue⟩, hFound⟩ := h
      cases hFound
      exact ⟨mem_joiningSymbols.mpr ⟨hSymbol, hJoins⟩, hValue⟩
    · cases h
  · intro h
    obtain ⟨hSymbol, hJoins⟩ := mem_joiningSymbols.mp h.symbol
    simp only [connective?, hSymbol]
    exact if_pos ⟨by rw [hJoins]; rfl, h.value⟩

end Token

/-- The tokens of a command, given the previous result. -/
inductive Phrase (previous : Float) : List Token → Command → Prop where
  | standalone {only : Token} {operator : Operator} (h : only.IsAlone operator) :
      Phrase previous [only] (.standalone operator)
  | chained {joint right : Token} {operator : Operator} {y : Float}
      (hJoint : joint.IsJoint operator) (hRight : right.value = some y) :
      Phrase previous [joint, right] (.binary previous y operator)
  | full {left joint right : Token} {operator : Operator} {x y : Float}
      (hLeft : left.value = some x) (hJoint : joint.IsJoint operator)
      (hRight : right.value = some y) :
      Phrase previous [left, joint, right] (.binary x y operator)

namespace Phrase

variable {previous : Float} {tokens : List Token}

theorem isStandalone {operator : Operator} (h : Phrase previous tokens (.standalone operator)) :
    operator.isStandalone = true := by
  cases h with
  | standalone hAlone => exact hAlone.isStandalone

theorem joins {left right : Float} {operator : Operator}
    (h : Phrase previous tokens (.binary left right operator)) :
    operator.isStandalone = false := by
  cases h with
  | chained hJoint _ => exact hJoint.joins
  | full _ hJoint _ => exact hJoint.joins

theorem standalone_iff {operator : Operator} :
    Phrase previous tokens (.standalone operator) ↔
      ∃ only, tokens = [only] ∧ only.IsAlone operator := by
  constructor
  · intro h
    cases h with
    | standalone hAlone => exact ⟨_, rfl, hAlone⟩
  · rintro ⟨only, rfl, hAlone⟩
    exact .standalone hAlone

/-- The two shapes of a binary command differ only in where the left operand comes from. -/
theorem binary_iff {left right : Float} {operator : Operator} :
    Phrase previous tokens (.binary left right operator) ↔
      ∃ joint last,
        (tokens = [joint, last] ∧ left = previous ∨
          ∃ first, tokens = [first, joint, last] ∧ first.value = some left) ∧
        joint.IsJoint operator ∧ last.value = some right := by
  constructor
  · intro h
    cases h with
    | chained hJoint hRight => exact ⟨_, _, .inl ⟨rfl, rfl⟩, hJoint, hRight⟩
    | full hLeft hJoint hRight => exact ⟨_, _, .inr ⟨_, rfl, hLeft⟩, hJoint, hRight⟩
  · rintro ⟨joint, last, ⟨rfl, rfl⟩ | ⟨first, rfl, hLeft⟩, hJoint, hRight⟩
    · exact .chained hJoint hRight
    · exact .full hLeft hJoint hRight

end Phrase

namespace Command

/-! ## Resolving tokens -/

theorem ofOperands_eq_some_iff {left right : Option Float} {joint : Token} {command : Command} :
    ofOperands left joint right = some command ↔
      ∃ x operator y, left = some x ∧ joint.IsJoint operator ∧ right = some y ∧
        command = .binary x y operator := by
  simp only [← Token.connective?_eq_some_iff]
  unfold ofOperands
  split
  · rename_i x operator y hJoint
    constructor
    · intro h
      cases h
      exact ⟨x, operator, y, rfl, hJoint, rfl, rfl⟩
    · intro h
      obtain ⟨_, found, _, ⟨⟩, hFound, ⟨⟩, rfl⟩ := h
      rw [hJoint, Option.some.injEq] at hFound
      rw [hFound]
  · rename_i hNone
    simp only [reduceCtorEq, false_iff, not_exists]
    intro x operator y h
    obtain ⟨hLeft, hJoint, hRight, _⟩ := h
    exact hNone x operator y hLeft hJoint hRight

/-- **Tokens resolve to a command exactly if they are a phrase of it.** -/
theorem ofTokens?_eq_some_iff {previous : Float} {tokens : List Token} {command : Command} :
    ofTokens? previous tokens = some command ↔ Phrase previous tokens command := by
  constructor
  · intro h
    match tokens with
    | [] => cases h
    | [only] =>
      obtain ⟨operator, hOperator, rfl⟩ := Option.map_eq_some_iff.mp h
      exact .standalone (Token.standalone?_eq_some_iff.mp hOperator)
    | [joint, right] =>
      obtain ⟨x, operator, y, hLeft, hJoint, hRight, rfl⟩ := ofOperands_eq_some_iff.mp h
      cases hLeft
      exact .chained hJoint hRight
    | [left, joint, right] =>
      obtain ⟨x, operator, y, hLeft, hJoint, hRight, rfl⟩ := ofOperands_eq_some_iff.mp h
      exact .full hLeft hJoint hRight
    | _ :: _ :: _ :: _ :: _ => cases h
  · intro h
    cases h with
    | standalone hAlone =>
      exact Option.map_eq_some_iff.mpr ⟨_, Token.standalone?_eq_some_iff.mpr hAlone, rfl⟩
    | chained hJoint hRight =>
      exact ofOperands_eq_some_iff.mpr ⟨_, _, _, rfl, hJoint, hRight, rfl⟩
    | full hLeft hJoint hRight =>
      exact ofOperands_eq_some_iff.mpr ⟨_, _, _, hLeft, hJoint, hRight, rfl⟩

/-- An operator token with a value joins nothing. -/
example : ofTokens? 1 [⟨"+".toList, some 2⟩, ⟨"5".toList, some 5⟩] = none := rfl

/-- **What tokens resolve to, whatever they are.** A token by itself is the command of a
standalone symbol, without a value if it is not that of the memory recall. Two tokens are a binary
command with the previous result on the left, and three have their left operand in front; the last
has the value of the right operand, and the one before it joins. All other tokens are no command,
and so no command has an operator of the wrong kind. -/
theorem ofTokens?_iff_shapes (previous : Float) (tokens : List Token) :
    (∀ operator, ofTokens? previous tokens = some (.standalone operator) ↔
      ∃ only, tokens = [only] ∧ only.IsAlone operator) ∧
    (∀ left right operator, ofTokens? previous tokens = some (.binary left right operator) ↔
      ∃ joint last,
        (tokens = [joint, last] ∧ left = previous ∨
          ∃ first, tokens = [first, joint, last] ∧ first.value = some left) ∧
        joint.IsJoint operator ∧ last.value = some right) ∧
    (ofTokens? previous tokens = none ↔ ¬∃ command, Phrase previous tokens command) ∧
    (∀ operator, ofTokens? previous tokens = some (.standalone operator) →
      operator.isStandalone = true) ∧
    ∀ left right operator, ofTokens? previous tokens = some (.binary left right operator) →
      operator.isStandalone = false := by
  refine ⟨fun operator => ?_, fun left right operator => ?_, ?_,
    fun operator h => (ofTokens?_eq_some_iff.mp h).isStandalone,
    fun left right operator h => (ofTokens?_eq_some_iff.mp h).joins⟩
  · rw [ofTokens?_eq_some_iff, Phrase.standalone_iff]
  · rw [ofTokens?_eq_some_iff, Phrase.binary_iff]
  · simp only [Option.eq_none_iff_forall_not_mem, Option.mem_def, ofTokens?_eq_some_iff,
      not_exists]

/-- Tokens whose texts and values are at odds: operands that read as commands, and a recall of the
memory without a value. -/
theorem ofTokens?_textsAgainstValues :
    (ofTokens? 0 [⟨"HELP".toList, some 3⟩, ⟨"*".toList, none⟩, ⟨"m+".toList, some 4⟩] =
        some (.binary 3 4 .multiply) ∧
      Operator.multiply.isStandalone = false) ∧
    ofTokens? 0 [⟨"mr".toList, none⟩] = some (.standalone .memoryRecall) ∧
      Operator.memoryRecall.isStandalone = true := by
  have hOperands :=
    ofTokens?_iff_shapes 0 [⟨"HELP".toList, some 3⟩, ⟨"*".toList, none⟩, ⟨"m+".toList, some 4⟩]
  have hRecall := ofTokens?_iff_shapes 0 [⟨"mr".toList, none⟩]
  have hJoint : Token.IsJoint ⟨"*".toList, none⟩ .multiply :=
    ⟨mem_joiningSymbols.mpr ⟨rfl, rfl⟩, rfl⟩
  have hAlone : Token.IsAlone ⟨"mr".toList, none⟩ .memoryRecall :=
    ⟨mem_standaloneSymbols.mpr ⟨rfl, rfl⟩, fun _ => rfl⟩
  have hBinary := (hOperands.2.1 3 4 .multiply).mpr
    ⟨_, _, .inr ⟨_, rfl, rfl⟩, hJoint, rfl⟩
  have hStandalone := (hRecall.1 .memoryRecall).mpr ⟨_, rfl, hAlone⟩
  exact ⟨⟨hBinary, hOperands.2.2.2.2 3 4 .multiply hBinary⟩, hStandalone,
    hRecall.2.2.2.1 .memoryRecall hStandalone⟩

end Command
end PocketCalc
