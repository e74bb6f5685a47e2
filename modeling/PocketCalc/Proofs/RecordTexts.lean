import PocketCalc.Log
import PocketCalc.Proofs.RecordedNumbers

/-!
# The texts of records

`Prints record entry` says what is printed of a record, each piece spelled out: the level, the stage,
the words of the message, and in them the names, texts and numbers of the record. None of it is taken
from the functions that write the messages, so it says what they have to write. There is nothing to be
printed of the warning about an operator without an operation.

A text stands between quotes, scalar by scalar (`Text.IsEscaped`). That is settled for ASCII only,
which is why printing is one way to read a record only where its texts are in ASCII
(`Record.IsPrintable`). There the printed form is `Record.entry` and no other (`prints_iff`).
-/

namespace PocketCalc

/-- What is printed of a record: its level, the stage that it comes from, and its message. -/
abbrev Entry := String × String × Text

def Record.entry (record : Record) : Entry :=
  (record.level.name, record.stage.name, record.message)

/-! ## Quoted texts -/

namespace Text

/-- Whether a text is in ASCII. -/
def IsAscii (text : Text) : Prop := ∀ c ∈ text, c.toNat < 0x80

instance (text : Text) : Decidable text.IsAscii :=
  List.decidableBAll (fun c : Char => c.toNat < 0x80) text

/-- The scalars that have a letter of their own after a backslash. -/
def escapeLetters : List (Char × Char) :=
  [('"', '"'), ('\\', '\\'), ('\x00', '0'), ('\t', 't'), ('\n', 'n'), ('\r', 'r')]

/-- How a scalar of ASCII stands between quotes: as its letter after a backslash, by its code if it is
another control character, or else as it is. -/
inductive IsEscaped (c : Char) : Text → Prop
  | letter {letter : Char} (h : (c, letter) ∈ escapeLetters) : IsEscaped c ['\\', letter]
  | code (hNone : c ∉ escapeLetters.map Prod.fst)
      (hControl : c.toNat < 0x20 ∨ c.toNat = 0x7F) :
      IsEscaped c ("\\u\x7b".toList ++ Nat.toDigits 16 c.toNat ++ "\x7d".toList)
  | plain (hNone : c ∉ escapeLetters.map Prod.fst)
      (hPrinted : 0x20 ≤ c.toNat ∧ c.toNat < 0x7F) : IsEscaped c [c]

/-- How a text stands between quotes. -/
def IsQuoted (text shown : Text) : Prop :=
  ∃ pieces, List.Forall₂ IsEscaped text pieces ∧ shown = ['"'] ++ pieces.flatten ++ ['"']

/-- How texts stand between brackets. -/
def AreQuoted (texts : List Text) (shown : Text) : Prop :=
  ∃ pieces, List.Forall₂ IsQuoted texts pieces ∧
    shown = ['['] ++ ", ".toList.intercalate pieces ++ [']']

end Text

/-! ## Records -/

/-- The names of the operators. -/
def operatorNames : List (Operator × String) :=
  [(.add, "Add"), (.subtract, "Subtract"), (.multiply, "Multiply"), (.divide, "Divide"),
    (.power, "Power"), (.memoryAdd, "MemoryAdd"), (.memorySubtract, "MemorySubtract"),
    (.memoryRecall, "MemoryRecall"), (.memoryClear, "MemoryClear"), (.help, "Help"),
    (.exit, "Exit")]

/-- The names of the statuses. -/
def statusNames : List (Status × String) :=
  [(.ok, "Ok"), (.memory, "MemoryOp"), (.help, "Help"), (.invalidInput, "InvalidInput"),
    (.divisionByZero, "DivisionByZero"), (.exit, "Exit")]

/-- How a command is written: its operator, and its operands if it has any. -/
inductive IsCommandText : Command → Text → Prop
  | standalone {operator : Operator} {name : String} (hName : (operator, name) ∈ operatorNames) :
      IsCommandText (.standalone operator) ("Standalone(".toList ++ name.toList ++ ")".toList)
  | binary {x y : Float} {left right : Text} {operator : Operator} {name : String}
      (hLeft : IsNumberText x left) (hRight : IsNumberText y right)
      (hName : (operator, name) ∈ operatorNames) :
      IsCommandText (.binary x y operator)
        ("Binary \x7b operand1: ".toList ++ left ++ ", operand2: ".toList ++ right ++
          ", operator: ".toList ++ name.toList ++ " \x7d".toList)

/-- How the registers are written. -/
inductive AreRegistersText (registers : Registers) : Text → Prop
  | intro {memory result : Text} (hMemory : IsNumberText registers.memory memory)
      (hResult : IsNumberText registers.result result) :
      AreRegistersText registers
        ("Registers \x7b memory: ".toList ++ memory ++ ", result: ".toList ++ result ++
          " \x7d".toList)

/-- What is printed of a record. -/
inductive Prints : Record → Entry → Prop
  | truncated {kept shown : Text} (hQuoted : Text.IsQuoted kept shown) :
      Prints (.truncated kept) ("DEBUG", "lex", "input truncated to ".toList ++ shown)
  | split {words : List Text} {shown : Text} (hQuoted : Text.AreQuoted words shown) :
      Prints (.split words) ("DEBUG", "lex", "tokens: ".toList ++ shown)
  | number {word shown : Text} (hQuoted : Text.IsQuoted word shown) :
      Prints (.known word true) ("TRACE", "lex", shown ++ " numeric=true".toList)
  | symbol {word shown : Text} (hQuoted : Text.IsQuoted word shown) :
      Prints (.known word false) ("TRACE", "lex", shown ++ " numeric=false".toList)
  | unknown {word shown : Text} (hQuoted : Text.IsQuoted word shown) :
      Prints (.unknown word) ("DEBUG", "lex", "unrecognized token ".toList ++ shown)
  | resolved {command : Command} {shown : Text} (hCommand : IsCommandText command shown) :
      Prints (.resolved command) ("DEBUG", "parse", "resolved ".toList ++ shown)
  | executed {operator : Operator} {status : Status} {registers : Registers}
      {operatorName statusName : String} {shown : Text}
      (hOperator : (operator, operatorName) ∈ operatorNames)
      (hStatus : (status, statusName) ∈ statusNames)
      (hRegisters : AreRegistersText registers shown) :
      Prints (.executed operator status registers)
        ("DEBUG", "exec",
          operatorName.toList ++ " -> ".toList ++ statusName.toList ++ ' ' :: shown)

/-- What can be printed: any record whose texts are in ASCII, but for the warning. -/
def Record.IsPrintable : Record → Prop
  | .truncated text | .known text _ | .unknown text => text.IsAscii
  | .split words => ∀ word ∈ words, word.IsAscii
  | .resolved _ | .executed .. => True
  | .unwired _ => False

/-! ## One way to print a record -/

/-- Element by element, a relation that is a function on a list is this function on the list. -/
theorem forall₂_iff_eq_map {α β : Type} {R : α → β → Prop} {f : α → β} {xs : List α} {ys : List β}
    (h : ∀ x ∈ xs, ∀ y, R x y ↔ y = f x) : List.Forall₂ R xs ys ↔ ys = xs.map f := by
  induction xs generalizing ys with
  | nil => rw [List.forall₂_nil_left_iff, List.map_nil]
  | cons x xs ih =>
    obtain ⟨hHead, hTail⟩ := List.forall_mem_cons.mp h
    rw [List.forall₂_cons_left_iff, List.map_cons]
    constructor
    · rintro ⟨y, rest, hy, hRest, rfl⟩
      rw [(hHead y).mp hy, (ih hTail).mp hRest]
    · intro hys
      exact ⟨f x, xs.map f, (hHead _).mpr rfl, (ih hTail).mpr rfl, hys⟩

namespace Text

theorem eq_quotedChar_of_isEscaped {c : Char} {shown : Text} (h : IsEscaped c shown) :
    shown = quotedChar c := by
  cases h with
  | letter hLetter =>
    simp only [escapeLetters, List.mem_cons, Prod.mk.injEq, List.not_mem_nil, or_false] at hLetter
    rcases hLetter with
      ⟨rfl, rfl⟩ | ⟨rfl, rfl⟩ | ⟨rfl, rfl⟩ | ⟨rfl, rfl⟩ | ⟨rfl, rfl⟩ | ⟨rfl, rfl⟩ <;> rfl
  | code hNone hControl =>
    simp only [escapeLetters, List.map_cons, List.map_nil, List.mem_cons, not_or] at hNone
    simp [quotedChar, hNone, hControl]
  | plain hNone hPrinted =>
    have hControl : ¬ (c.toNat < 0x20 ∨ c.toNat = 0x7F) := by omega
    simp only [escapeLetters, List.map_cons, List.map_nil, List.mem_cons, not_or] at hNone
    simp [quotedChar, hNone, hControl]

theorem exists_isEscaped {c : Char} (hAscii : c.toNat < 0x80) : ∃ shown, IsEscaped c shown := by
  by_cases hLetter : c ∈ escapeLetters.map Prod.fst
  · obtain ⟨entry, hMem, rfl⟩ := List.mem_map.mp hLetter
    exact ⟨_, .letter hMem⟩
  · by_cases hControl : c.toNat < 0x20 ∨ c.toNat = 0x7F
    · exact ⟨_, .code hLetter hControl⟩
    · exact ⟨_, .plain hLetter (by omega)⟩

theorem isEscaped_iff {c : Char} (hAscii : c.toNat < 0x80) {shown : Text} :
    IsEscaped c shown ↔ shown = quotedChar c := by
  refine ⟨eq_quotedChar_of_isEscaped, ?_⟩
  rintro rfl
  obtain ⟨shown, hShown⟩ := exists_isEscaped hAscii
  exact eq_quotedChar_of_isEscaped hShown ▸ hShown

theorem isQuoted_iff {text shown : Text} (hAscii : text.IsAscii) :
    IsQuoted text shown ↔ shown = quoted text := by
  have hPieces (pieces : List Text) :
      List.Forall₂ IsEscaped text pieces ↔ pieces = text.map quotedChar :=
    forall₂_iff_eq_map fun c hc _ => isEscaped_iff (hAscii c hc)
  simp only [IsQuoted, hPieces, exists_eq_left]
  rfl

theorem areQuoted_iff {texts : List Text} {shown : Text} (hAscii : ∀ text ∈ texts, text.IsAscii) :
    AreQuoted texts shown ↔ shown = quotedList texts := by
  have hPieces (pieces : List Text) :
      List.Forall₂ IsQuoted texts pieces ↔ pieces = texts.map quoted :=
    forall₂_iff_eq_map fun text hText _ => isQuoted_iff (hAscii text hText)
  simp only [AreQuoted, hPieces, exists_eq_left]
  rfl

end Text

theorem mem_operatorNames_iff {operator : Operator} {name : String} :
    (operator, name) ∈ operatorNames ↔ name = operator.name := by
  cases operator <;> simp [operatorNames, Operator.name]

theorem mem_statusNames_iff {status : Status} {name : String} :
    (status, name) ∈ statusNames ↔ name = status.name := by
  cases status <;> simp [statusNames, Status.name]

theorem isCommandText_iff {command : Command} {shown : Text} :
    IsCommandText command shown ↔ shown = Record.commandText command := by
  constructor
  · rintro (hName | ⟨hLeft, hRight, hName⟩)
    · rw [mem_operatorNames_iff.mp hName]
      rfl
    · rw [isNumberText_iff.mp hLeft, isNumberText_iff.mp hRight, mem_operatorNames_iff.mp hName]
      rfl
  · rintro rfl
    cases command with
    | standalone operator => exact .standalone (mem_operatorNames_iff.mpr rfl)
    | binary x y operator =>
      exact .binary (isNumberText_iff.mpr rfl) (isNumberText_iff.mpr rfl)
        (mem_operatorNames_iff.mpr rfl)

theorem areRegistersText_iff {registers : Registers} {shown : Text} :
    AreRegistersText registers shown ↔ shown = Record.registersText registers := by
  constructor
  · rintro ⟨hMemory, hResult⟩
    rw [isNumberText_iff.mp hMemory, isNumberText_iff.mp hResult]
    rfl
  · rintro rfl
    exact .intro (isNumberText_iff.mpr rfl) (isNumberText_iff.mpr rfl)

theorem entry_known (word : Text) (isNumber : Bool) :
    (Record.known word isNumber).entry =
      ("TRACE", "lex", Text.quoted word ++
        (if isNumber then " numeric=true".toList else " numeric=false".toList)) := by
  have hMessage : (Record.known word isNumber).message =
      Text.quoted word ++ " numeric=".toList ++ (if isNumber then "true" else "false").toList := rfl
  rw [Record.entry, hMessage, List.append_assoc]
  cases isNumber <;> rfl

/-- **Records are printed as it is said here, and in no other way.** -/
theorem prints_iff {record : Record} (h : record.IsPrintable) {entry : Entry} :
    Prints record entry ↔ entry = record.entry := by
  constructor
  · intro hPrints
    cases hPrints with
    | truncated hQuoted | unknown hQuoted =>
      rw [(Text.isQuoted_iff h).mp hQuoted]
      rfl
    | number hQuoted | symbol hQuoted =>
      rw [(Text.isQuoted_iff h).mp hQuoted, entry_known]
      rfl
    | split hQuoted =>
      rw [(Text.areQuoted_iff h).mp hQuoted]
      rfl
    | resolved hCommand =>
      rw [isCommandText_iff.mp hCommand]
      rfl
    | executed hOperator hStatus hRegisters =>
      rw [mem_operatorNames_iff.mp hOperator, mem_statusNames_iff.mp hStatus,
        areRegistersText_iff.mp hRegisters]
      rfl
  · rintro rfl
    cases record with
    | truncated kept => exact .truncated ((Text.isQuoted_iff h).mpr rfl)
    | split words => exact .split ((Text.areQuoted_iff h).mpr rfl)
    | known word isNumber =>
      rw [entry_known]
      cases isNumber with
      | true => exact .number ((Text.isQuoted_iff h).mpr rfl)
      | false => exact .symbol ((Text.isQuoted_iff h).mpr rfl)
    | unknown word => exact .unknown ((Text.isQuoted_iff h).mpr rfl)
    | resolved command => exact .resolved (isCommandText_iff.mpr rfl)
    | unwired operator => exact h.elim
    | executed operator status registers =>
      exact .executed (mem_operatorNames_iff.mpr rfl) (mem_statusNames_iff.mpr rfl)
        (areRegistersText_iff.mpr rfl)

/-- No warning is printed. -/
theorem Prints.level_ne_warn {record : Record} {entry : Entry} (h : Prints record entry) :
    entry.1 ≠ "WARN" := by
  cases h <;> simp

end PocketCalc
