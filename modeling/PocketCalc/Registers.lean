import PocketCalc.Number.Decimal
import PocketCalc.Operator

/-!
# Registers and what operators do to them

The calculator keeps two values between commands, the memory and the last result.
`Operator.apply` carries an operator out on them and says how it went. What it does is looked up
under the number of the operator, in a table in which every operator has an entry. Each operator
writes at most one of the two registers, and the status tells which: `ok` the result, `memory` the
memory, any other status neither.

A division is refused when the divisor's magnitude is below that of 10⁻¹⁰. The comparison is
one of magnitude bits, which order as the values do; NaN is not below anything.
-/

namespace PocketCalc

/-- How the processing of a command went. -/
inductive Status where
  /-- The result was computed. -/
  | ok
  /-- The memory was changed. -/
  | memory
  /-- Help was asked for. -/
  | help
  /-- The words were no command. -/
  | invalidInput
  /-- The divisor was zero, or so close to it that the division was refused. -/
  | divisionByZero
  /-- The session is to end. -/
  | exit
  deriving Repr, DecidableEq

namespace Status

/-- Every status. -/
def all : List Status := [.ok, .memory, .help, .invalidInput, .divisionByZero, .exit]

/-- The name under which a status is logged. -/
def name : Status → String
  | .ok => "Ok"
  | .memory => "MemoryOp"
  | .help => "Help"
  | .invalidInput => "InvalidInput"
  | .divisionByZero => "DivisionByZero"
  | .exit => "Exit"

/-- The status of a name. -/
def ofName? (name : String) : Option Status := all.find? fun status => status.name == name

/-- Whether a status tells the user of a mistake. -/
def isError : Status → Bool
  | .invalidInput | .divisionByZero => true
  | .ok | .memory | .help | .exit => false

end Status

/-- The values that survive from one command to the next. -/
structure Registers where
  memory : Float
  result : Float
  deriving DecidableEq

/-- The magnitude below which a divisor is refused: the one nearest to 10⁻¹⁰. -/
def leastDivisor : Nat := Decimal.nearest ⟨1, -10⟩

/-- Whether a divisor is zero or too close to it. -/
def isNegligible (divisor : Float) : Bool := Binary64.magnitude divisor < leastDivisor

/-- What can be done to the registers, given two operands, and how it went. -/
abbrev Operation := Registers → Float → Float → Registers × Status

namespace Operation

def divide : Operation := fun registers left right =>
  if isNegligible right then (registers, .divisionByZero)
  else ({ registers with result := left / right }, .ok)

/-- The operations in the order of the numbers of their operators. -/
def all : List Operation :=
  [ fun registers left right => ({ registers with result := left + right }, .ok),
    fun registers left right => ({ registers with result := left - right }, .ok),
    fun registers left right => ({ registers with result := left * right }, .ok),
    divide,
    fun registers left right => ({ registers with result := Float.pow left right }, .ok),
    fun registers _ _ =>
      ({ registers with memory := registers.memory + registers.result }, .memory),
    fun registers _ _ =>
      ({ registers with memory := registers.memory - registers.result }, .memory),
    fun registers _ _ => ({ registers with result := registers.memory }, .ok),
    fun registers _ _ => ({ registers with memory := 0 }, .memory),
    fun registers _ _ => (registers, .help),
    fun registers _ _ => (registers, .exit) ]

end Operation

/-- The operation that an operator is wired to, by its number. -/
def Operator.operation? (operator : Operator) : Option Operation :=
  Operation.all[operator.number]?

/-- Carries out an operator. The operands matter only to the operators that join two. An operator
that no operation is wired to would do nothing. -/
def Operator.apply (operator : Operator) (registers : Registers) (left right : Float) :
    Registers × Status :=
  match operator.operation? with
  | some operation => operation registers left right
  | none => (registers, .invalidInput)

/-- Every operator is wired. -/
theorem Operator.exists_operation (operator : Operator) :
    ∃ operation, operator.operation? = some operation := by
  cases operator <;> exact ⟨_, rfl⟩

theorem Operator.apply_divide (registers : Registers) (left right : Float) :
    Operator.divide.apply registers left right =
      if isNegligible right then (registers, .divisionByZero)
      else ({ registers with result := left / right }, .ok) := rfl

/-- A standalone operator does not look at the operands. -/
theorem Operator.apply_of_isStandalone {operator : Operator} (h : operator.isStandalone = true)
    (registers : Registers) (left right left' right' : Float) :
    operator.apply registers left right = operator.apply registers left' right' := by
  cases operator <;> first | exact absurd h (by decide) | rfl

/-- No operator answers that words were invalid. -/
theorem Operator.apply_ne_invalidInput (operator : Operator) (registers : Registers)
    (left right : Float) : (operator.apply registers left right).2 ≠ .invalidInput := by
  cases operator with
  | divide => rw [apply_divide]; split <;> exact Status.noConfusion
  | _ => exact Status.noConfusion

/-- No status but `ok` goes with a new result. -/
theorem Operator.result_apply {operator : Operator} {registers : Registers} {left right : Float}
    (h : (operator.apply registers left right).2 ≠ .ok) :
    (operator.apply registers left right).1.result = registers.result := by
  cases operator with
  | divide =>
    rw [apply_divide] at h ⊢
    split at h
    · rename_i hNegligible
      rw [if_pos hNegligible]
    · exact absurd rfl h
  | _ => first | rfl | exact absurd rfl h

/-- No status but `memory` goes with a new memory. -/
theorem Operator.memory_apply {operator : Operator} {registers : Registers} {left right : Float}
    (h : (operator.apply registers left right).2 ≠ .memory) :
    (operator.apply registers left right).1.memory = registers.memory := by
  cases operator with
  | divide => rw [apply_divide]; split <;> rfl
  | _ => first | rfl | exact absurd rfl h

/-- An operator that refuses a division leaves the registers as they were. -/
theorem Operator.registers_of_divisionByZero {operator : Operator} {registers : Registers}
    {left right : Float} (h : (operator.apply registers left right).2 = .divisionByZero) :
    (operator.apply registers left right).1 = registers := by
  cases operator with
  | divide =>
    rw [apply_divide] at h ⊢
    split at h
    · rename_i hNegligible
      rw [if_pos hNegligible]
    · cases h
  | _ => cases h

end PocketCalc
