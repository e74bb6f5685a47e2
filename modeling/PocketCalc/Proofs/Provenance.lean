import PocketCalc.Proofs.Runs

/-!
# Where what a calculator holds comes from

Lines, words and executions may come in any order. Whatever the order, each field of a calculator
is what the latest step that wrote it wrote, and the history of steps tells which one that was:

* the operands are those of the latest step that resolved to a command with operands
  (`Step.operands?`);
* the operator is that of the latest step that resolved to a command (`Step.operator?`);
* the registers are what execution returned in the latest step that executed (`Step.executed?`).

`Calculator.fields_eq_latest` says so of every list of requests. It also says that each step on the
way is atomic (`Step.IsAtomic`): one that fails fails before it has written anything.

## Two halves of a step

Whatever the request, a step is to load what its words resolved to and then to execute or not
(`Step.after_eq`). Loading writes the operands and the operator, and execution the registers, so
neither half can undo what the other has done, and what a step does to one field can be read off
by itself. One induction for all fields (`eq_latest_history`) makes a statement on the history of
that.
-/

namespace PocketCalc

/-- The operator that a command loads. -/
def Command.operator : Command → Operator
  | .standalone operator => operator
  | .binary _ _ operator => operator

/-- The operands that a command loads, if it does load any. -/
def Command.operands? : Command → Option (Float × Float)
  | .standalone _ => none
  | .binary left right _ => some (left, right)

/-! ## Steps and histories -/

/-- A request that a calculator was asked to serve, with what came of it. -/
structure Step where
  before : Calculator
  request : Request
  after : Calculator
  status? : Option Status
  serves : before.Serves request after status?

namespace Step

/-- How the words of a step were parsed. A step that only executes has none. -/
def parse? (step : Step) : Option (Except Rejection Command) :=
  step.request.words?.map step.before.command

/-- The command that a step resolved to. -/
def command? (step : Step) : Option Command := step.parse?.bind Except.toOption

/-- The operands that a step loaded. -/
def operands? (step : Step) : Option (Float × Float) := step.command?.bind Command.operands?

/-- The operator that a step loaded. -/
def operator? (step : Step) : Option Operator := step.command?.map Command.operator

/-- The calculator after loading, whether or not there was a command to load. -/
def loaded (step : Step) : Calculator :=
  match step.command? with
  | some command => step.before.put command
  | none => step.before

/-- Whether a step executed what was loaded then. -/
def executes (step : Step) : Bool :=
  match step.request with
  | .line _ => step.command?.isSome
  | .load _ => false
  | .execute => true

/-- The registers that execution returned, given what was loaded and the registers before. -/
def executed? (step : Step) : Option Registers :=
  if step.executes then
    some (step.after.operator.apply step.before.registers step.after.left step.after.right).1
  else none

end Step

/-- What the latest step that gives something gives; `start` if no step does. -/
def latest {α : Type} (event? : Step → Option α) (steps : List Step) (start : α) : α :=
  (steps.reverse.findSome? event?).getD start

namespace Calculator

/-- The steps in which requests are served. -/
def history (calculator : Calculator) : List Request → List Step
  | [] => []
  | request :: rest =>
    { before := calculator
      request
      after := (calculator.step request).1
      status? := (calculator.step request).2.status?
      serves := calculator.serves_step request } ::
    (calculator.step request).1.history rest

/-- The history is that of the requests as they are served. -/
theorem map_after_history (calculator : Calculator) (requests : List Request) :
    (calculator.history requests).map (fun step => (step.after, step.status?)) =
      (calculator.serve requests).map fun served => (served.1, served.2.status?) := by
  induction requests generalizing calculator with
  | nil => rfl
  | cons request rest ih => simp only [history, serve, List.map_cons, ih]

end Calculator

/-! ## What becomes of each field in a step -/

namespace Calculator

theorem operands_put (calculator : Calculator) (command : Command) :
    ((calculator.put command).left, (calculator.put command).right) =
      command.operands?.getD (calculator.left, calculator.right) := by
  cases command <;> rfl

theorem operator_put (calculator : Calculator) (command : Command) :
    (calculator.put command).operator = command.operator := by
  cases command <;> rfl

end Calculator

namespace Step

theorem command?_of_ok {step : Step} {words : List Text} {command : Command}
    (hWords : step.request.words? = some words) (h : step.before.command words = .ok command) :
    step.command? = some command := by
  rw [command?, parse?, hWords, Option.map_some, h]
  rfl

theorem command?_of_error {step : Step} {words : List Text} {reason : Rejection}
    (hWords : step.request.words? = some words) (h : step.before.command words = .error reason) :
    step.command? = none := by
  rw [command?, parse?, hWords, Option.map_some, h]
  rfl

theorem executes_eq_false_of_error {step : Step} {words : List Text} {reason : Rejection}
    (hWords : step.request.words? = some words) (h : step.before.command words = .error reason) :
    step.executes = false := by
  have hCommand := command?_of_error hWords h
  rw [executes]
  split
  · rw [hCommand, Option.isSome_none]
  · rfl
  · rename_i hRequest
    rw [hRequest] at hWords
    cases hWords

/-- A step is to load, and then to execute or not. -/
theorem after_eq (step : Step) :
    step.after = if step.executes then step.loaded.execute.1 else step.loaded := by
  obtain ⟨before, request, after, status?, hServes⟩ := step
  rw [loaded]
  cases hServes with
  | rejected hWords hReason =>
    rw [command?_of_error hWords hReason, executes_eq_false_of_error hWords hReason]
    rfl
  | loaded hCommand =>
    rw [command?_of_ok rfl hCommand]
    rfl
  | entered hCommand =>
    rw [executes, command?_of_ok rfl hCommand]
    rfl
  | executed => rfl

theorem registers_loaded (step : Step) : step.loaded.registers = step.before.registers := by
  rw [loaded]
  split
  · exact step.before.registers_put _
  · rfl

theorem operands_after (step : Step) :
    (step.after.left, step.after.right) =
      step.operands?.getD (step.before.left, step.before.right) := by
  have hLoaded : (step.after.left, step.after.right) = (step.loaded.left, step.loaded.right) := by
    rw [after_eq]
    split <;> rfl
  rw [hLoaded, loaded, operands?]
  cases step.command? with
  | none => rfl
  | some command => exact step.before.operands_put command

theorem operator_after (step : Step) :
    step.after.operator = step.operator?.getD step.before.operator := by
  have hLoaded : step.after.operator = step.loaded.operator := by
    rw [after_eq]
    split <;> rfl
  rw [hLoaded, loaded, operator?]
  cases step.command? with
  | none => rfl
  | some command => exact step.before.operator_put command

theorem registers_after (step : Step) :
    step.after.registers = step.executed?.getD step.before.registers := by
  rw [executed?, after_eq, ← registers_loaded]
  by_cases hExecutes : step.executes = true
  · simp only [hExecutes, if_true, Option.getD_some]
    rfl
  · simp only [hExecutes, if_false, Option.getD_none, Bool.false_eq_true]

/-! ## What a step leaves alone -/

/-- A step writes nothing that it should not, and nothing at all if it fails. -/
structure IsAtomic (step : Step) : Prop where
  /-- Words that are no command are invalid input and change nothing. -/
  rejected : ∀ reason, step.parse? = some (.error reason) →
    step.status? = some .invalidInput ∧ step.after = step.before
  /-- Loading touches no register. -/
  loaded : ∀ words, step.request = .load words → step.after.registers = step.before.registers
  /-- Execution touches nothing that was loaded, and has no input that could be invalid. -/
  executed : step.request = .execute →
    step.after.left = step.before.left ∧ step.after.right = step.before.right ∧
      step.after.operator = step.before.operator ∧ step.status? ≠ some .invalidInput
  /-- A division that is refused touches no register. -/
  refused : step.status? = some .divisionByZero → step.after.registers = step.before.registers

theorem isAtomic (step : Step) : step.IsAtomic := by
  obtain ⟨before, request, after, status?, hServes⟩ := step
  cases hServes with
  | rejected hWords hReason =>
    refine ⟨fun _ _ => ⟨rfl, rfl⟩, fun _ _ => rfl, ?_, fun _ => rfl⟩
    rintro rfl
    cases hWords
  | loaded hCommand =>
    refine ⟨?_, fun _ _ => before.registers_put _, nofun, nofun⟩
    intro reason hParse
    simp [parse?, Request.words?, hCommand] at hParse
  | entered hCommand =>
    refine ⟨?_, nofun, nofun, ?_⟩
    · intro reason hParse
      simp [parse?, Request.words?, hCommand] at hParse
    · intro hRefused
      exact (Operator.registers_of_divisionByZero (Option.some.inj hRefused)).trans
        (before.registers_put _)
  | executed =>
    refine ⟨nofun, nofun, fun _ => ⟨rfl, rfl, rfl, ?_⟩, ?_⟩
    · exact fun hInvalid => Operator.apply_ne_invalidInput _ _ _ _ (Option.some.inj hInvalid)
    · exact fun hRefused => Operator.registers_of_divisionByZero (Option.some.inj hRefused)

end Step

/-! ## The history of a session -/

theorem latest_cons {α : Type} (event? : Step → Option α) (step : Step) (rest : List Step)
    (start : α) :
    latest event? (step :: rest) start = latest event? rest ((event? step).getD start) := by
  rw [latest, latest, List.reverse_cons, List.findSome?_append]
  cases rest.reverse.findSome? event? with
  | none => cases h : event? step <;> simp [h]
  | some value => rfl

namespace Calculator

/-- What every step either keeps or has from what happened in it, a session has from the latest
step in which it happened. -/
theorem eq_latest_history {α : Type} (field : Calculator → α) (event? : Step → Option α)
    (hStep : ∀ step : Step, field step.after = (event? step).getD (field step.before))
    (calculator : Calculator) (requests : List Request) :
    field (calculator.after requests) =
      latest event? (calculator.history requests) (field calculator) := by
  induction requests generalizing calculator with
  | nil => rfl
  | cons request rest ih =>
    rw [after, ih, history, latest_cons]
    congr 1
    exact hStep ⟨calculator, request, _, _, calculator.serves_step request⟩

/-- **Everything a calculator holds comes from the latest step that wrote it.** This is so after
any requests from any registers; and each step is atomic. -/
theorem fields_eq_latest (registers : Registers) (requests : List Request) :
    let steps := (ofRegisters registers).history requests
    let final := (ofRegisters registers).after requests
    (final.left, final.right) = latest Step.operands? steps (0, 0) ∧
      final.operator = latest Step.operator? steps .add ∧
      final.registers = latest Step.executed? steps registers ∧
      ∀ step ∈ steps, step.IsAtomic :=
  ⟨eq_latest_history (fun c => (c.left, c.right)) Step.operands? Step.operands_after _ _,
    eq_latest_history Calculator.operator Step.operator? Step.operator_after _ _,
    eq_latest_history Calculator.registers Step.executed? Step.registers_after _ _,
    fun step _ => step.isAtomic⟩

end Calculator
end PocketCalc
