import PocketCalc.Calculator

/-!
# Requests one after the other

What one request can do is said once, by `Calculator.Serves`: words that are no command change
nothing; words that are one are loaded, and executed too if they came as a line; and what is
loaded can be executed again. Facts about steps are proved by cases on it.

`Calculator.after` is the state in which a list of requests leaves a calculator. A list that is
served in two parts is served as a whole (`serve_append`).
-/

namespace PocketCalc

/-- The words that a request wants to be loaded. -/
def Request.words? : Request → Option (List Text)
  | .line text => some (Line.ofText text).words
  | .load words => some words
  | .execute => none

namespace Calculator

/-! ## One request -/

theorem process_of_command_error {calculator : Calculator} {words : List Text}
    {reason : Rejection} (h : calculator.command words = .error reason) :
    calculator.process words = (calculator, .invalidInput) := by
  simp only [process, load, h]

theorem process_of_command_ok {calculator : Calculator} {words : List Text} {command : Command}
    (h : calculator.command words = .ok command) :
    calculator.process words = (calculator.put command).execute := by
  simp only [process, load, h]

/-- What a request can do to a calculator: the state after it, and the status that the reply
gives. -/
inductive Serves (calculator : Calculator) : Request → Calculator → Option Status → Prop where
  | rejected {request : Request} {words : List Text} {reason : Rejection}
      (hWords : request.words? = some words) (hReason : calculator.command words = .error reason) :
      Serves calculator request calculator (some .invalidInput)
  | loaded {words : List Text} {command : Command}
      (hCommand : calculator.command words = .ok command) :
      Serves calculator (.load words) (calculator.put command) none
  | entered {text : Text} {command : Command}
      (hCommand : calculator.command (Line.ofText text).words = .ok command) :
      Serves calculator (.line text) (calculator.put command).execute.1
        (some (calculator.put command).execute.2)
  | executed : Serves calculator .execute calculator.execute.1 (some calculator.execute.2)

/-- There is nothing else that a request can do. -/
theorem serves_step (calculator : Calculator) (request : Request) :
    calculator.Serves request (calculator.step request).1 (calculator.step request).2.status? := by
  cases request with
  | line text =>
    cases hCommand : calculator.command (Line.ofText text).words with
    | error reason =>
      simp only [step, enter, process_of_command_error hCommand]
      exact .rejected rfl hCommand
    | ok command =>
      simp only [step, enter, process_of_command_ok hCommand]
      exact .entered hCommand
  | load words =>
    cases hCommand : calculator.command words with
    | error reason =>
      simp only [step, load, hCommand]
      exact .rejected rfl hCommand
    | ok command =>
      simp only [step, load, hCommand]
      exact .loaded hCommand
  | execute => exact .executed

/-! ## Many requests -/

/-- The state in which requests leave a calculator. -/
def after (calculator : Calculator) : List Request → Calculator
  | [] => calculator
  | request :: rest => (calculator.step request).1.after rest

/-- What comes later is served from the state in which what came before left the calculator. -/
theorem serve_append (calculator : Calculator) (first second : List Request) :
    calculator.serve (first ++ second) =
      calculator.serve first ++ (calculator.after first).serve second := by
  induction first generalizing calculator with
  | nil => rfl
  | cons request rest ih =>
    simp only [List.cons_append, serve, after]
    rw [ih]

theorem after_append (calculator : Calculator) (first second : List Request) :
    calculator.after (first ++ second) = (calculator.after first).after second := by
  induction first generalizing calculator with
  | nil => rfl
  | cons request rest ih => exact ih _

/-! ## Many lines -/

/-- The outcomes of lines that are processed one after the other. -/
def outcomes (calculator : Calculator) : List Text → List Outcome
  | [] => []
  | text :: rest => (calculator.enter text).2 :: (calculator.enter text).1.outcomes rest

/-- The outcomes of lines are the replies to them. -/
theorem map_reply_serve_lines (calculator : Calculator) (texts : List Text) :
    (calculator.serve (texts.map .line)).map Prod.snd =
      (calculator.outcomes texts).map .line := by
  induction texts generalizing calculator with
  | nil => rfl
  | cons text rest ih => simp only [List.map_cons, serve, step, outcomes, ih]

/-- What is left of the replies once earlier lines are dropped is what later lines are served. -/
theorem drop_serve_lines (calculator : Calculator) (before rest : List Text) :
    (calculator.serve ((before ++ rest).map .line)).drop before.length =
      (calculator.after (before.map .line)).serve (rest.map .line) := by
  rw [List.map_append, serve_append]
  exact List.drop_left' (by rw [length_serve, List.length_map])

theorem outcomes_append (calculator : Calculator) (first second : List Text) :
    calculator.outcomes (first ++ second) =
      calculator.outcomes first ++ (calculator.after (first.map .line)).outcomes second := by
  induction first generalizing calculator with
  | nil => rfl
  | cons text rest ih =>
    simp only [List.cons_append, outcomes, List.map_cons, after]
    rw [ih]
    rfl

@[simp] theorem length_outcomes (calculator : Calculator) (texts : List Text) :
    (calculator.outcomes texts).length = texts.length := by
  induction texts generalizing calculator with
  | nil => rfl
  | cons text rest ih => simp only [outcomes, List.length_cons, ih]

end Calculator
end PocketCalc
