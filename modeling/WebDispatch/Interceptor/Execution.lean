import WebDispatch.Interceptor.Basic

/-!
# Running the hooks of interceptors

The first hooks run in order until one does not go on.  The other hooks run in reverse order, the
last ones for those interceptors whose first hook was entered.  An execution keeps count of those,
and completes once.
-/

namespace WebDispatch

variable {σ : Type}

namespace Interceptor

/-- Run the first hooks in order until one fails or does not go on; also says how many were
entered. -/
def enterAll (handler : Handler σ) :
    List (Interceptor σ) → Exchange σ → (Except Failure Bool × Nat) × Exchange σ
  | [], x => ((.ok true, 0), x)
  | interceptor :: rest, x =>
      match interceptor.preHandle handler x with
      | (.ok true, x) =>
          match enterAll handler rest x with
          | ((result, entered), x) => ((result, entered + 1), x)
      | (result, x) => ((result, 1), x)

/-- What a hook leaves of a view: a hook can change a view, but neither make nor remove one. -/
def keptView (before after : Option ModelAndView) : Option ModelAndView :=
  before.map fun view => after.getD view

/-- Run the hooks that see the view, in the order of the list, until one fails. -/
def postAll (handler : Handler σ) : List (Interceptor σ) → Option ModelAndView → Exchange σ →
    Except Failure Unit × Option ModelAndView × Exchange σ
  | [], view, x => (.ok (), view, x)
  | interceptor :: rest, view, x =>
      match interceptor.postHandle handler view x with
      | (.ok _, changed, x) => postAll handler rest (keptView view changed) x
      | (.error failure, changed, x) => (.error failure, keptView view changed, x)

/-- Run the last hooks, in the order of the list, also if some fail; says the first failure. -/
def completeAll (handler : Handler σ) (failure : Option Failure) :
    List (Interceptor σ) → Exchange σ → Except Failure Unit × Exchange σ
  | [], x => (.ok (), x)
  | interceptor :: rest, x =>
      let (first, x) := interceptor.afterCompletion handler failure x
      let (others, x) := completeAll handler failure rest x
      match first with
      | .error failure => (.error failure, x)
      | .ok _ => (others, x)

theorem entered_enterAll_le (handler : Handler σ) (interceptors : List (Interceptor σ))
    (x : Exchange σ) : (enterAll handler interceptors x).1.2 ≤ interceptors.length := by
  induction interceptors generalizing x with
  | nil => exact Nat.le_refl _
  | cons interceptor rest ih =>
      unfold enterAll
      split
      · exact Nat.succ_le_succ (ih _)
      · exact Nat.succ_le_succ (Nat.zero_le _)

end Interceptor

/-- A handler and the interceptors around it. -/
structure HandlerChain (σ : Type) where
  /-- The handler. -/
  handler : Handler σ
  /-- The interceptors in order. -/
  interceptors : List (Interceptor σ) := []

/-- A handler chain while its hooks run. -/
structure Execution (σ : Type) extends HandlerChain σ where
  /-- How many first hooks were entered, over all runs of them. -/
  entered : Nat := 0
  /-- Whether the last hooks were run. -/
  completed : Bool := false

namespace Execution

/-- Put an interceptor behind the others. -/
def addInterceptor (execution : Execution σ) (interceptor : Interceptor σ) : Execution σ :=
  { execution with interceptors := execution.interceptors ++ [interceptor] }

/-- Run the last hooks of the interceptors whose first hook was entered, unless that was done.
Nothing if more first hooks were entered than there are interceptors: first hooks are to be run
once. -/
def complete? (execution : Execution σ) (failure : Option Failure) (x : Exchange σ) :
    Option ((Except Failure Unit × Exchange σ) × Execution σ) :=
  if execution.completed then some ((.ok (), x), execution)
  else if execution.entered ≤ execution.interceptors.length then
    some (Interceptor.completeAll execution.handler failure
        (execution.interceptors.take execution.entered).reverse x,
      { execution with completed := true })
  else none

theorem complete?_of_completed {execution : Execution σ} (completed : execution.completed = true)
    (failure : Option Failure) (x : Exchange σ) :
    execution.complete? failure x = some ((.ok (), x), execution) := by
  simp [complete?, completed]

theorem complete?_of_entered_le {execution : Execution σ} (running : execution.completed = false)
    (inside : execution.entered ≤ execution.interceptors.length) (failure : Option Failure)
    (x : Exchange σ) :
    execution.complete? failure x =
      some (Interceptor.completeAll execution.handler failure
          (execution.interceptors.take execution.entered).reverse x,
        { execution with completed := true }) := by
  simp [complete?, running, inside]

theorem complete?_eq_none_iff (execution : Execution σ) (failure : Option Failure)
    (x : Exchange σ) :
    execution.complete? failure x = none ↔
      execution.completed = false ∧ execution.interceptors.length < execution.entered := by
  unfold complete?
  cases execution.completed <;> simp

/-- Run the first hooks until one fails or does not go on, and count those that were entered. -/
def enterHooks (execution : Execution σ) (x : Exchange σ) :
    Except Failure Bool × Exchange σ × Execution σ :=
  match Interceptor.enterAll execution.handler execution.interceptors x with
  | ((result, entered), x) =>
      (result, x, { execution with entered := execution.entered + entered })

/-- Run the first hooks; if one does not go on, run the last hooks too.  After a failure they are
left to the caller, who knows the failure. -/
def enter? (execution : Execution σ) (x : Exchange σ) :
    Option ((Except Failure Bool × Exchange σ) × Execution σ) :=
  match execution.enterHooks x with
  | (.ok false, x, execution) =>
      (execution.complete? none x).map fun ((result, x), execution) =>
        ((result.map fun _ => false, x), execution)
  | (result, x, execution) => some ((result, x), execution)

/-- Run the hooks that see the view, in reverse order. -/
def post (execution : Execution σ) (view : Option ModelAndView) (x : Exchange σ) :
    Except Failure Unit × Option ModelAndView × Exchange σ :=
  Interceptor.postAll execution.handler execution.interceptors.reverse view x

/-- The description of an execution in diagnostics. -/
def describe (execution : Execution σ) : String :=
  "ExecutionChain \x7b handler: " ++ execution.handler.description ++
    ", interceptors: " ++ toString execution.interceptors.length ++
    ", entered: " ++ toString execution.entered ++ " \x7d"

end Execution
end WebDispatch
