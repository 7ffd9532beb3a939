import WebDispatch.Proofs.Interceptor.HookCalls

/-!
# The completion of an execution

An execution may get interceptors, run its hooks and be completed in any order and any number of
times.  A call does not run last hooks, or it runs them after everything else it does, and the first
of these runs is the only one that calls a hook.  It calls as many last hooks as first hooks were
called before, so it can only be made if there are that many interceptors.
-/

namespace WebDispatch

variable {σ : Type}

/-- A call on an execution, or a change of the exchange between two calls. -/
inductive ChainOp (σ : Type) where
  | add (interceptor : Interceptor σ)
  | enter
  | post (view : Option ModelAndView)
  | complete (told : Option Failure)
  | meanwhile (change : Exchange σ → Exchange σ)

/-- Whether a call runs the first hooks. -/
def ChainOp.isEnter : ChainOp σ → Bool
  | enter => true
  | _ => false

/-- A run of last hooks. -/
structure Completion where
  /-- The positions of the interceptors whose first hooks were called before. -/
  entered : List Nat
  /-- The number of interceptors. -/
  registered : Nat
  /-- The failure that the last hooks are told. -/
  told : Option Failure
  /-- The result, unless the run cannot be made. -/
  result? : Option (Except Failure Unit)
  /-- The calls of the run. -/
  calls : List HookCall

namespace Completion

/-- A run that calls the last hook of as many interceptors as first hooks were called before, in
reverse order and whether they fail or not, unless there are fewer interceptors. -/
inductive Leaves : Completion → Prop where
  | leaves {entered : List Nat} {registered : Nat} {told : Option Failure}
      {results : List (Except Failure Unit)} (inside : entered.length ≤ registered)
      (all_left : results.length = entered.length) :
      Leaves
        { entered, registered, told
          result? := some (HookCall.verdict results)
          calls := HookCall.leftAll told results }
  | outside {entered : List Nat} {registered : Nat} {told : Option Failure}
      (too_many : registered < entered.length) :
      Leaves { entered, registered, told, result? := none, calls := [] }

/-- A run that succeeds and calls nothing. -/
def IsIdle (completion : Completion) : Prop :=
  completion.result? = some (.ok ()) ∧ completion.calls = []

/-- Whether the first hooks that were called before are those of the first interceptors, each of
them once. -/
def InOrder (completion : Completion) : Prop :=
  ∃ count ≤ completion.registered, completion.entered = List.range count

theorem Leaves.left?_eq_reverse {completion : Completion} (leaves : completion.Leaves)
    (in_order : completion.InOrder) :
    completion.calls.filterMap HookCall.left? = completion.entered.reverse := by
  obtain ⟨count, inside, entered_eq⟩ := in_order
  cases leaves with
  | leaves _ all_left =>
      simp only at entered_eq
      simp [all_left, entered_eq]
  | outside too_many =>
      simp only at entered_eq inside too_many
      rw [entered_eq, List.length_range] at too_many
      exact absurd too_many (Nat.not_lt.mpr inside)

end Completion

/-- An execution and the exchange that its hooks work on. -/
structure Course (σ : Type) where
  /-- The execution. -/
  execution : Execution σ
  /-- The exchange. -/
  x : Exchange σ

namespace Course

/-- Run the first hooks alone. -/
def entering (course : Course σ) : Except Failure Bool × Course σ :=
  match course.execution.enterHooks course.x with
  | (result, x, execution) => (result, { execution, x })

/-- Run the last hooks; nothing if that cannot be done. -/
def leaving? (course : Course σ) (told : Option Failure) :
    Option (Except Failure Unit × Course σ) :=
  (course.execution.complete? told course.x).map fun ((result, x), execution) =>
    (result, { execution, x })

/-- Make a call, with the calls of the interceptors that it adds logged.  Nothing if it runs last
hooks and that cannot be done. -/
def step? (course : Course (Logged σ)) : ChainOp (Logged σ) → Option (Course (Logged σ))
  | .add interceptor =>
      some { course with
        execution := course.execution.addInterceptor
          (interceptor.recorded course.execution.interceptors.length) }
  | .enter =>
      (course.execution.enter? course.x).map fun ((_, x), execution) => { execution, x }
  | .post view => some { course with x := (course.execution.post view course.x).2.2 }
  | .complete told =>
      (course.execution.complete? told course.x).map fun ((_, x), execution) => { execution, x }
  | .meanwhile change => some { course with x := (change course.x).withCalls course.x.calls }

/-- Make calls in order. -/
def run? : Course (Logged σ) → List (ChainOp (Logged σ)) → Option (Course (Logged σ))
  | course, [] => some course
  | course, op :: rest => (course.step? op).bind fun next => next.run? rest

/-- Where a call runs last hooks: the failure that they are told and the course before them. -/
def completing? (course : Course σ) : ChainOp σ → Option (Option Failure × Course σ)
  | .enter => match course.entering with
      | (.ok false, next) => some (none, next)
      | _ => none
  | .complete told => some (told, course)
  | _ => none

/-- What a run of last hooks does. -/
def completion (course : Course (Logged σ)) (told : Option Failure) : Completion where
  entered := course.x.calls.filterMap HookCall.entered?
  registered := course.execution.interceptors.length
  told := told
  result? := (course.leaving? told).map Prod.fst
  calls := match course.leaving? told with
    | some (_, next) => next.x.calls.drop course.x.calls.length
    | none => []

/-- The runs of last hooks that calls make, in order. -/
def completions : Course (Logged σ) → List (ChainOp (Logged σ)) → List Completion
  | _, [] => []
  | course, op :: rest =>
      ((course.completing? op).map fun (told, start) => start.completion told).toList ++
        match course.step? op with
        | some next => next.completions rest
        | none => []

/-! ## One call -/

/-- A part of a call that runs no last hooks, and runs the first hooks of `count` interceptors. -/
structure Quiet (before after : Course (Logged σ)) (count : Nat) : Prop where
  calls : ∃ calls, after.x.calls = before.x.calls ++ calls ∧
    calls.filterMap HookCall.entered? = List.range count ∧ calls.filterMap HookCall.left? = []
  entered : after.execution.entered = before.execution.entered + count
  inside : count ≤ after.execution.interceptors.length
  completed : after.execution.completed = before.execution.completed
  registered : before.execution.interceptors.length ≤ after.execution.interceptors.length
  records : Interceptor.AllRecord after.execution.interceptors

namespace Quiet

variable {before after : Course (Logged σ)} {count : Nat}

theorem entered?_eq (quiet : Quiet before after count) :
    after.x.calls.filterMap HookCall.entered? =
      before.x.calls.filterMap HookCall.entered? ++ List.range count := by
  obtain ⟨calls, calls_eq, entered_eq, -⟩ := quiet.calls
  rw [calls_eq, List.filterMap_append, entered_eq]

theorem left?_eq (quiet : Quiet before after count) :
    after.x.calls.filterMap HookCall.left? = before.x.calls.filterMap HookCall.left? := by
  obtain ⟨calls, calls_eq, -, left_eq⟩ := quiet.calls
  rw [calls_eq, List.filterMap_append, left_eq, List.append_nil]

theorem of_calls_eq {execution : Execution (Logged σ)} {x y : Exchange (Logged σ)}
    (records : Interceptor.AllRecord execution.interceptors) (calls_eq : y.calls = x.calls) :
    Quiet { execution, x } { execution, x := y } 0 where
  calls := ⟨[], by simp [calls_eq], rfl, rfl⟩
  entered := rfl
  inside := Nat.zero_le _
  completed := rfl
  registered := Nat.le_refl _
  records

end Quiet

theorem quiet_add (course : Course (Logged σ)) (interceptor : Interceptor (Logged σ))
    (records : Interceptor.AllRecord course.execution.interceptors) :
    Quiet course
      { course with
        execution := course.execution.addInterceptor
          (interceptor.recorded course.execution.interceptors.length) } 0 where
  calls := ⟨[], by simp, rfl, rfl⟩
  entered := rfl
  inside := Nat.zero_le _
  completed := rfl
  registered := by simp [Execution.addInterceptor]
  records := Interceptor.allRecord_append_singleton.mpr
    ⟨records, Interceptor.recorded_records _ interceptor⟩

theorem quiet_post (course : Course (Logged σ)) (view : Option ModelAndView)
    (records : Interceptor.AllRecord course.execution.interceptors) :
    Quiet course { course with x := (course.execution.post view course.x).2.2 } 0 := by
  obtain ⟨calls, calls_eq, posting⟩ :=
    Interceptor.calls_postAll course.execution.handler records view course.x
  exact
    { calls := ⟨calls, calls_eq, posting.entered?_eq_nil, posting.left?_eq_nil⟩
      entered := rfl
      inside := Nat.zero_le _
      completed := rfl
      registered := Nat.le_refl _
      records }

theorem quiet_entering (course : Course (Logged σ))
    (records : Interceptor.AllRecord course.execution.interceptors) :
    ∃ count, Quiet course course.entering.2 count := by
  obtain ⟨calls, calls_eq, entering⟩ :=
    Interceptor.calls_enterAll course.execution.handler records course.x
  exact ⟨_,
    { calls := ⟨calls, calls_eq, entering.entered?_eq_range, entering.left?_eq_nil⟩
      entered := rfl
      inside := Interceptor.entered_enterAll_le _ _ _
      completed := rfl
      registered := Nat.le_refl _
      records }⟩

theorem step?_enter (course : Course (Logged σ)) :
    course.step? .enter = match course.entering with
      | (.ok false, next) => (next.leaving? none).map Prod.snd
      | (_, next) => some next := by
  simp only [step?, Execution.enter?, entering]
  rcases course.execution.enterHooks course.x with ⟨failure | _ | _, x, execution⟩
  · rfl
  · simp [leaving?, Function.comp_def]
  · rfl

/-- A call consists of a part that runs no last hooks and, where it completes the execution, of a
run of them. -/
theorem step?_cases (course : Course (Logged σ))
    (records : Interceptor.AllRecord course.execution.interceptors) (op : ChainOp (Logged σ)) :
    ∃ next count, Quiet course next count ∧ (op.isEnter = false → count = 0) ∧
      ((course.completing? op = none ∧ course.step? op = some next) ∨
        ∃ told, course.completing? op = some (told, next) ∧
          course.step? op = (next.leaving? told).map Prod.snd) := by
  cases op with
  | add interceptor =>
      exact ⟨_, 0, course.quiet_add interceptor records, fun _ => rfl, .inl ⟨rfl, rfl⟩⟩
  | enter =>
      obtain ⟨count, quiet⟩ := course.quiet_entering records
      refine ⟨course.entering.2, count, quiet, by simp [ChainOp.isEnter], ?_⟩
      rw [step?_enter, completing?]
      rcases course.entering with ⟨failure | _ | _, next⟩
      · exact .inl ⟨rfl, rfl⟩
      · exact .inr ⟨none, rfl, rfl⟩
      · exact .inl ⟨rfl, rfl⟩
  | post view =>
      exact ⟨_, 0, course.quiet_post view records, fun _ => rfl, .inl ⟨rfl, rfl⟩⟩
  | complete told =>
      refine ⟨course, 0, .of_calls_eq records rfl, fun _ => rfl, .inr ⟨told, rfl, ?_⟩⟩
      simp [step?, leaving?, Function.comp_def]
  | meanwhile change =>
      refine ⟨_, 0, ?_, fun _ => rfl, .inl ⟨rfl, rfl⟩⟩
      exact .of_calls_eq records (Exchange.calls_withCalls _ _)

/-! ## One run of last hooks -/

theorem leaving?_of_completed {course : Course σ} (completed : course.execution.completed = true)
    (told : Option Failure) : course.leaving? told = some (.ok (), course) := by
  simp [leaving?, Execution.complete?_of_completed completed]

theorem leaving?_of_outside {course : Course σ} (running : course.execution.completed = false)
    (too_many : course.execution.interceptors.length < course.execution.entered)
    (told : Option Failure) : course.leaving? told = none := by
  simp [leaving?, (Execution.complete?_eq_none_iff _ _ _).mpr ⟨running, too_many⟩]

theorem leaving?_of_inside {course : Course (Logged σ)}
    (records : Interceptor.AllRecord course.execution.interceptors)
    (running : course.execution.completed = false)
    (inside : course.execution.entered ≤ course.execution.interceptors.length)
    (told : Option Failure) :
    ∃ results next, course.leaving? told = some (HookCall.verdict results, next) ∧
      results.length = course.execution.entered ∧
      next.x.calls = course.x.calls ++ HookCall.leftAll told results ∧
      next.execution = { course.execution with completed := true } := by
  obtain ⟨results, length_eq, calls_eq, verdict_eq⟩ := Interceptor.calls_completeAll
    course.execution.handler (records.take course.execution.entered) told course.x
  rw [List.length_take, Nat.min_eq_left inside] at length_eq
  refine ⟨results, { execution := { course.execution with completed := true }, x := _ }, ?_,
    length_eq, calls_eq, rfl⟩
  simp [leaving?, Execution.complete?_of_entered_le running inside, verdict_eq]

theorem completion_of_completed {course : Course (Logged σ)}
    (completed : course.execution.completed = true) (told : Option Failure) :
    (course.completion told).IsIdle := by
  simp [Completion.IsIdle, completion, leaving?_of_completed completed]

/-! ## Runs of calls -/

/-- Once an execution is completed, every call can be made, and none of them calls a last hook. -/
theorem run?_of_completed {course : Course (Logged σ)}
    (records : Interceptor.AllRecord course.execution.interceptors)
    (completed : course.execution.completed = true) (ops : List (ChainOp (Logged σ))) :
    ∃ final, course.run? ops = some final ∧
      final.x.calls.filterMap HookCall.left? = course.x.calls.filterMap HookCall.left? ∧
      ∀ completion ∈ course.completions ops, completion.IsIdle := by
  induction ops generalizing course with
  | nil => exact ⟨course, rfl, rfl, by simp [completions]⟩
  | cons op rest ih =>
      obtain ⟨next, count, quiet, -, call⟩ := course.step?_cases records op
      have next_completed := quiet.completed.trans completed
      obtain ⟨final, run_eq, left_eq, idle⟩ := ih quiet.records next_completed
      have step_eq : course.step? op = some next := by
        rcases call with ⟨-, step_eq⟩ | ⟨told, -, step_eq⟩
        · exact step_eq
        · rw [step_eq, leaving?_of_completed next_completed]
          rfl
      refine ⟨final, ?_, left_eq.trans quiet.left?_eq, ?_⟩
      · rw [run?, step_eq]
        exact run_eq
      · rw [completions, step_eq]
        intro completion made
        rcases List.mem_append.mp made with first | later
        · rcases call with ⟨completing_eq, -⟩ | ⟨told, completing_eq, -⟩
          · simp [completing_eq] at first
          · simp only [completing_eq, Option.map_some, Option.toList_some,
              List.mem_singleton] at first
            rw [first]
            exact completion_of_completed next_completed told
        · exact idle completion later

/-- How calls complete an execution: never, once, or not because there are too few interceptors. -/
inductive CompletesOnce (course : Course (Logged σ)) (ops : List (ChainOp (Logged σ))) : Prop where
  | never {final : Course (Logged σ)} (run_eq : course.run? ops = some final)
      (completions_eq : course.completions ops = [])
      (left_eq : final.x.calls.filterMap HookCall.left? =
        course.x.calls.filterMap HookCall.left?)
  | once {final : Course (Logged σ)} {first : Completion} {later : List Completion}
      (run_eq : course.run? ops = some final)
      (completions_eq : course.completions ops = first :: later) (leaves : first.Leaves)
      (inside : first.entered.length ≤ first.registered)
      (idle : ∀ completion ∈ later, completion.IsIdle)
      (left_eq : final.x.calls.filterMap HookCall.left? =
        course.x.calls.filterMap HookCall.left? ++ first.calls.filterMap HookCall.left?)
  | outside {first : Completion} (run_eq : course.run? ops = none)
      (completions_eq : course.completions ops = [first]) (leaves : first.Leaves)
      (too_many : first.registered < first.entered.length)

theorem completesOnce_of_running {course : Course (Logged σ)}
    (records : Interceptor.AllRecord course.execution.interceptors)
    (running : course.execution.completed = false)
    (counted : course.execution.entered =
      (course.x.calls.filterMap HookCall.entered?).length)
    (ops : List (ChainOp (Logged σ))) : course.CompletesOnce ops := by
  induction ops generalizing course with
  | nil => exact .never rfl rfl rfl
  | cons op rest ih =>
      obtain ⟨next, count, quiet, -, call⟩ := course.step?_cases records op
      have next_running := quiet.completed.trans running
      have next_counted : next.execution.entered =
          (next.x.calls.filterMap HookCall.entered?).length := by
        simp [quiet.entered, quiet.entered?_eq, counted]
      rcases call with ⟨completing_eq, step_eq⟩ | ⟨told, completing_eq, step_eq⟩
      · have run_eq : course.run? (op :: rest) = next.run? rest := by simp [run?, step_eq]
        have completions_eq : course.completions (op :: rest) = next.completions rest := by
          simp [completions, completing_eq, step_eq]
        cases ih quiet.records next_running next_counted with
        | never rest_run rest_completions left_eq =>
            exact .never (run_eq.trans rest_run) (completions_eq.trans rest_completions)
              (left_eq.trans quiet.left?_eq)
        | once rest_run rest_completions leaves inside idle left_eq =>
            exact .once (run_eq.trans rest_run) (completions_eq.trans rest_completions) leaves
              inside idle (by rw [left_eq, quiet.left?_eq])
        | outside rest_run rest_completions leaves too_many =>
            exact .outside (run_eq.trans rest_run) (completions_eq.trans rest_completions) leaves
              too_many
      · by_cases inside : next.execution.entered ≤ next.execution.interceptors.length
        · obtain ⟨results, done, leaving_eq, length_eq, calls_eq, execution_eq⟩ :=
            leaving?_of_inside quiet.records next_running inside told
          have step_done : course.step? op = some done := by rw [step_eq, leaving_eq]; rfl
          have done_records : Interceptor.AllRecord done.execution.interceptors := by
            rw [execution_eq]
            exact quiet.records
          have done_completed : done.execution.completed = true := by rw [execution_eq]
          obtain ⟨final, run_eq, left_eq, idle⟩ :=
            run?_of_completed done_records done_completed rest
          have first_eq : next.completion told =
              { entered := next.x.calls.filterMap HookCall.entered?
                registered := next.execution.interceptors.length
                told
                result? := some (HookCall.verdict results)
                calls := HookCall.leftAll told results } := by
            simp [completion, leaving_eq, calls_eq]
          have run_all : course.run? (op :: rest) = some final := by
            simp [run?, step_done, run_eq]
          have completions_eq : course.completions (op :: rest) =
              next.completion told :: done.completions rest := by
            simp [completions, completing_eq, step_done]
          refine .once run_all completions_eq ?_ ?_ idle ?_
          · rw [first_eq]
            exact .leaves (next_counted ▸ inside) (next_counted ▸ length_eq)
          · rw [first_eq]
            exact next_counted ▸ inside
          · rw [left_eq, calls_eq, List.filterMap_append, quiet.left?_eq, first_eq]
        · have too_many := Nat.lt_of_not_le inside
          have leaving_eq := leaving?_of_outside next_running too_many told
          have step_none : course.step? op = none := by rw [step_eq, leaving_eq]; rfl
          have first_eq : next.completion told =
              { entered := next.x.calls.filterMap HookCall.entered?
                registered := next.execution.interceptors.length
                told, result? := none, calls := [] } := by
            simp [completion, leaving_eq]
          have completions_eq : course.completions (op :: rest) = [next.completion told] := by
            simp [completions, completing_eq, step_none]
          refine .outside (by simp [run?, step_none]) completions_eq ?_ ?_
          · rw [first_eq]
            exact .outside (next_counted ▸ too_many)
          · rw [first_eq]
            exact next_counted ▸ too_many

/-! ## First hooks that run once -/

/-- A course in which the first hooks that were called are those of the first interceptors, each of
them once. -/
structure InOrder (course : Course (Logged σ)) : Prop where
  entered_eq : course.x.calls.filterMap HookCall.entered? = List.range course.execution.entered
  inside : course.execution.entered ≤ course.execution.interceptors.length

theorem InOrder.completion {course : Course (Logged σ)} (in_order : course.InOrder)
    (told : Option Failure) : (course.completion told).InOrder :=
  ⟨course.execution.entered, in_order.inside, in_order.entered_eq⟩

theorem InOrder.of_quiet {before after : Course (Logged σ)} {count : Nat}
    (in_order : before.InOrder) (quiet : Quiet before after count)
    (once : before.execution.entered = 0 ∨ count = 0) : after.InOrder := by
  have entered_eq := quiet.entered?_eq
  rw [in_order.entered_eq] at entered_eq
  rcases once with unentered | unentered
  · refine ⟨?_, ?_⟩
    · rw [entered_eq, quiet.entered, unentered, Nat.zero_add, List.range_zero, List.nil_append]
    · rw [quiet.entered, unentered, Nat.zero_add]
      exact quiet.inside
  · refine ⟨?_, ?_⟩
    · rw [entered_eq, quiet.entered, unentered, Nat.add_zero, List.range_zero, List.append_nil]
    · rw [quiet.entered, unentered, Nat.add_zero]
      exact Nat.le_trans in_order.inside quiet.registered

/-- Last hooks count as no first hooks. -/
theorem InOrder.of_leaving? {course done : Course (Logged σ)} {told : Option Failure}
    {result : Except Failure Unit} (in_order : course.InOrder)
    (records : Interceptor.AllRecord course.execution.interceptors)
    (leaving_eq : course.leaving? told = some (result, done)) :
    done.InOrder ∧ Interceptor.AllRecord done.execution.interceptors ∧
      done.execution.entered = course.execution.entered := by
  cases running : course.execution.completed with
  | true =>
      rw [leaving?_of_completed running] at leaving_eq
      cases leaving_eq
      exact ⟨in_order, records, rfl⟩
  | false =>
      obtain ⟨results, next, next_eq, -, calls_eq, execution_eq⟩ :=
        leaving?_of_inside records running in_order.inside told
      rw [leaving_eq] at next_eq
      cases next_eq
      refine ⟨⟨?_, ?_⟩, ?_, ?_⟩
      · simp [calls_eq, execution_eq, in_order.entered_eq]
      · rw [execution_eq]
        exact in_order.inside
      · rw [execution_eq]
        exact records
      · rw [execution_eq]

theorem inOrder_of_mem_completions {course : Course (Logged σ)}
    (records : Interceptor.AllRecord course.execution.interceptors) (in_order : course.InOrder)
    {ops : List (ChainOp (Logged σ))}
    (once : course.execution.entered = 0 ∧ ops.countP ChainOp.isEnter ≤ 1 ∨
      ops.countP ChainOp.isEnter = 0) :
    ∀ completion ∈ course.completions ops, completion.InOrder := by
  induction ops generalizing course with
  | nil => simp [completions]
  | cons op rest ih =>
      obtain ⟨next, count, quiet, unless_enter, call⟩ := course.step?_cases records op
      have next_once : (next.execution.entered = 0 ∧ rest.countP ChainOp.isEnter ≤ 1 ∨
          rest.countP ChainOp.isEnter = 0) ∧ (course.execution.entered = 0 ∨ count = 0) := by
        rw [List.countP_cons] at once
        have entered_eq := quiet.entered
        cases enters : op.isEnter with
        | true =>
            simp only [enters, if_true] at once
            omega
        | false =>
            have unentered := unless_enter enters
            simp only [enters, Bool.false_eq_true, if_false] at once
            omega
      have next_in_order := in_order.of_quiet quiet next_once.2
      intro completion made
      rcases call with ⟨completing_eq, step_eq⟩ | ⟨told, completing_eq, step_eq⟩
      · simp only [completions, completing_eq, step_eq, Option.map_none, Option.toList_none,
          List.nil_append] at made
        exact ih quiet.records next_in_order next_once.1 completion made
      · simp only [completions, completing_eq, step_eq, Option.map_some, Option.toList_some,
          List.cons_append, List.nil_append, List.mem_cons] at made
        rcases made with first | later
        · rw [first]
          exact next_in_order.completion told
        · rcases leaving_eq : next.leaving? told with _ | ⟨result, done⟩ <;>
            simp only [leaving_eq, Option.map_none, Option.map_some, List.not_mem_nil] at later
          obtain ⟨done_in_order, done_records, entered_eq⟩ :=
            next_in_order.of_leaving? quiet.records leaving_eq
          refine ih done_records done_in_order ?_ completion later
          rw [entered_eq]
          exact next_once.1

/-! ## Runs of calls from the start -/

/-- A new execution of a chain whose calls are logged. -/
def start (chain : HandlerChain (Logged σ)) (x : Exchange (Logged σ)) : Course (Logged σ) where
  execution := { toHandlerChain := chain.recorded }
  x := x.withCalls []

/-- Of the runs of last hooks that calls make, the first calls as many last hooks as first hooks
were called before, and no other calls any.  Calls cannot all be made just if there are too few
interceptors for the first run, and that cannot be if the first hooks are run no more than once. -/
theorem run?_completes_once (chain : HandlerChain (Logged σ)) (x : Exchange (Logged σ))
    (ops : List (ChainOp (Logged σ))) :
    (∀ first later, (start chain x).completions ops = first :: later →
      first.Leaves ∧ ∀ completion ∈ later, completion.IsIdle) ∧
    ((start chain x).run? ops = none ↔ ∃ first ∈ ((start chain x).completions ops).head?,
      first.registered < first.entered.length) ∧
    (∀ final, (start chain x).run? ops = some final →
      final.x.calls.filterMap HookCall.left? =
        ((start chain x).completions ops).flatMap fun completion =>
          completion.calls.filterMap HookCall.left?) ∧
    (ops.countP ChainOp.isEnter ≤ 1 → (start chain x).run? ops ≠ none ∧
      ∀ first ∈ ((start chain x).completions ops).head?,
        first.calls.filterMap HookCall.left? = first.entered.reverse) := by
  have records : Interceptor.AllRecord (start chain x).execution.interceptors :=
    Interceptor.allRecord_recorded chain.interceptors
  have in_order : (start chain x).InOrder := ⟨rfl, Nat.zero_le _⟩
  have in_order_of_once (once : ops.countP ChainOp.isEnter ≤ 1) :
      ∀ completion ∈ (start chain x).completions ops, completion.InOrder :=
    inOrder_of_mem_completions records in_order (.inl ⟨rfl, once⟩)
  cases completesOnce_of_running records rfl rfl ops with
  | never run_eq completions_eq left_eq =>
      simp only [run_eq, completions_eq]
      refine ⟨by simp, by simp, ?_, by simp⟩
      rintro _ ⟨rfl⟩
      rw [left_eq]
      rfl
  | @once final first later run_eq completions_eq leaves inside idle left_eq =>
      simp only [run_eq, completions_eq]
      refine ⟨?_, ?_, ?_, ?_⟩
      · rintro _ _ ⟨rfl, rfl⟩
        exact ⟨leaves, idle⟩
      · simpa using inside
      · rintro _ ⟨rfl⟩
        have later_eq : later.flatMap (fun completion =>
            completion.calls.filterMap HookCall.left?) = [] := by
          rw [List.flatMap_eq_nil_iff]
          intro completion made
          rw [(idle completion made).2]
          rfl
        rw [left_eq, List.flatMap_cons, later_eq, List.append_nil]
        rfl
      · intro once
        refine ⟨by simp, ?_⟩
        rintro _ ⟨rfl⟩
        exact leaves.left?_eq_reverse (in_order_of_once once first (by simp [completions_eq]))
  | @outside first run_eq completions_eq leaves too_many =>
      simp only [run_eq, completions_eq]
      refine ⟨?_, by simpa using too_many, by simp, ?_⟩
      · rintro _ _ ⟨rfl, rfl⟩
        exact ⟨leaves, by simp⟩
      · intro once
        obtain ⟨count, inside, entered_eq⟩ :=
          in_order_of_once once first (by simp [completions_eq])
        rw [entered_eq, List.length_range] at too_many
        exact absurd too_many (Nat.not_lt.mpr inside)

end Course
end WebDispatch
