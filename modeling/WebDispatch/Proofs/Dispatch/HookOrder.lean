import WebDispatch.Proofs.Dispatch.Stages
import WebDispatch.Proofs.Interceptor.HookCalls

/-!
# The order of hooks in a dispatch

A dispatch calls no hook, or it runs the chain that a mapping found, and then its calls have one of
the five forms of `ChainRun`.  In each of them the last hooks are those of the interceptors whose
first hook was called, in reverse order, and all of them are told the same failure.
-/

namespace WebDispatch

variable {σ : Type}

/-! ## Runs of executions -/

namespace Execution

open HandlerChain (Ending)

/-- End a run with a failure, which the last hooks are told. -/
def fail? (execution : Execution σ) (failure : Failure) (x : Exchange σ) :
    Option (Except Failure Ending × Exchange σ) :=
  (execution.complete? (some failure) x).map fun ((_, x), _) => (.error failure, x)

/-- Run the handler among the interceptors of an execution.  The execution itself sees to it that
the last hooks run once, also where both the first hooks and the end of the run ask for them. -/
def run? (execution : Execution σ) (adapter : Adapter σ) (x : Exchange σ) :
    Option (Except Failure Ending × Exchange σ) :=
  match execution.enter? x with
  | none => none
  | some ((.error failure, x), execution) => execution.fail? failure x
  | some ((.ok false, x), _) => some (.ok .shortCircuited, x)
  | some ((.ok true, x), execution) =>
      match execution.toHandlerChain.runHandler adapter x with
      | (.error failure, x) => execution.fail? failure x
      | (.ok view, x) =>
          (execution.complete? none x).map fun ((result, x), _) =>
            (result.map fun _ => .handled view, x)

/-- An execution that has entered no more hooks than there are leaves them as the chain does. -/
theorem complete?_eq_some_leave (chain : HandlerChain σ) {entered : Nat}
    (inside : entered ≤ chain.interceptors.length) (told : Option Failure) (x : Exchange σ) :
    complete? { toHandlerChain := chain, entered } told x =
      some (chain.leave entered told x,
        { toHandlerChain := chain, entered, completed := true }) :=
  complete?_of_entered_le rfl inside told x

/-- A new execution of a chain runs as the chain does, and has the last hooks it needs. -/
theorem run?_eq_some_run (chain : HandlerChain σ) (adapter : Adapter σ) (x : Exchange σ) :
    run? { toHandlerChain := chain } adapter x = some (chain.run adapter x) := by
  have inside := Interceptor.entered_enterAll_le chain.handler chain.interceptors x
  rcases enter_eq : Interceptor.enterAll chain.handler chain.interceptors x with
    ⟨⟨failure | _ | _, entered⟩, y⟩ <;> rw [enter_eq] at inside <;>
    simp only [run?, enter?, enterHooks, HandlerChain.run, enter_eq, Nat.zero_add, fail?,
      complete?_eq_some_leave chain inside, Option.map_some]
  · rfl
  · simp only [HandlerChain.succeed]
    rcases chain.leave entered none y with ⟨failure | _, z⟩
    · simp only [Except.map, complete?_of_completed, Option.map_some]
    · rfl
  · rcases chain.runHandler adapter y with ⟨failure | view, z⟩
    · rfl
    · simp only [HandlerChain.succeed]
      rcases chain.leave entered none z with ⟨failure | _, w⟩ <;> rfl

end Execution

/-! ## The calls of a run -/

/-- The calls of a handler and of the hooks of `count` interceptors that see its view, and the
result of all. -/
inductive Handling (count : Nat) : List HookCall → Except Failure (Option ModelAndView) → Prop where
  /-- The handler fails. -/
  | handlerFails {failure : Failure} :
      Handling count [.handle (.error failure)] (.error failure)
  /-- A hook that sees the view fails. -/
  | postFails {view : Option ModelAndView} {position : Nat} {failure : Failure}
      (inside : position < count) :
      Handling count
        (.handle (.ok view) ::
          (HookCall.postedAll count (position + 1) ++ [.post position (.error failure)]))
        (.error failure)
  /-- Nothing fails. -/
  | passes {view shown : Option ModelAndView} :
      Handling count (.handle (.ok view) :: HookCall.postedAll count 0) (.ok shown)

open HandlerChain (Ending) in
/-- The calls of a run of a handler among `count` interceptors, and how it ends. -/
inductive ChainRun (count : Nat) : List HookCall → Except Failure Ending → Prop where
  /-- A first hook does not go on. -/
  | refused {position : Nat} {results : List (Except Failure Unit)} (inside : position < count)
      (all_left : results.length = position + 1) :
      ChainRun count
        (HookCall.enteredAll position ++ [.pre position (.ok false)] ++
          HookCall.leftAll none results)
        ((HookCall.verdict results).map fun _ => .shortCircuited)
  /-- A first hook fails. -/
  | preFails {position : Nat} {failure : Failure} {results : List (Except Failure Unit)}
      (inside : position < count) (all_left : results.length = position + 1) :
      ChainRun count
        (HookCall.enteredAll position ++ [.pre position (.error failure)] ++
          HookCall.leftAll (some failure) results)
        (.error failure)
  /-- The handler or a hook that sees the view fails. -/
  | handlingFails {handling : List HookCall} {failure : Failure}
      {results : List (Except Failure Unit)} (handled : Handling count handling (.error failure))
      (all_left : results.length = count) :
      ChainRun count
        (HookCall.enteredAll count ++ handling ++ HookCall.leftAll (some failure) results)
        (.error failure)
  /-- Nothing fails before the last hooks. -/
  | passes {handling : List HookCall} {shown : Option ModelAndView}
      {results : List (Except Failure Unit)} (handled : Handling count handling (.ok shown))
      (all_left : results.length = count) :
      ChainRun count (HookCall.enteredAll count ++ handling ++ HookCall.leftAll none results)
        ((HookCall.verdict results).map fun _ => .handled shown)

namespace Handling

variable {count : Nat} {calls : List HookCall} {result : Except Failure (Option ModelAndView)}

theorem left?_eq_nil (handled : Handling count calls result) :
    calls.filterMap HookCall.left? = [] := by
  cases handled <;> simp [List.filterMap_cons, HookCall.left?]

theorem entered?_eq_nil (handled : Handling count calls result) :
    calls.filterMap HookCall.entered? = [] := by
  cases handled <;> simp [List.filterMap_cons, HookCall.entered?]

theorem after_notMem (handled : Handling count calls result) (position : Nat)
    (told : Option Failure) (left : Except Failure Unit) : .after position told left ∉ calls := by
  cases handled <;> simp

theorem failure?_of_error {failure : Failure} (handled : Handling count calls (.error failure)) :
    calls.findSome? HookCall.failure? = some failure := by
  cases handled <;> simp [List.findSome?_cons, HookCall.failure?]

theorem failure?_of_ok {shown : Option ModelAndView} (handled : Handling count calls (.ok shown)) :
    calls.findSome? HookCall.failure? = none := by
  cases handled
  simp [List.findSome?_cons, HookCall.failure?]

end Handling

namespace ChainRun

variable {count : Nat} {calls : List HookCall} {ending : Except Failure HandlerChain.Ending}

/-- The last hooks are those of the interceptors whose first hook was called, in reverse order. -/
theorem left?_eq_reverse (run : ChainRun count calls ending) :
    calls.filterMap HookCall.left? = (calls.filterMap HookCall.entered?).reverse := by
  cases run with
  | refused _ all_left | preFails _ all_left =>
      simp [List.filterMap_cons, HookCall.left?, HookCall.entered?, all_left, List.range_succ]
  | handlingFails handled all_left | passes handled all_left =>
      simp [handled.left?_eq_nil, handled.entered?_eq_nil, all_left]

/-- No first hook is called twice. -/
theorem nodup_entered? (run : ChainRun count calls ending) :
    (calls.filterMap HookCall.entered?).Nodup := by
  cases run with
  | @refused position _ _ _ | @preFails position _ _ _ _ =>
      have distinct : (List.range (position + 1)).Nodup := List.nodup_range
      simpa [List.filterMap_cons, HookCall.entered?, List.range_succ] using distinct
  | handlingFails handled all_left | passes handled all_left =>
      simp [handled.entered?_eq_nil, List.nodup_range]

/-- The last hooks are told the failure of the other calls, if one of them failed. -/
theorem told_eq_failure? (run : ChainRun count calls ending) {position : Nat}
    {told : Option Failure} {result : Except Failure Unit}
    (called : .after position told result ∈ calls) : told = calls.findSome? HookCall.failure? := by
  cases run with
  | refused | preFails =>
      simp only [List.mem_append, List.mem_singleton, HookCall.after_notMem_enteredAll,
        reduceCtorEq, false_or] at called
      rw [HookCall.told_of_mem_leftAll called]
      simp [List.findSome?_cons, HookCall.failure?]
  | handlingFails handled all_left =>
      simp only [List.mem_append, HookCall.after_notMem_enteredAll, handled.after_notMem,
        false_or] at called
      simp [HookCall.told_of_mem_leftAll called, handled.failure?_of_error]
  | passes handled all_left =>
      simp only [List.mem_append, HookCall.after_notMem_enteredAll, handled.after_notMem,
        false_or] at called
      simp [HookCall.told_of_mem_leftAll called, handled.failure?_of_ok]

end ChainRun

namespace Adapter

/-- Every call of a handler adds its entry to the log and nothing else. -/
def Records (adapter : Adapter (Logged σ)) : Prop :=
  ∀ handler x, (adapter.handle handler x).2.calls =
    x.calls ++ [.handle (adapter.handle handler x).1]

/-- The adapter with the calls of handlers logged. -/
def recorded (adapter : Adapter (Logged σ)) : Adapter (Logged σ) :=
  { adapter with
    handle := fun handler x =>
      match adapter.handle handler x with
      | (result, y) => (result, y.afterCall x (.handle result)) }

theorem recorded_records (adapter : Adapter (Logged σ)) : adapter.recorded.Records :=
  fun _ _ => rfl

end Adapter

namespace HandlerChain

theorem calls_runHandler (chain : HandlerChain (Logged σ))
    (records : Interceptor.AllRecord chain.interceptors) {adapter : Adapter (Logged σ)}
    (adapter_records : adapter.Records) (x : Exchange (Logged σ)) :
    ∃ calls, (chain.runHandler adapter x).2.calls = x.calls ++ calls ∧
      Handling chain.interceptors.length calls (chain.runHandler adapter x).1 := by
  have handle_calls := adapter_records chain.handler x
  unfold runHandler
  rcases handle_eq : adapter.handle chain.handler x with ⟨failure | view, y⟩ <;>
    rw [handle_eq] at handle_calls
  · exact ⟨_, handle_calls, .handlerFails⟩
  · obtain ⟨calls, calls_eq, posting⟩ := Interceptor.calls_postAll chain.handler records
      (view.map (·.withDefaultView (defaultViewName y.request.path))) y
    rw [handle_calls] at calls_eq
    simp only
    rcases post_eq : Interceptor.postAll chain.handler chain.interceptors.reverse
      (view.map (·.withDefaultView (defaultViewName y.request.path))) y
      with ⟨failure | ⟨⟩, shown, z⟩ <;> rw [post_eq] at calls_eq posting <;> simp only [post_eq]
    · cases posting with
      | failed inside => exact ⟨_, by simpa using calls_eq, .postFails inside⟩
    · cases posting with
      | passed => exact ⟨_, by simpa using calls_eq, .passes⟩

theorem calls_leave (chain : HandlerChain (Logged σ))
    (records : Interceptor.AllRecord chain.interceptors) {entered : Nat}
    (inside : entered ≤ chain.interceptors.length) (told : Option Failure)
    (x : Exchange (Logged σ)) :
    ∃ results, results.length = entered ∧
      (chain.leave entered told x).2.calls = x.calls ++ HookCall.leftAll told results ∧
      (chain.leave entered told x).1 = HookCall.verdict results := by
  simpa [leave, List.length_take, Nat.min_eq_left inside] using
    Interceptor.calls_completeAll chain.handler (records.take entered) told x

/-- A run that succeeded so far has the result of its last hooks. -/
theorem succeed_eq (chain : HandlerChain σ) (entered : Nat) (ending : Ending) (x : Exchange σ) :
    chain.succeed entered ending x =
      ((chain.leave entered none x).1.map fun _ => ending, (chain.leave entered none x).2) := by
  unfold succeed
  rcases chain.leave entered none x with ⟨_ | _, y⟩ <;> rfl

theorem calls_run (chain : HandlerChain (Logged σ))
    (records : Interceptor.AllRecord chain.interceptors) {adapter : Adapter (Logged σ)}
    (adapter_records : adapter.Records) (x : Exchange (Logged σ)) :
    ∃ calls, (chain.run adapter x).2.calls = x.calls ++ calls ∧
      ChainRun chain.interceptors.length calls (chain.run adapter x).1 := by
  obtain ⟨entry, entry_eq, entering⟩ := Interceptor.calls_enterAll chain.handler records x
  unfold run
  rcases enter_eq : Interceptor.enterAll chain.handler chain.interceptors x with
    ⟨⟨result, entered⟩, y⟩
  rw [enter_eq] at entry_eq entering
  cases entering with
  | passed =>
      obtain ⟨handling, handling_eq, handled⟩ :=
        chain.calls_runHandler records adapter_records y
      simp only
      rcases handler_eq : chain.runHandler adapter y with ⟨failure | shown, z⟩ <;>
        rw [handler_eq] at handling_eq handled
      · obtain ⟨results, length_eq, left_eq, -⟩ :=
          chain.calls_leave records (Nat.le_refl _) (some failure) z
        refine ⟨_, ?_, .handlingFails handled length_eq⟩
        simp only [fail, left_eq, handling_eq, entry_eq, List.append_assoc]
      · obtain ⟨results, length_eq, left_eq, verdict_eq⟩ :=
          chain.calls_leave records (Nat.le_refl _) none z
        simp only [succeed_eq, verdict_eq]
        refine ⟨_, ?_, .passes handled length_eq⟩
        simp only [left_eq, handling_eq, entry_eq, List.append_assoc]
  | @stopped position result inside stops =>
      rcases result with failure | _ | _
      · obtain ⟨results, length_eq, left_eq, -⟩ :=
          chain.calls_leave records (Nat.succ_le_of_lt inside) (some failure) y
        refine ⟨_, ?_, .preFails inside length_eq⟩
        simp only [fail, left_eq, entry_eq, List.append_assoc]
      · obtain ⟨results, length_eq, left_eq, verdict_eq⟩ :=
          chain.calls_leave records (Nat.succ_le_of_lt inside) none y
        simp only [succeed_eq, verdict_eq]
        refine ⟨_, ?_, .refused inside length_eq⟩
        simp only [left_eq, entry_eq, List.append_assoc]
      · contradiction

end HandlerChain

/-! ## The calls of a dispatch -/

namespace Mapping

/-- Finding a handler adds nothing to the log, and what is found logs its calls. -/
def Records (mapping : Mapping (Logged σ)) : Prop :=
  ∀ visit, (mapping.find visit).2.calls = visit.calls ∧
    ∀ chain, (mapping.find visit).1 = .ok (some chain) → Interceptor.AllRecord chain.interceptors

/-- The mapping with the calls of hooks logged in the chains that it finds. -/
def recorded (mapping : Mapping (Logged σ)) : Mapping (Logged σ) :=
  { mapping with
    find := fun visit =>
      match mapping.find visit with
      | (found, after) =>
          (found.map fun chain => chain.map HandlerChain.recorded, after.withCalls visit.calls) }

theorem recorded_records (mapping : Mapping (Logged σ)) : mapping.recorded.Records := by
  intro visit
  refine ⟨rfl, ?_⟩
  intro chain found
  change (mapping.find visit).1.map (fun chain => chain.map HandlerChain.recorded) =
    .ok (some chain) at found
  rcases find_eq : (mapping.find visit).1 with failure | _ | plain <;>
    simp only [find_eq, Except.map, Option.map] at found
  · contradiction
  · cases found
  · cases found
    exact Interceptor.allRecord_recorded plain.interceptors

end Mapping

theorem MappingRegistry.records_firstFound {mappings : List (Mapping (Logged σ))}
    (records : ∀ mapping ∈ mappings, mapping.Records) (visit : Visit (Logged σ)) :
    (firstFound mappings visit).2.calls = visit.calls ∧
      ∀ chain, (firstFound mappings visit).1 = .ok (some chain) →
        Interceptor.AllRecord chain.interceptors := by
  induction mappings generalizing visit with
  | nil => exact ⟨rfl, by simp [firstFound]⟩
  | cons mapping rest ih =>
      obtain ⟨mapping_records, rest_records⟩ := List.forall_mem_cons.mp records
      obtain ⟨calls_eq, found_records⟩ := mapping_records visit
      unfold firstFound
      rcases find_eq : mapping.find visit with ⟨failure | _ | chain, after⟩ <;>
        rw [find_eq] at calls_eq found_records
      · exact ⟨calls_eq, found_records⟩
      · obtain ⟨rest_eq, rest_found⟩ := ih rest_records after
        exact ⟨rest_eq.trans calls_eq, rest_found⟩
      · exact ⟨calls_eq, found_records⟩

namespace Dispatcher

/-- The dispatcher with the calls of all hooks and handlers logged. -/
def recorded (dispatcher : Dispatcher (Logged σ)) : Dispatcher (Logged σ) :=
  { dispatcher with
    registry := ⟨dispatcher.registry.registered.map fun registered =>
      { registered with mapping := registered.mapping.recorded }⟩
    registeredAdapters := dispatcher.adapters.map Adapter.recorded }

theorem adapters_ne_nil (dispatcher : Dispatcher σ) : dispatcher.adapters ≠ [] := by
  unfold adapters
  split
  · exact List.cons_ne_nil _ _
  · next registered => simpa using registered

theorem adapters_recorded (dispatcher : Dispatcher (Logged σ)) :
    dispatcher.recorded.adapters = dispatcher.adapters.map Adapter.recorded := by
  have registered : dispatcher.recorded.registeredAdapters.isEmpty = false := by
    simpa [recorded] using dispatcher.adapters_ne_nil
  rw [adapters, registered]
  rfl

theorem records_resolve (dispatcher : Dispatcher (Logged σ)) (visit : Visit (Logged σ)) :
    (dispatcher.recorded.resolve visit).2.calls = visit.calls ∧
      ∀ chain, (dispatcher.recorded.resolve visit).1 = .ok (some chain) →
        Interceptor.AllRecord chain.interceptors := by
  refine MappingRegistry.records_firstFound ?_ visit
  intro mapping registered
  simp only [recorded, MappingRegistry.mappings, List.map_map, List.mem_map,
    Function.comp_apply] at registered
  obtain ⟨plain, _, rfl⟩ := registered
  exact plain.mapping.recorded_records

theorem records_find {dispatcher : Dispatcher (Logged σ)} {handler : Handler (Logged σ)}
    {adapter : Adapter (Logged σ)}
    (supported : Adapter.find dispatcher.recorded.adapters handler = .ok adapter) :
    adapter.Records := by
  have listed := Adapter.mem_of_find supported
  rw [adapters_recorded] at listed
  obtain ⟨plain, _, rfl⟩ := List.mem_map.mp listed
  exact plain.recorded_records

/-- A dispatch that stops early adds nothing to the log. -/
theorem calls_of_stopsEarly {dispatcher : Dispatcher (Logged σ)} {visit : Visit (Logged σ)}
    {app : Logged σ} (stops : dispatcher.recorded.StopsEarly visit app) :
    (dispatcher.recorded.dispatch visit).2.calls = visit.calls := by
  have app_eq := app_dispatch_of_stopsEarly stops
  cases stops with
  | uploadFails => exact congrArg Logged.calls app_eq
  | @mappingFails guard storage _ _ _ found | @nothingFound guard storage _ _ found
  | @unsupported guard storage _ _ _ _ found | @notModified guard storage _ _ _ _ found =>
      have found_eq := (dispatcher.records_resolve (guarded visit guard storage)).1
      rw [found] at found_eq
      exact (congrArg Logged.calls app_eq).trans found_eq

/-- A dispatch that reaches a chain adds the calls of its run to the log. -/
theorem calls_of_reaches {dispatcher : Dispatcher (Logged σ)} {visit : Visit (Logged σ)}
    {chain : HandlerChain (Logged σ)} {adapter : Adapter (Logged σ)} {x : Exchange (Logged σ)}
    (reaches : dispatcher.recorded.Reaches visit chain adapter x) :
    ∃ calls, (dispatcher.recorded.dispatch visit).2.calls = visit.calls ++ calls ∧
      ChainRun chain.interceptors.length calls (chain.run adapter x).1 := by
  have app_eq := app_dispatch_of_reaches reaches
  cases reaches with
  | @intro guard storage _ after _ _ found supported =>
      have found_eq := dispatcher.records_resolve (guarded visit guard storage)
      rw [found] at found_eq
      obtain ⟨calls, calls_eq, run⟩ := chain.calls_run (found_eq.2 chain rfl)
        (records_find supported) { after with response := startResponse .ok _ }
      exact ⟨calls, (congrArg Logged.calls app_eq).trans (calls_eq.trans (found_eq.1 ▸ rfl)), run⟩

/-- A dispatch that stops early calls no hook.  Any other dispatch calls those of one run of a chain,
which is also what a new execution of the chain comes to.  In both cases the last hooks are those of
the interceptors whose first hook was called, in reverse order, and they are told the failure of the
other calls. -/
theorem dispatch_calls (dispatcher : Dispatcher (Logged σ)) (visit : Visit (Logged σ)) :
    ∃ calls, (dispatcher.recorded.dispatch visit).2.calls = visit.calls ++ calls ∧
      ((∃ app, dispatcher.recorded.StopsEarly visit app) ∨
        ∃ chain adapter x, dispatcher.recorded.Reaches visit chain adapter x) ∧
      (∀ app, dispatcher.recorded.StopsEarly visit app → calls = []) ∧
      (∀ chain adapter x, dispatcher.recorded.Reaches visit chain adapter x →
        Execution.run? { toHandlerChain := chain } adapter x = some (chain.run adapter x) ∧
          ChainRun chain.interceptors.length calls (chain.run adapter x).1) ∧
      calls.filterMap HookCall.left? = (calls.filterMap HookCall.entered?).reverse ∧
      (calls.filterMap HookCall.entered?).Nodup ∧
      ∀ position told result, .after position told result ∈ calls →
        told = calls.findSome? HookCall.failure? := by
  rcases dispatcher.recorded.stopsEarly_or_reaches visit with
    ⟨app, stops⟩ | ⟨chain, adapter, x, reaches⟩
  · have calls_eq := calls_of_stopsEarly stops
    refine ⟨[], by simpa using calls_eq, .inl ⟨app, stops⟩, fun _ _ => rfl, ?_, rfl, by simp,
      by simp⟩
    intro chain adapter x reaches
    exact absurd reaches (not_reaches_of_stopsEarly stops)
  · obtain ⟨calls, calls_eq, run⟩ := calls_of_reaches reaches
    refine ⟨calls, calls_eq, .inr ⟨chain, adapter, x, reaches⟩, ?_, ?_, run.left?_eq_reverse,
      run.nodup_entered?, fun _ _ _ => run.told_eq_failure?⟩
    · intro app stops
      exact absurd reaches (not_reaches_of_stopsEarly stops)
    · intro other _ _ also
      obtain ⟨again, again_eq, other_run⟩ := calls_of_reaches also
      obtain rfl : calls = again := List.append_cancel_left (calls_eq.symm.trans again_eq)
      exact ⟨Execution.run?_eq_some_run other _ _, other_run⟩

end Dispatcher
end WebDispatch
