import WebDispatch.Proofs.Dispatch.HookOrder
import WebDispatch.Proofs.Interceptor.ViewSteps

/-!
# The outcome of a dispatch

A dispatch that runs a chain has the outcome that its calls decide.  A failure of a first hook, of
the handler or of a hook that sees the view goes before all failures of last hooks, and of those the
first one counts.  Without failures, the outcome tells who answered: an interceptor that did not go
on, the handler, or the view that it left the response to.
-/

namespace WebDispatch

namespace HookCall

/-- The failure of a call of a last hook. -/
def lastFailure? : HookCall → Option Failure
  | after _ _ (.error failure) => some failure
  | _ => none

/-- The result of a call of the handler. -/
def handled? : HookCall → Option (Except Failure (Option ModelAndView))
  | handle result => some result
  | _ => none

/-- The interceptor whose hook that sees the view is called. -/
def posted? : HookCall → Option Nat
  | post position _ => some position
  | _ => none

/-- None of the calls fails. -/
def AllSucceed (calls : List HookCall) : Prop :=
  ∀ call ∈ calls, call.failure? = none ∧ call.lastFailure? = none

theorem mem_leftAll_iff {told other : Option Failure} {results : List (Except Failure Unit)}
    {position : Nat} {result : Except Failure Unit} :
    after position other result ∈ leftAll told results ↔
      other = told ∧ results[position]? = some result := by
  simp only [leftAll, List.mem_reverse, List.mem_mapIdx]
  constructor
  · rintro ⟨index, inside, call_eq⟩
    cases call_eq
    exact ⟨rfl, List.getElem?_eq_getElem inside⟩
  · rintro ⟨rfl, found⟩
    obtain ⟨inside, found_eq⟩ := List.getElem?_eq_some_iff.mp found
    exact ⟨position, inside, by rw [found_eq]⟩

/-- The failure of a run of last hooks is that of the first of its calls that fails. -/
theorem lastFailure?_leftAll (told : Option Failure) (results : List (Except Failure Unit)) :
    (leftAll told results).findSome? lastFailure? = match verdict results with
      | .error failure => some failure
      | .ok _ => none := by
  induction results using List.reverseRecOn with
  | nil => rfl
  | append_singleton results result ih =>
      rw [leftAll_append_singleton, List.findSome?_cons, verdict_append_singleton, ih]
      cases result <;> rfl

/-- The failure of a run of last hooks is that of the last interceptor whose last hook fails. -/
theorem verdict_of_highest {results : List (Except Failure Unit)} {position : Nat}
    {failure : Failure} (fails : results[position]? = some (.error failure))
    (highest : ∀ other reason, results[other]? = some (.error reason) → other ≤ position) :
    verdict results = .error failure := by
  induction results using List.reverseRecOn with
  | nil => simp at fails
  | append_singleton results result ih =>
      rw [verdict_append_singleton]
      cases result with
      | error reason =>
          have last_le : results.length ≤ position := highest results.length reason (by simp)
          rw [List.getElem?_append_right last_le, List.getElem?_singleton] at fails
          split at fails <;> simp_all
      | ok done =>
          rw [List.getElem?_append] at fails
          split at fails
          · refine ih fails ?_
            intro other reason found
            refine highest other reason ?_
            rwa [List.getElem?_append_left (List.getElem?_eq_some_iff.mp found).1]
          · simp [List.getElem?_singleton] at fails

@[simp]
theorem filterMap_failure?_enteredAll (count : Nat) :
    (enteredAll count).filterMap failure? = [] :=
  filterMap_enteredAll (fun _ => rfl) count

@[simp]
theorem filterMap_failure?_postedAll (count lowest : Nat) :
    (postedAll count lowest).filterMap failure? = [] :=
  filterMap_postedAll (fun _ => rfl) count lowest

@[simp]
theorem filterMap_failure?_leftAll (told : Option Failure) (results : List (Except Failure Unit)) :
    (leftAll told results).filterMap failure? = [] :=
  filterMap_leftAll (fun _ _ _ => rfl) told results

@[simp]
theorem filterMap_handled?_enteredAll (count : Nat) :
    (enteredAll count).filterMap handled? = [] :=
  filterMap_enteredAll (fun _ => rfl) count

@[simp]
theorem filterMap_handled?_postedAll (count lowest : Nat) :
    (postedAll count lowest).filterMap handled? = [] :=
  filterMap_postedAll (fun _ => rfl) count lowest

@[simp]
theorem filterMap_handled?_leftAll (told : Option Failure) (results : List (Except Failure Unit)) :
    (leftAll told results).filterMap handled? = [] :=
  filterMap_leftAll (fun _ _ _ => rfl) told results

/-- Calls that are none of last hooks have no failure of a last hook among them. -/
theorem lastFailure?_eq_none {calls : List HookCall} (none_left : calls.filterMap left? = []) :
    calls.findSome? lastFailure? = none := by
  rw [List.findSome?_eq_none_iff]
  intro call called
  have not_left := List.filterMap_eq_nil_iff.mp none_left call called
  cases call with
  | after => contradiction
  | _ => rfl

theorem left?_stopped (position : Nat) (result : Except Failure Bool) :
    (enteredAll position ++ [pre position result]).filterMap left? = [] := by
  simp [left?]

theorem lastFailure?_append_leftAll {front : List HookCall}
    (none_left : front.filterMap left? = []) (told : Option Failure)
    (results : List (Except Failure Unit)) :
    (front ++ leftAll told results).findSome? lastFailure? = match verdict results with
      | .error failure => some failure
      | .ok _ => none := by
  rw [List.findSome?_append, lastFailure?_eq_none none_left, lastFailure?_leftAll]
  rfl

/-- What last hooks come to is what the calls say that they end. -/
theorem verdict_eq {front : List HookCall} (none_left : front.filterMap left? = [])
    (told : Option Failure) (results : List (Except Failure Unit)) :
    verdict results = match (front ++ leftAll told results).findSome? lastFailure? with
      | some failure => .error failure
      | none => .ok () := by
  rw [lastFailure?_append_leftAll none_left]
  cases verdict results <;> rfl

end HookCall

variable {σ β : Type}

/-! ## Projections of the calls of a run -/

namespace Interceptor

variable {f : HookCall → Option β}

theorem filterMap_calls_enterAll (handler : Handler (Logged σ))
    {interceptors : List (Interceptor (Logged σ))} (records : AllRecord interceptors)
    (pre_none : ∀ position result, f (.pre position result) = none) (x : Exchange (Logged σ)) :
    (enterAll handler interceptors x).2.calls.filterMap f = x.calls.filterMap f := by
  obtain ⟨calls, calls_eq, entering⟩ := calls_enterAll handler records x
  rw [calls_eq, List.filterMap_append]
  generalize (enterAll handler interceptors x).1.1 = result at entering
  generalize (enterAll handler interceptors x).1.2 = entered at entering
  cases entering <;>
    simp [HookCall.filterMap_enteredAll fun position => pre_none position (.ok true), pre_none]

/-- There is one step of the view for each call of a hook that sees it. -/
theorem length_posted?_postAll (handler : Handler (Logged σ))
    {interceptors : List (Interceptor (Logged σ))}
    (records : ∀ interceptor ∈ interceptors, ∃ position, interceptor.Records position)
    (view : ModelAndView) (x : Exchange (Logged σ)) :
    ((postAll handler interceptors (some view) x).2.2.calls.filterMap HookCall.posted?).length =
      (x.calls.filterMap HookCall.posted?).length +
        (viewSteps handler interceptors view x).length := by
  induction interceptors generalizing view x with
  | nil => rfl
  | cons interceptor rest ih =>
      obtain ⟨⟨position, first_records⟩, rest_records⟩ := List.forall_mem_cons.mp records
      have first_calls := first_records.postHandle handler (some view) x
      unfold postAll viewSteps
      rcases first_eq : interceptor.postHandle handler (some view) x with
        ⟨failure | ⟨⟩, changed, y⟩ <;> rw [first_eq] at first_calls <;> simp only at first_calls ⊢
      · simp [first_calls, HookCall.posted?]
      · have kept_eq : keptView (some view) changed = some (changed.getD view) := rfl
        rw [kept_eq, ih rest_records, first_calls, List.length_cons]
        simp only [List.filterMap_append, List.length_append, List.filterMap_cons,
          HookCall.posted?, List.filterMap_nil, List.length_singleton]
        omega

end Interceptor

namespace HandlerChain

variable {f : HookCall → Option β}

/-- The result of the handler in a run among its interceptors, if it is called. -/
def handled? (chain : HandlerChain σ) (adapter : Adapter σ) (x : Exchange σ) :
    Option (Except Failure (Option ModelAndView)) :=
  match Interceptor.enterAll chain.handler chain.interceptors x with
  | ((.ok true, _), x) => some (adapter.handle chain.handler x).1
  | _ => none

theorem filterMap_calls_leave (chain : HandlerChain (Logged σ))
    (records : Interceptor.AllRecord chain.interceptors)
    (after_none : ∀ position told result, f (.after position told result) = none) {entered : Nat}
    (inside : entered ≤ chain.interceptors.length) (told : Option Failure)
    (x : Exchange (Logged σ)) :
    (chain.leave entered told x).2.calls.filterMap f = x.calls.filterMap f := by
  obtain ⟨results, -, calls_eq, -⟩ := chain.calls_leave records inside told x
  rw [calls_eq, List.filterMap_append, HookCall.filterMap_leftAll after_none, List.append_nil]

/-- What is neither a first nor a last hook is called by the handler's part of a run. -/
theorem filterMap_calls_run (chain : HandlerChain (Logged σ))
    (records : Interceptor.AllRecord chain.interceptors)
    (pre_none : ∀ position result, f (.pre position result) = none)
    (after_none : ∀ position told result, f (.after position told result) = none)
    (adapter : Adapter (Logged σ)) (x : Exchange (Logged σ)) :
    (chain.run adapter x).2.calls.filterMap f =
      match Interceptor.enterAll chain.handler chain.interceptors x with
      | ((.ok true, _), y) => (chain.runHandler adapter y).2.calls.filterMap f
      | _ => x.calls.filterMap f := by
  have inside := Interceptor.entered_enterAll_le chain.handler chain.interceptors x
  have entry_eq := Interceptor.filterMap_calls_enterAll chain.handler records pre_none x
  unfold run
  rcases enter_eq : Interceptor.enterAll chain.handler chain.interceptors x with
    ⟨⟨failure | _ | _, entered⟩, y⟩ <;> rw [enter_eq] at inside entry_eq <;>
    simp only [fail, succeed_eq]
  · rw [chain.filterMap_calls_leave records after_none inside, entry_eq]
  · rw [chain.filterMap_calls_leave records after_none inside, entry_eq]
  · rcases chain.runHandler adapter y with ⟨failure | view, z⟩ <;>
      exact chain.filterMap_calls_leave records after_none inside _ _

/-- The view that the hooks are shown first: a view without a name gets the one of the path. -/
def firstView (view : Option ModelAndView) (x : Exchange σ) : Option ModelAndView :=
  view.map (·.withDefaultView (defaultViewName x.request.path))

/-- Behind a handler that does not fail, the hooks decide that see its view. -/
theorem runHandler_of_ok {chain : HandlerChain σ} {adapter : Adapter σ} {x y : Exchange σ}
    {view : Option ModelAndView} (handle_eq : adapter.handle chain.handler x = (.ok view, y)) :
    chain.runHandler adapter x =
      match Interceptor.postAll chain.handler chain.interceptors.reverse (firstView view y) y with
      | (result, shown, z) => (result.map fun _ => shown, z) := by
  simp only [runHandler, handle_eq, firstView]
  generalize Interceptor.postAll _ _ _ _ = posted
  obtain ⟨_ | _, shown, z⟩ := posted <;> rfl

/-- A run calls the handler at most once, and has its result in the log. -/
theorem handled?_calls_run (chain : HandlerChain (Logged σ))
    (records : Interceptor.AllRecord chain.interceptors) {adapter : Adapter (Logged σ)}
    (adapter_records : adapter.Records) (x : Exchange (Logged σ)) :
    (chain.run adapter x).2.calls.filterMap HookCall.handled? =
      x.calls.filterMap HookCall.handled? ++ (chain.handled? adapter x).toList := by
  have entry_eq := Interceptor.filterMap_calls_enterAll chain.handler records
    (f := HookCall.handled?) (fun _ _ => rfl) x
  rw [chain.filterMap_calls_run records (fun _ _ => rfl) (fun _ _ _ => rfl), handled?]
  rcases enter_eq : Interceptor.enterAll chain.handler chain.interceptors x with
    ⟨⟨failure | _ | _, entered⟩, y⟩
  · simp
  · simp
  · rw [enter_eq] at entry_eq
    have handle_calls := adapter_records chain.handler y
    simp only [← entry_eq, Option.toList_some]
    rcases handle_eq : adapter.handle chain.handler y with ⟨failure | view, z⟩ <;>
      rw [handle_eq] at handle_calls
    · simp [runHandler, handle_eq, handle_calls, HookCall.handled?]
    · obtain ⟨calls, calls_eq, posting⟩ :=
        Interceptor.calls_postAll chain.handler records (firstView view z) z
      have none_handled : calls.filterMap HookCall.handled? = [] := by
        generalize (Interceptor.postAll chain.handler chain.interceptors.reverse
          (firstView view z) z).1 = result at posting
        cases posting <;> simp [HookCall.handled?]
      simp [runHandler_of_ok handle_eq, calls_eq, handle_calls, HookCall.handled?, none_handled]

/-- There is one step of the view for each call of a hook that sees it, if there is a view. -/
theorem length_posted?_run (chain : HandlerChain (Logged σ))
    (records : Interceptor.AllRecord chain.interceptors) {adapter : Adapter (Logged σ)}
    (adapter_records : adapter.Records) {x : Exchange (Logged σ)} {view : ModelAndView}
    (handled : chain.handled? adapter x = some (.ok (some view))) :
    ((chain.run adapter x).2.calls.filterMap HookCall.posted?).length =
      (x.calls.filterMap HookCall.posted?).length + (chain.viewSteps adapter x).length := by
  have entry_eq := Interceptor.filterMap_calls_enterAll chain.handler records
    (f := HookCall.posted?) (fun _ _ => rfl) x
  rw [chain.filterMap_calls_run records (fun _ _ => rfl) (fun _ _ _ => rfl), viewSteps]
  unfold handled? at handled
  rcases enter_eq : Interceptor.enterAll chain.handler chain.interceptors x with
    ⟨⟨failure | _ | _, entered⟩, y⟩ <;> rw [enter_eq] at entry_eq handled
  · contradiction
  · contradiction
  · have handle_calls := adapter_records chain.handler y
    rcases handle_eq : adapter.handle chain.handler y with ⟨result, z⟩
    rw [handle_eq] at handle_calls
    simp only [handle_eq, Option.some.injEq] at handled
    subst handled
    have each_records : ∀ interceptor ∈ chain.interceptors.reverse,
        ∃ position, interceptor.Records position := by
      intro interceptor listed
      obtain ⟨position, found⟩ := List.mem_iff_getElem?.mp (List.mem_reverse.mp listed)
      exact ⟨position, records position interceptor found⟩
    have posted_eq := Interceptor.length_posted?_postAll chain.handler each_records
      (view.withDefaultView (defaultViewName z.request.path)) z
    simp only [runHandler_of_ok handle_eq, firstView, Option.map_some, posted_eq, handle_calls,
      List.filterMap_append, entry_eq, handle_eq]
    simp [HookCall.posted?]

/-- The view of a handler, named after the path if it has no name, is handed from hook to hook. -/
theorem handedOn_of_handled {chain : HandlerChain σ} {adapter : Adapter σ} {x : Exchange σ}
    {view : ModelAndView} (handled : chain.handled? adapter x = some (.ok (some view))) :
    ∃ last, HandedOn (view.withDefaultView (defaultViewName (chain.handledPath adapter x)))
      (chain.viewSteps adapter x) last := by
  unfold handled? at handled
  rcases enter_eq : Interceptor.enterAll chain.handler chain.interceptors x with
    ⟨⟨failure | _ | _, entered⟩, y⟩ <;> rw [enter_eq] at handled
  · contradiction
  · contradiction
  · rcases handle_eq : adapter.handle chain.handler y with ⟨result, z⟩
    simp only [handle_eq, Option.some.injEq] at handled
    subst handled
    obtain ⟨last, handed, -⟩ := Interceptor.handedOn_viewSteps chain.handler
      chain.interceptors.reverse (view.withDefaultView (defaultViewName z.request.path)) z
    refine ⟨last, ?_⟩
    simpa only [viewSteps, handledPath, enter_eq, handle_eq] using handed

/-- No hook is shown a view unless the handler returns one. -/
theorem handled?_of_mem_viewSteps {chain : HandlerChain σ} {adapter : Adapter σ} {x : Exchange σ}
    {step : ViewStep} (called : step ∈ chain.viewSteps adapter x) :
    ∃ view, chain.handled? adapter x = some (.ok (some view)) := by
  unfold viewSteps at called
  rcases enter_eq : Interceptor.enterAll chain.handler chain.interceptors x with
    ⟨⟨failure | _ | _, entered⟩, y⟩ <;> rw [enter_eq] at called
  · contradiction
  · contradiction
  · rcases handle_eq : adapter.handle chain.handler y with ⟨failure | _ | view, z⟩ <;>
      simp only [handle_eq] at called
    · contradiction
    · contradiction
    · exact ⟨view, by simp only [handled?, enter_eq, handle_eq]⟩

/-- Last hooks that do not fail leave the ending alone. -/
theorem ending_of_succeed {chain : HandlerChain σ} {entered : Nat} {ending other : Ending}
    {x : Exchange σ} (ended : (chain.succeed entered ending x).1 = .ok other) : other = ending := by
  rw [succeed_eq] at ended
  rcases left_eq : (chain.leave entered none x).1 with failure | done <;> rw [left_eq] at ended
  · contradiction
  · exact (Except.ok.inj ended).symm

/-- A run that the handler answers ends with a view if the handler returned one, and then with what
the hooks that see it left. -/
theorem of_run_eq_handled {chain : HandlerChain σ} {adapter : Adapter σ} {x : Exchange σ}
    {shown : Option ModelAndView} (ended : (chain.run adapter x).1 = .ok (.handled shown)) :
    (chain.handled? adapter x = some (.ok none) ∧ shown = none) ∨
      ∃ view last, chain.handled? adapter x = some (.ok (some view)) ∧ shown = some last ∧
        HandedOn (view.withDefaultView (defaultViewName (chain.handledPath adapter x)))
          (chain.viewSteps adapter x) last := by
  unfold run at ended
  rcases enter_eq : Interceptor.enterAll chain.handler chain.interceptors x with
    ⟨⟨failure | _ | _, entered⟩, y⟩ <;> rw [enter_eq] at ended
  · contradiction
  · cases ending_of_succeed ended
  · rcases handle_eq : adapter.handle chain.handler y with ⟨failure | view, z⟩
    · simp [runHandler, handle_eq, fail] at ended
    · simp only [runHandler_of_ok handle_eq] at ended
      rcases post_eq : Interceptor.postAll chain.handler chain.interceptors.reverse
        (firstView view z) z with ⟨failure | ⟨⟩, left, w⟩ <;> rw [post_eq] at ended
      · contradiction
      · cases ending_of_succeed ended
        have handled_eq : chain.handled? adapter x = some (.ok view) := by
          simp [handled?, enter_eq, handle_eq]
        cases view with
        | none =>
            have none_left := Interceptor.postAll_none chain.handler chain.interceptors.reverse z
            change Interceptor.postAll _ _ none z = _ at post_eq
            rw [post_eq] at none_left
            exact .inl ⟨handled_eq, none_left⟩
        | some view =>
            obtain ⟨last, handed, last_eq⟩ := Interceptor.handedOn_viewSteps chain.handler
              chain.interceptors.reverse (view.withDefaultView (defaultViewName z.request.path)) z
            change Interceptor.postAll _ _ (some (view.withDefaultView _)) z = _ at post_eq
            rw [post_eq] at last_eq
            refine .inr ⟨view, last, handled_eq, last_eq, ?_⟩
            simpa [viewSteps, handledPath, enter_eq, handle_eq] using handed

end HandlerChain

/-! ## What the calls decide -/

open HandlerChain (Ending)

namespace Handling

variable {count : Nat} {calls : List HookCall}

theorem filterMap_failure?_of_error {failure : Failure}
    (handled : Handling count calls (.error failure)) :
    calls.filterMap HookCall.failure? = [failure] := by
  cases handled <;> simp [List.filterMap_cons, HookCall.failure?]

theorem filterMap_failure?_of_ok {shown : Option ModelAndView}
    (handled : Handling count calls (.ok shown)) : calls.filterMap HookCall.failure? = [] := by
  cases handled
  simp [List.filterMap_cons, HookCall.failure?]

theorem filterMap_handled?_of_ok {shown : Option ModelAndView}
    (handled : Handling count calls (.ok shown)) :
    ∃ view, calls.filterMap HookCall.handled? = [.ok view] := by
  cases handled with
  | @passes view => exact ⟨view, by simp [HookCall.handled?]⟩

theorem pre_notMem {result : Except Failure (Option ModelAndView)}
    (handled : Handling count calls result) (position : Nat) (goes : Except Failure Bool) :
    .pre position goes ∉ calls := by
  cases handled <;> simp [HookCall.postedAll]

end Handling

namespace ChainRun

variable {count : Nat} {calls : List HookCall} {ending : Except Failure Ending}

/-- The calls of a run end with those of the last hooks. -/
theorem exists_leftAll (run : ChainRun count calls ending) :
    ∃ front told results, calls = front ++ HookCall.leftAll told results ∧
      front.filterMap HookCall.left? = [] := by
  cases run with
  | refused | preFails => exact ⟨_, _, _, rfl, HookCall.left?_stopped _ _⟩
  | handlingFails handled | passes handled =>
      exact ⟨_, _, _, rfl, by simp [handled.left?_eq_nil]⟩

/-- The first last hook to fail is that of the last interceptor among those whose last hooks
fail. -/
theorem lastFailure?_of_highest (run : ChainRun count calls ending) {position : Nat}
    {told : Option Failure} {failure : Failure}
    (fails : .after position told (.error failure) ∈ calls)
    (highest : ∀ other also reason, .after other also (.error reason) ∈ calls → other ≤ position) :
    calls.findSome? HookCall.lastFailure? = some failure := by
  obtain ⟨front, told_all, results, rfl, none_left⟩ := run.exists_leftAll
  have not_in_front (position : Nat) (told : Option Failure) (result : Except Failure Unit) :
      .after position told result ∉ front := by
    intro called
    exact absurd (List.filterMap_eq_nil_iff.mp none_left _ called) (by simp [HookCall.left?])
  simp only [List.mem_append, not_in_front, false_or, HookCall.mem_leftAll_iff] at fails highest
  have verdict_eq := HookCall.verdict_of_highest fails.2
    fun other reason found => highest other told_all reason ⟨rfl, found⟩
  rw [HookCall.lastFailure?_append_leftAll none_left, verdict_eq]

/-- A run fails with the failure of its first hooks, its handler or the hooks that see the view, and
without such a failure with the first one of its last hooks. -/
theorem failure_cases (run : ChainRun count calls ending) :
    (∃ failure, calls.filterMap HookCall.failure? = [failure] ∧ ending = .error failure) ∨
      (calls.filterMap HookCall.failure? = [] ∧
        ∀ failure, calls.findSome? HookCall.lastFailure? = some failure →
          ending = .error failure) := by
  cases run with
  | @preFails position failure =>
      refine .inl ⟨failure, ?_, rfl⟩
      simp [HookCall.failure?]
  | @handlingFails handling failure results handled =>
      refine .inl ⟨failure, ?_, rfl⟩
      simp [handled.filterMap_failure?_of_error]
  | @refused position results =>
      refine .inr ⟨?_, ?_⟩
      · rw [List.filterMap_append]
        simp [HookCall.failure?]
      · intro failure first_eq
        rw [HookCall.verdict_eq (HookCall.left?_stopped _ _) none results, first_eq]
        rfl
  | @passes handling shown results handled =>
      refine .inr ⟨by simp [handled.filterMap_failure?_of_ok], ?_⟩
      intro failure first_eq
      have none_left : (HookCall.enteredAll count ++ handling).filterMap HookCall.left? = [] := by
        simp [handled.left?_eq_nil]
      rw [HookCall.verdict_eq none_left none results, first_eq]
      rfl

/-- A run in which nothing fails ends at a first hook that does not go on, or with the handler. -/
theorem succeed_cases (run : ChainRun count calls ending) (succeed : HookCall.AllSucceed calls) :
    (∃ position, .pre position (.ok false) ∈ calls ∧ ending = .ok .shortCircuited ∧
        calls.filterMap HookCall.handled? = []) ∨
      ∃ view shown, calls.filterMap HookCall.handled? = [.ok view] ∧
        ending = .ok (.handled shown) ∧ ∀ position, .pre position (.ok false) ∉ calls := by
  have no_failure : calls.filterMap HookCall.failure? = [] :=
    List.filterMap_eq_nil_iff.mpr fun call called => (succeed call called).1
  have no_lastFailure : calls.findSome? HookCall.lastFailure? = none :=
    List.findSome?_eq_none_iff.mpr fun call called => (succeed call called).2
  cases run with
  | preFails => simp [HookCall.failure?] at no_failure
  | handlingFails handled => simp [handled.filterMap_failure?_of_error] at no_failure
  | @refused position results =>
      refine .inl ⟨position, by simp, ?_, ?_⟩
      · rw [HookCall.verdict_eq (HookCall.left?_stopped _ _) none results, no_lastFailure]
        rfl
      · rw [List.filterMap_append]
        simp [HookCall.handled?]
  | @passes handling shown results handled =>
      have none_left : (HookCall.enteredAll count ++ handling).filterMap HookCall.left? = [] := by
        simp [handled.left?_eq_nil]
      obtain ⟨view, handled_eq⟩ := handled.filterMap_handled?_of_ok
      refine .inr ⟨view, shown, by simp [handled_eq], ?_, ?_⟩
      · rw [HookCall.verdict_eq none_left none results, no_lastFailure]
        rfl
      · intro position called
        simp [HookCall.enteredAll, handled.pre_notMem, HookCall.leftAll, List.mem_mapIdx] at called

end ChainRun

/-- The outcome of a run that ends without a failure. -/
def Outcome.ofEnding (response : Response) : Ending → Outcome
  | .shortCircuited => .shortCircuited response
  | .handled none => .completed response
  | .handled (some shown) => .view shown response

/-- A result is the one that calls decide. -/
structure Decided (calls : List HookCall) (response : Response)
    (result : Except Failure Outcome) : Prop where
  /-- A failure of a first hook, of the handler or of a hook that sees the view is the result,
  whatever the last hooks do. -/
  of_failure : ∀ call ∈ calls, ∀ failure, call.failure? = some failure → result = .error failure
  /-- Without such a failure, the first failure of a last hook is the result. -/
  of_lastFailure : (∀ call ∈ calls, call.failure? = none) →
    ∀ failure, calls.findSome? HookCall.lastFailure? = some failure → result = .error failure
  /-- The first last hook to fail is that of the last interceptor among those whose last hooks
  fail. -/
  first_of_highest : ∀ position told failure, .after position told (.error failure) ∈ calls →
    (∀ other also reason, .after other also (.error reason) ∈ calls → other ≤ position) →
      calls.findSome? HookCall.lastFailure? = some failure
  /-- Without failures, an interceptor that does not go on is the outcome. -/
  of_refusal : HookCall.AllSucceed calls → ∀ position, .pre position (.ok false) ∈ calls →
    result = .ok (.shortCircuited response)
  /-- Without failures, a handler that returns a view leaves the response to one. -/
  of_view : HookCall.AllSucceed calls → ∀ view, .handle (.ok (some view)) ∈ calls →
    ∃ shown, result = .ok (.view shown response)
  /-- Without failures, a handler that returns no view completes the response. -/
  of_noView : HookCall.AllSucceed calls → .handle (.ok none) ∈ calls →
    result = .ok (.completed response)
  /-- Without failures, an interceptor does not go on or the handler returns. -/
  refused_or_handled : HookCall.AllSucceed calls →
    (∃ position, .pre position (.ok false) ∈ calls) ∨ ∃ view, .handle (.ok view) ∈ calls

/-- Views have names unless hooks put views without names in their places. -/
structure NamesViews (calls : List HookCall) (path : String) (steps : List ViewStep)
    (result : Except Failure Outcome) : Prop where
  /-- The steps are the calls of the hooks that see the view. -/
  length_eq : ∀ view, .handle (.ok (some view)) ∈ calls →
    steps.length = (calls.filterMap HookCall.posted?).length
  /-- The view of the handler, named after the path if it has no name, is handed on from hook to
  hook, and the view of the outcome is what the last one left. -/
  handedOn : ∀ view, .handle (.ok (some view)) ∈ calls →
    ∃ last, HandedOn (view.withDefaultView (defaultViewName path)) steps last ∧
      ∀ shown response, result = .ok (.view shown response) → shown = last
  /-- The view that a hook is shown has a name, unless a hook before it took it. -/
  shown_hasView : ∀ front step back, steps = front ++ step :: back →
    step.shown.hasView = true ∨ ∃ earlier ∈ front, earlier.Unnames
  /-- The view of the outcome has a name, unless a hook took it. -/
  outcome_hasView : ∀ shown response, result = .ok (.view shown response) →
    shown.hasView = true ∨ ∃ step ∈ steps, step.Unnames

namespace HandlerChain

variable {chain : HandlerChain (Logged σ)} {adapter : Adapter (Logged σ)}
  {x : Exchange (Logged σ)} {calls : List HookCall}

/-- The result of the handler is the one that is logged for it. -/
theorem handled?_of_mem (records : Interceptor.AllRecord chain.interceptors)
    (adapter_records : adapter.Records)
    (calls_eq : (chain.run adapter x).2.calls = x.calls ++ calls)
    {result : Except Failure (Option ModelAndView)} (called : .handle result ∈ calls) :
    chain.handled? adapter x = some result := by
  have log_eq := chain.handled?_calls_run records adapter_records x
  rw [calls_eq, List.filterMap_append, List.append_cancel_left_eq] at log_eq
  have listed : result ∈ calls.filterMap HookCall.handled? :=
    List.mem_filterMap.mpr ⟨_, called, rfl⟩
  rw [log_eq] at listed
  exact Option.mem_toList.mp listed

theorem decided_run (records : Interceptor.AllRecord chain.interceptors)
    (adapter_records : adapter.Records)
    (calls_eq : (chain.run adapter x).2.calls = x.calls ++ calls)
    (run : ChainRun chain.interceptors.length calls (chain.run adapter x).1) (response : Response) :
    Decided calls response ((chain.run adapter x).1.map (Outcome.ofEnding response)) where
  of_failure := by
    intro call called failure fails
    have listed : failure ∈ calls.filterMap HookCall.failure? :=
      List.mem_filterMap.mpr ⟨call, called, fails⟩
    rcases run.failure_cases with ⟨reason, only, ended⟩ | ⟨none_fails, -⟩
    · rw [only, List.mem_singleton] at listed
      rw [ended, listed]
      rfl
    · simp [none_fails] at listed
  of_lastFailure := by
    intro none_fails failure first
    rcases run.failure_cases with ⟨reason, only, -⟩ | ⟨-, ended⟩
    · simp [List.filterMap_eq_nil_iff.mpr none_fails] at only
    · rw [ended failure first]
      rfl
  first_of_highest := fun _ _ _ => run.lastFailure?_of_highest
  of_refusal := by
    intro succeed position called
    rcases run.succeed_cases succeed with ⟨_, -, ended, -⟩ | ⟨_, _, -, -, not_called⟩
    · rw [ended]
      rfl
    · exact absurd called (not_called position)
  of_view := by
    intro succeed view called
    have handled := handled?_of_mem records adapter_records calls_eq called
    have listed : .ok (some view) ∈ calls.filterMap HookCall.handled? :=
      List.mem_filterMap.mpr ⟨_, called, rfl⟩
    rcases run.succeed_cases succeed with ⟨_, -, -, not_handled⟩ | ⟨_, shown, -, ended, -⟩
    · simp [not_handled] at listed
    · rcases of_run_eq_handled ended with ⟨no_view, -⟩ | ⟨_, last, -, rfl, -⟩
      · simp [handled] at no_view
      · exact ⟨last, by rw [ended]; rfl⟩
  of_noView := by
    intro succeed called
    have handled := handled?_of_mem records adapter_records calls_eq called
    have listed : .ok none ∈ calls.filterMap HookCall.handled? :=
      List.mem_filterMap.mpr ⟨_, called, rfl⟩
    rcases run.succeed_cases succeed with ⟨_, -, -, not_handled⟩ | ⟨_, shown, -, ended, -⟩
    · simp [not_handled] at listed
    · rcases of_run_eq_handled ended with ⟨-, rfl⟩ | ⟨_, last, a_view, -⟩
      · rw [ended]
        rfl
      · simp [handled] at a_view
  refused_or_handled := by
    intro succeed
    rcases run.succeed_cases succeed with ⟨position, called, -⟩ | ⟨view, _, handled_eq, -⟩
    · exact .inl ⟨position, called⟩
    · have listed : .ok view ∈ calls.filterMap HookCall.handled? := by simp [handled_eq]
      obtain ⟨call, called, call_eq⟩ := List.mem_filterMap.mp listed
      cases call <;> simp only [HookCall.handled?, reduceCtorEq, Option.some.injEq] at call_eq
      subst call_eq
      exact .inr ⟨view, called⟩

/-- A run that ends with a view ends with what the hooks left of the view of the handler. -/
theorem of_map_eq_view {response other : Response} {shown : ModelAndView}
    (outcome_eq : (chain.run adapter x).1.map (Outcome.ofEnding response) =
      .ok (.view shown other)) :
    ∃ view, chain.handled? adapter x = some (.ok (some view)) ∧
      HandedOn (view.withDefaultView (defaultViewName (chain.handledPath adapter x)))
        (chain.viewSteps adapter x) shown := by
  rcases ended : (chain.run adapter x).1 with failure | (_ | _ | left)
  · simp [ended, Except.map] at outcome_eq
  · simp [ended, Except.map, Outcome.ofEnding] at outcome_eq
  · simp [ended, Except.map, Outcome.ofEnding] at outcome_eq
  · simp only [ended, Except.map, Outcome.ofEnding, Except.ok.injEq, Outcome.view.injEq]
      at outcome_eq
    obtain ⟨rfl, -⟩ := outcome_eq
    rcases of_run_eq_handled ended with ⟨-, no_view⟩ | ⟨view, last, handled, last_eq, handed⟩
    · contradiction
    · cases last_eq
      exact ⟨view, handled, handed⟩

theorem namesViews_run (records : Interceptor.AllRecord chain.interceptors)
    (adapter_records : adapter.Records)
    (calls_eq : (chain.run adapter x).2.calls = x.calls ++ calls)
    (response : Response) :
    NamesViews calls (chain.handledPath adapter x) (chain.viewSteps adapter x)
      ((chain.run adapter x).1.map (Outcome.ofEnding response)) where
  length_eq := by
    intro view called
    have handled := handled?_of_mem records adapter_records calls_eq called
    have posted_eq := chain.length_posted?_run records adapter_records handled
    rw [calls_eq, List.filterMap_append, List.length_append] at posted_eq
    exact (Nat.add_left_cancel posted_eq).symm
  handedOn := by
    intro view called
    have handled := handled?_of_mem records adapter_records calls_eq called
    by_cases ends : ∃ shown other, (chain.run adapter x).1.map (Outcome.ofEnding response) =
        .ok (.view shown other)
    · obtain ⟨last, other, outcome_eq⟩ := ends
      obtain ⟨first, first_handled, handed⟩ := of_map_eq_view outcome_eq
      obtain rfl : first = view := by simpa [handled] using first_handled.symm
      refine ⟨last, handed, ?_⟩
      intro shown response shown_eq
      simp only [outcome_eq, Except.ok.injEq, Outcome.view.injEq] at shown_eq
      exact shown_eq.1.symm
    · obtain ⟨last, handed⟩ := handedOn_of_handled handled
      exact ⟨last, handed, fun shown other outcome_eq => absurd ⟨_, _, outcome_eq⟩ ends⟩
  shown_hasView := by
    intro front step back split
    have called : step ∈ chain.viewSteps adapter x := by simp [split]
    obtain ⟨view, handled⟩ := handled?_of_mem_viewSteps called
    obtain ⟨last, handed⟩ := handedOn_of_handled handled
    exact handed.shown_hasView (view.hasView_withDefaultView _) split
  outcome_hasView := by
    intro shown other outcome_eq
    obtain ⟨view, -, handed⟩ := of_map_eq_view outcome_eq
    exact handed.last_hasView (view.hasView_withDefaultView _)

end HandlerChain

namespace Dispatcher

/-- The result of a dispatch that reaches a chain is that of its run. -/
theorem dispatch_of_reaches {dispatcher : Dispatcher σ} {visit : Visit σ} {chain : HandlerChain σ}
    {adapter : Adapter σ} {x : Exchange σ} (reaches : dispatcher.Reaches visit chain adapter x) :
    (dispatcher.dispatch visit).1 =
      (chain.run adapter x).1.map (Outcome.ofEnding (chain.run adapter x).2.response) := by
  cases reaches with
  | @intro guard storage _ after _ parsed found supported stale =>
      have resolved_eq : (dispatcher.dispatch visit).1 =
          (dispatcher.dispatchResolved (guarded visit guard storage)).1 := by
        unfold guardFor at parsed
        simp only [dispatch, parsed]
        rfl
      simp only [resolved_eq, dispatchResolved, found, supported, answer, stale,
        Bool.false_eq_true, if_false]
      split <;> simp_all only <;> rfl

/-- A dispatch that reaches a chain has the result that its calls decide.  The view of the handler
is handed on from hook to hook to the outcome, and has a name as long as no hook puts a view without
one in its place. -/
theorem dispatch_decided (dispatcher : Dispatcher (Logged σ)) (visit : Visit (Logged σ))
    {chain : HandlerChain (Logged σ)} {adapter : Adapter (Logged σ)} {x : Exchange (Logged σ)}
    (reaches : dispatcher.recorded.Reaches visit chain adapter x) :
    ∃ calls, (dispatcher.recorded.dispatch visit).2.calls = visit.calls ++ calls ∧
      Decided calls (chain.run adapter x).2.response (dispatcher.recorded.dispatch visit).1 ∧
      NamesViews calls (chain.handledPath adapter x) (chain.viewSteps adapter x)
        (dispatcher.recorded.dispatch visit).1 := by
  have app_eq := app_dispatch_of_reaches reaches
  rw [dispatch_of_reaches reaches]
  cases reaches with
  | @intro guard storage _ after _ _ found supported =>
      have found_eq := dispatcher.records_resolve (guarded visit guard storage)
      rw [found] at found_eq
      have chain_records := found_eq.2 chain rfl
      obtain ⟨calls, calls_eq, run⟩ := chain.calls_run chain_records (records_find supported)
        { after with response := startResponse .ok _ }
      refine ⟨calls, (congrArg Logged.calls app_eq).trans (calls_eq.trans (found_eq.1 ▸ rfl)),
        ?_, ?_⟩
      · exact HandlerChain.decided_run chain_records (records_find supported) calls_eq run _
      · exact HandlerChain.namesViews_run chain_records (records_find supported) calls_eq _

/-- A dispatcher of two interceptors, whose handler has a result of its own. -/
def surrounded (outer inner : Interceptor (Logged Unit))
    (result : Except Failure (Option ModelAndView)) : Dispatcher (Logged Unit) where
  registry := ⟨[⟨none, {
    name := "all"
    find := fun visit => (.ok (some {
      handler := ⟨0, .custom "any" (.word 0)⟩
      interceptors := [outer, inner] }), visit) }⟩]⟩
  registeredAdapters := [{
    name := "all"
    supports := fun _ => true
    handle := fun _ x => (result, x) }]

/-- A dispatcher whose handler fails, as do the last hooks of both interceptors around it. -/
def failing : Dispatcher (Logged Unit) :=
  surrounded { name := "outer", afterCompletion := fun _ _ x => (.error (.internal "outer"), x) }
    { name := "inner", afterCompletion := fun _ _ x => (.error (.internal "inner"), x) }
    (.error (.internal "handler"))

/-- A dispatcher whose handler returns a view without a name, which a hook changes before another
one sees it. -/
def showing (change : ModelAndView → ModelAndView) : Dispatcher (Logged Unit) :=
  surrounded { name := "outer" }
    { name := "inner", postHandle := fun _ view x => (.ok (), view.map change, x) }
    (.ok (some {}))

/-- A dispatcher whose first hook to see the view marks it. -/
def marking : Dispatcher (Logged Unit) := showing (·.addObject "seen" (.bool true))

/-- A visit to them. -/
def pageVisit : Visit (Logged Unit) where
  request := { method := .get, path := "/page" }
  world := { app := ⟨(), []⟩ }

/-- The calls of a dispatch whose handler returns a view without a name. -/
theorem calls_dispatch_showing (change : ModelAndView → ModelAndView) :
    ((showing change).recorded.dispatch pageVisit).2.calls =
      [.pre 0 (.ok true), .pre 1 (.ok true), .handle (.ok (some {})), .post 1 (.ok ()),
        .post 0 (.ok ()), .after 1 none (.ok ()), .after 0 none (.ok ())] := rfl

/-- Two hooks are shown the view of a handler with a name, and the outcome has one too.  The failure
of a handler goes before those of the last hooks. -/
theorem dispatch_page :
    (∃ chain adapter x, marking.recorded.Reaches pageVisit chain adapter x ∧
        (chain.viewSteps adapter x).length = 2 ∧
        (∀ step ∈ chain.viewSteps adapter x, step.shown.hasView = true) ∧
        ∃ shown response, (marking.recorded.dispatch pageVisit).1 = .ok (.view shown response) ∧
          shown.hasView = true) ∧
      (failing.recorded.dispatch pageVisit).1 = .error (.internal "handler") := by
  constructor
  · obtain ⟨chain, adapter, x, reaches, none_unnames⟩ : ∃ chain adapter x,
        marking.recorded.Reaches pageVisit chain adapter x ∧
          ∀ step ∈ chain.viewSteps adapter x, ¬ step.Unnames := by
      refine ⟨_, _, _, .intro rfl rfl rfl (by decide), ?_⟩
      rintro step (_ | ⟨_, _ | ⟨_, ⟨⟩⟩⟩) ⟨-, unnamed⟩ <;> cases unnamed
    obtain ⟨calls, calls_eq, decided, names⟩ := marking.dispatch_decided pageVisit reaches
    obtain rfl := calls_eq.symm.trans (calls_dispatch_showing _)
    obtain ⟨shown, ended⟩ := decided.of_view
      (by simp [HookCall.AllSucceed, HookCall.failure?, HookCall.lastFailure?]) {} (by simp)
    refine ⟨chain, adapter, x, reaches, names.length_eq {} (by simp), ?_, shown, _, ended, ?_⟩
    · intro step called
      obtain ⟨front, back, split⟩ := List.append_of_mem called
      refine (names.shown_hasView front step back split).resolve_right ?_
      rintro ⟨earlier, listed, unnames⟩
      exact none_unnames earlier (by simp [split, listed]) unnames
    · refine (names.outcome_hasView shown _ ended).resolve_right ?_
      rintro ⟨step, called, unnames⟩
      exact none_unnames step called unnames
  · have reaches : failing.recorded.Reaches pageVisit _ _ _ := .intro rfl rfl rfl (by decide)
    obtain ⟨calls, calls_eq, decided, -⟩ := failing.dispatch_decided pageVisit reaches
    have called : .handle (.error (.internal "handler")) ∈ calls := by
      rw [show calls = (failing.recorded.dispatch pageVisit).2.calls from calls_eq.symm]
      exact .tail _ (.tail _ (.head _))
    exact decided.of_failure _ called _ rfl

/-- A hook may put a view without a name in the place of one with a name, and another hook sees it,
as does the outcome.  A hook may also leave a name that is empty. -/
theorem dispatch_unnamed :
    (∃ chain adapter x, (showing fun _ => {}).recorded.Reaches pageVisit chain adapter x ∧
        (∃ step ∈ chain.viewSteps adapter x, step.shown.hasView = false) ∧
        ∃ shown response, ((showing fun _ => {}).recorded.dispatch pageVisit).1 =
          .ok (.view shown response) ∧ shown.hasView = false) ∧
      ∃ shown response,
        ((showing fun view => { view with view := some "" }).recorded.dispatch pageVisit).1 =
          .ok (.view shown response) ∧ shown.view = some "" := by
  refine ⟨⟨_, _, _, .intro rfl rfl rfl (by decide), ?_, {}, _, rfl, rfl⟩,
    { view := some "" }, _, rfl, rfl⟩
  -- The second hook is shown what the first one left.
  exact ⟨_, .tail _ (.head _), rfl⟩

end Dispatcher
end WebDispatch
