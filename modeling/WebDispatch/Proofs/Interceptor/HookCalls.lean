import Mathlib.Data.List.Induction
import WebDispatch.Interceptor.Execution

/-!
# The calls of hooks

Hooks may do anything, so what the rules of their order are about is observed by the hooks
themselves: the state of the application holds a log, and every hook that is called adds one entry
with its result.  The three theorems `calls_enterAll`, `calls_postAll` and `calls_completeAll` give
the entries that each kind of run adds.
-/

namespace WebDispatch

/-- One call of a hook or of a handler, with its result. -/
inductive HookCall where
  /-- The first hook of the interceptor at a position. -/
  | pre (position : Nat) (result : Except Failure Bool)
  /-- The handler. -/
  | handle (result : Except Failure (Option ModelAndView))
  /-- The hook of an interceptor that sees the view. -/
  | post (position : Nat) (result : Except Failure Unit)
  /-- The last hook of an interceptor, which is told the failure if there was one. -/
  | after (position : Nat) (told : Option Failure) (result : Except Failure Unit)

namespace HookCall

/-- The interceptor whose first hook is called. -/
def entered? : HookCall → Option Nat
  | pre position _ => some position
  | _ => none

/-- The interceptor whose last hook is called. -/
def left? : HookCall → Option Nat
  | after position _ _ => some position
  | _ => none

/-- The failure of a call, unless it is the call of a last hook. -/
def failure? : HookCall → Option Failure
  | pre _ (.error failure) => some failure
  | handle (.error failure) => some failure
  | post _ (.error failure) => some failure
  | _ => none

/-- The first hooks of the first `count` interceptors, all of which go on. -/
def enteredAll (count : Nat) : List HookCall :=
  (List.range count).map fun position => pre position (.ok true)

/-- The hooks that see the view, from the last of `count` interceptors down to the one at the
position `lowest`, none of which fails. -/
def postedAll (count lowest : Nat) : List HookCall :=
  (List.range' lowest (count - lowest)).reverse.map fun position => post position (.ok ())

/-- The last hooks of the first interceptors in reverse order.  The results are in the order of the
interceptors. -/
def leftAll (told : Option Failure) (results : List (Except Failure Unit)) : List HookCall :=
  (results.mapIdx fun position result => after position told result).reverse

/-- What the results of last hooks come to: of several failures the one that came first, which is
that of the last interceptor. -/
def verdict (results : List (Except Failure Unit)) : Except Failure Unit :=
  results.foldl (fun earlier result => match result with
    | .error failure => .error failure
    | .ok _ => earlier) (.ok ())

theorem enteredAll_succ (count : Nat) :
    enteredAll (count + 1) = enteredAll count ++ [pre count (.ok true)] := by
  simp [enteredAll, List.range_succ]

theorem postedAll_succ {count lowest : Nat} (inside : lowest ≤ count) :
    postedAll (count + 1) lowest = post count (.ok ()) :: postedAll count lowest := by
  simp [postedAll, Nat.succ_sub inside, List.range'_concat, Nat.add_sub_cancel' inside]

@[simp]
theorem postedAll_self (count : Nat) : postedAll count count = [] := by
  simp [postedAll]

theorem leftAll_append_singleton (told : Option Failure) (results : List (Except Failure Unit))
    (result : Except Failure Unit) :
    leftAll told (results ++ [result]) =
      after results.length told result :: leftAll told results := by
  simp [leftAll, List.mapIdx_concat]

theorem verdict_append_singleton (results : List (Except Failure Unit))
    (result : Except Failure Unit) :
    verdict (results ++ [result]) = match result with
      | .error failure => .error failure
      | .ok _ => verdict results := by
  simp [verdict]

section Projections

variable {β : Type} {f : HookCall → Option β}

/-- What is seen of no first hook that goes on is not seen of a run of them. -/
theorem filterMap_enteredAll (pre_none : ∀ position, f (pre position (.ok true)) = none)
    (count : Nat) : (enteredAll count).filterMap f = [] := by
  rw [List.filterMap_eq_nil_iff]
  intro call called
  obtain ⟨position, _, rfl⟩ := List.mem_map.mp called
  exact pre_none position

/-- What is seen of no hook that sees the view is not seen of a run of them. -/
theorem filterMap_postedAll (post_none : ∀ position, f (post position (.ok ())) = none)
    (count lowest : Nat) : (postedAll count lowest).filterMap f = [] := by
  rw [List.filterMap_eq_nil_iff]
  intro call called
  obtain ⟨position, _, rfl⟩ := List.mem_map.mp called
  exact post_none position

/-- What is seen of no last hook is not seen of a run of them. -/
theorem filterMap_leftAll
    (after_none : ∀ position told result, f (after position told result) = none)
    (told : Option Failure) (results : List (Except Failure Unit)) :
    (leftAll told results).filterMap f = [] := by
  rw [List.filterMap_eq_nil_iff]
  intro call called
  obtain ⟨position, _, rfl⟩ := List.mem_mapIdx.mp (List.mem_reverse.mp called)
  exact after_none _ _ _

end Projections

@[simp]
theorem entered?_enteredAll (count : Nat) :
    (enteredAll count).filterMap entered? = List.range count := by
  simp [enteredAll, List.filterMap_map, Function.comp_def, entered?]

@[simp]
theorem left?_enteredAll (count : Nat) : (enteredAll count).filterMap left? = [] :=
  filterMap_enteredAll (fun _ => rfl) count

@[simp]
theorem entered?_postedAll (count lowest : Nat) :
    (postedAll count lowest).filterMap entered? = [] :=
  filterMap_postedAll (fun _ => rfl) count lowest

@[simp]
theorem left?_postedAll (count lowest : Nat) : (postedAll count lowest).filterMap left? = [] :=
  filterMap_postedAll (fun _ => rfl) count lowest

@[simp]
theorem entered?_leftAll (told : Option Failure) (results : List (Except Failure Unit)) :
    (leftAll told results).filterMap entered? = [] :=
  filterMap_leftAll (fun _ _ _ => rfl) told results

/-- The last hooks are called in the reverse order of the interceptors, and each of them once. -/
@[simp]
theorem left?_leftAll (told : Option Failure) (results : List (Except Failure Unit)) :
    (leftAll told results).filterMap left? = (List.range results.length).reverse := by
  induction results using List.reverseRecOn with
  | nil => rfl
  | append_singleton results result ih =>
      simp [leftAll_append_singleton, left?, ih, List.range_succ]

@[simp]
theorem after_notMem_enteredAll (count position : Nat) (told : Option Failure)
    (result : Except Failure Unit) : after position told result ∉ enteredAll count := by
  simp [enteredAll]

@[simp]
theorem after_notMem_postedAll (count lowest position : Nat) (told : Option Failure)
    (result : Except Failure Unit) : after position told result ∉ postedAll count lowest := by
  simp [postedAll]

theorem told_of_mem_leftAll {told other : Option Failure} {results : List (Except Failure Unit)}
    {position : Nat} {result : Except Failure Unit}
    (called : after position told result ∈ leftAll other results) : told = other := by
  simp only [leftAll, List.mem_reverse, List.mem_mapIdx] at called
  obtain ⟨index, inside, call_eq⟩ := called
  cases call_eq
  rfl

@[simp]
theorem failure?_enteredAll (count : Nat) : (enteredAll count).findSome? failure? = none := by
  rw [← List.head?_filterMap, filterMap_enteredAll fun _ => rfl, List.head?_nil]

@[simp]
theorem failure?_postedAll (count lowest : Nat) :
    (postedAll count lowest).findSome? failure? = none := by
  rw [← List.head?_filterMap, filterMap_postedAll fun _ => rfl, List.head?_nil]

@[simp]
theorem failure?_leftAll (told : Option Failure) (results : List (Except Failure Unit)) :
    (leftAll told results).findSome? failure? = none := by
  rw [← List.head?_filterMap, filterMap_leftAll fun _ _ _ => rfl, List.head?_nil]

end HookCall

/-- The state of an application with the calls of hooks so far. -/
structure Logged (σ : Type) where
  /-- The state. -/
  app : σ
  /-- The calls in order. -/
  calls : List HookCall

variable {σ : Type}

namespace Visit

/-- The calls so far. -/
def calls (visit : Visit (Logged σ)) : List HookCall := visit.world.app.calls

/-- The visit with another log. -/
def withCalls (visit : Visit (Logged σ)) (calls : List HookCall) : Visit (Logged σ) :=
  { visit with world := { visit.world with app := { visit.world.app with calls } } }

@[simp]
theorem calls_withCalls (visit : Visit (Logged σ)) (calls : List HookCall) :
    (visit.withCalls calls).calls = calls := rfl

end Visit

namespace Exchange

/-- The exchange with another log. -/
def withCalls (x : Exchange (Logged σ)) (calls : List HookCall) : Exchange (Logged σ) :=
  { x with toVisit := x.toVisit.withCalls calls }

@[simp]
theorem calls_withCalls (x : Exchange (Logged σ)) (calls : List HookCall) :
    (x.withCalls calls).calls = calls := rfl

/-- What a call leaves: whatever it does, the log is that before the call with one entry more. -/
def afterCall (x before : Exchange (Logged σ)) (call : HookCall) : Exchange (Logged σ) :=
  x.withCalls (before.calls ++ [call])

@[simp]
theorem calls_afterCall (x before : Exchange (Logged σ)) (call : HookCall) :
    (x.afterCall before call).calls = before.calls ++ [call] := rfl

end Exchange

namespace Interceptor

/-- The interceptor at a position with its calls logged. -/
def recorded (position : Nat) (interceptor : Interceptor (Logged σ)) :
    Interceptor (Logged σ) where
  name := interceptor.name
  preHandle handler x :=
    match interceptor.preHandle handler x with
    | (result, y) => (result, y.afterCall x (.pre position result))
  postHandle handler view x :=
    match interceptor.postHandle handler view x with
    | (result, changed, y) => (result, changed, y.afterCall x (.post position result))
  afterCompletion handler told x :=
    match interceptor.afterCompletion handler told x with
    | (result, y) => (result, y.afterCall x (.after position told result))

/-- Every call of a hook adds its entry to the log and nothing else. -/
structure Records (position : Nat) (interceptor : Interceptor (Logged σ)) : Prop where
  preHandle : ∀ handler x, (interceptor.preHandle handler x).2.calls =
    x.calls ++ [.pre position (interceptor.preHandle handler x).1]
  postHandle : ∀ handler view x, (interceptor.postHandle handler view x).2.2.calls =
    x.calls ++ [.post position (interceptor.postHandle handler view x).1]
  afterCompletion : ∀ handler told x, (interceptor.afterCompletion handler told x).2.calls =
    x.calls ++ [.after position told (interceptor.afterCompletion handler told x).1]

theorem recorded_records (position : Nat) (interceptor : Interceptor (Logged σ)) :
    (interceptor.recorded position).Records position :=
  ⟨fun _ _ => rfl, fun _ _ _ => rfl, fun _ _ _ => rfl⟩

/-- All interceptors of a list log their calls under their positions. -/
def AllRecord (interceptors : List (Interceptor (Logged σ))) : Prop :=
  ∀ (position : Nat) (interceptor : Interceptor (Logged σ)),
    interceptors[position]? = some interceptor → interceptor.Records position

theorem allRecord_recorded (interceptors : List (Interceptor (Logged σ))) :
    AllRecord (interceptors.mapIdx recorded) := by
  intro position interceptor found
  rw [List.getElem?_mapIdx] at found
  obtain ⟨plain, _, rfl⟩ := Option.map_eq_some_iff.mp found
  exact recorded_records position plain

theorem AllRecord.take {interceptors : List (Interceptor (Logged σ))}
    (records : AllRecord interceptors) (count : Nat) : AllRecord (interceptors.take count) := by
  intro position interceptor found
  rw [List.getElem?_take] at found
  split at found
  · exact records position interceptor found
  · contradiction

theorem allRecord_append_singleton {front : List (Interceptor (Logged σ))}
    {last : Interceptor (Logged σ)} :
    AllRecord (front ++ [last]) ↔ AllRecord front ∧ last.Records front.length := by
  constructor
  · intro records
    refine ⟨?_, records front.length last (by simp)⟩
    simpa using records.take front.length
  · rintro ⟨front_records, last_records⟩ position interceptor found
    rw [List.getElem?_append] at found
    split at found
    · exact front_records position interceptor found
    · next outside =>
        obtain ⟨inside, found_eq⟩ := List.getElem?_eq_some_iff.mp found
        have position_eq : position = front.length := by
          simp at inside
          omega
        subst position_eq
        simpa [← found_eq] using last_records

/-! ## The first hooks -/

theorem enterAll_append_singleton (handler : Handler σ) (front : List (Interceptor σ))
    (last : Interceptor σ) (x : Exchange σ) :
    enterAll handler (front ++ [last]) x =
      match enterAll handler front x with
      | ((.ok true, entered), y) =>
          (((last.preHandle handler y).1, entered + 1), (last.preHandle handler y).2)
      | stopped => stopped := by
  induction front generalizing x with
  | nil =>
      simp only [List.nil_append, enterAll]
      split <;> simp_all
  | cons first rest ih =>
      simp only [List.cons_append, enterAll, ih]
      rcases first.preHandle handler x with ⟨_ | ⟨_ | _⟩, y⟩ <;> simp only
      rcases enterAll handler rest y with ⟨⟨_ | ⟨_ | _⟩, entered⟩, z⟩ <;> rfl

/-- How the first hooks of `count` interceptors run: all of them go on, or the one at some position
is the last that is called. -/
inductive Entering (count : Nat) : Except Failure Bool → Nat → List HookCall → Prop where
  | passed : Entering count (.ok true) count (HookCall.enteredAll count)
  | stopped {position : Nat} {result : Except Failure Bool} (inside : position < count)
      (stops : result ≠ .ok true) :
      Entering count result (position + 1)
        (HookCall.enteredAll position ++ [.pre position result])

namespace Entering

variable {count entered : Nat} {result : Except Failure Bool} {calls : List HookCall}

theorem entered?_eq_range (entering : Entering count result entered calls) :
    calls.filterMap HookCall.entered? = List.range entered := by
  cases entering <;> simp [HookCall.entered?, List.range_succ]

theorem left?_eq_nil (entering : Entering count result entered calls) :
    calls.filterMap HookCall.left? = [] := by
  cases entering <;> simp [HookCall.left?, List.filterMap_cons]

end Entering

theorem calls_enterAll (handler : Handler (Logged σ)) {interceptors : List (Interceptor (Logged σ))}
    (records : AllRecord interceptors) (x : Exchange (Logged σ)) :
    ∃ calls, (enterAll handler interceptors x).2.calls = x.calls ++ calls ∧
      Entering interceptors.length (enterAll handler interceptors x).1.1
        (enterAll handler interceptors x).1.2 calls := by
  induction interceptors using List.reverseRecOn with
  | nil => exact ⟨[], by simp [enterAll], .passed⟩
  | append_singleton front last ih =>
      obtain ⟨front_records, last_records⟩ := allRecord_append_singleton.mp records
      obtain ⟨calls, calls_eq, entering⟩ := ih front_records
      rcases front_eq : enterAll handler front x with ⟨⟨result, entered⟩, y⟩
      rw [front_eq] at calls_eq entering
      cases entering with
      | passed =>
          rw [enterAll_append_singleton, front_eq]
          refine ⟨HookCall.enteredAll front.length ++
            [.pre front.length (last.preHandle handler y).1], ?_, ?_⟩
          · simp [last_records.preHandle, calls_eq]
          · by_cases goes_on : (last.preHandle handler y).1 = .ok true
            · rw [goes_on, ← HookCall.enteredAll_succ, List.length_append]
              exact .passed
            · exact .stopped (by simp) goes_on
      | @stopped position result inside stops =>
          have kept : enterAll handler (front ++ [last]) x = ((result, position + 1), y) := by
            rw [enterAll_append_singleton, front_eq]
            rcases result with failure | _ | _
            · rfl
            · rfl
            · contradiction
          rw [kept]
          refine ⟨_, calls_eq, .stopped ?_ stops⟩
          rw [List.length_append]
          exact Nat.lt_add_right 1 inside

/-! ## The hooks that see the view -/

/-- How the hooks of `count` interceptors that see the view run: none of them fails, or the one at
some position is the last that is called. -/
inductive Posting (count : Nat) : Except Failure Unit → List HookCall → Prop where
  | passed : Posting count (.ok ()) (HookCall.postedAll count 0)
  | failed {position : Nat} {failure : Failure} (inside : position < count) :
      Posting count (.error failure)
        (HookCall.postedAll count (position + 1) ++ [.post position (.error failure)])

namespace Posting

variable {count : Nat} {result : Except Failure Unit} {calls : List HookCall}

theorem entered?_eq_nil (posting : Posting count result calls) :
    calls.filterMap HookCall.entered? = [] := by
  cases posting <;> simp [HookCall.entered?, List.filterMap_cons]

theorem left?_eq_nil (posting : Posting count result calls) :
    calls.filterMap HookCall.left? = [] := by
  cases posting <;> simp [HookCall.left?, List.filterMap_cons]

end Posting

theorem calls_postAll (handler : Handler (Logged σ)) {interceptors : List (Interceptor (Logged σ))}
    (records : AllRecord interceptors) (view : Option ModelAndView) (x : Exchange (Logged σ)) :
    ∃ calls, (postAll handler interceptors.reverse view x).2.2.calls = x.calls ++ calls ∧
      Posting interceptors.length (postAll handler interceptors.reverse view x).1 calls := by
  induction interceptors using List.reverseRecOn generalizing view x with
  | nil => exact ⟨[], by simp [postAll], .passed⟩
  | append_singleton front last ih =>
      obtain ⟨front_records, last_records⟩ := allRecord_append_singleton.mp records
      have last_calls := last_records.postHandle handler view x
      rw [List.reverse_concat, List.length_append, postAll]
      rcases last_eq : last.postHandle handler view x with ⟨failure | ⟨⟩, changed, y⟩ <;>
        rw [last_eq] at last_calls
      · have failed : Posting (front.length + 1) (.error failure) _ :=
          .failed (Nat.lt_succ_self front.length)
        exact ⟨[.post front.length (.error failure)], last_calls, by simpa using failed⟩
      · obtain ⟨calls, calls_eq, posting⟩ := ih front_records (keptView view changed) y
        refine ⟨.post front.length (.ok ()) :: calls, ?_, ?_⟩
        · rw [calls_eq, last_calls, List.append_assoc, List.singleton_append]
        · generalize (postAll handler front.reverse (keptView view changed) y).1 = result at posting
          cases posting with
          | passed =>
              rw [← HookCall.postedAll_succ (Nat.zero_le _)]
              exact .passed
          | failed inside =>
              rw [← List.cons_append, ← HookCall.postedAll_succ (Nat.succ_le_of_lt inside)]
              exact .failed (Nat.lt_add_right 1 inside)

/-! ## The last hooks -/

theorem calls_completeAll (handler : Handler (Logged σ))
    {interceptors : List (Interceptor (Logged σ))} (records : AllRecord interceptors)
    (told : Option Failure) (x : Exchange (Logged σ)) :
    ∃ results, results.length = interceptors.length ∧
      (completeAll handler told interceptors.reverse x).2.calls =
        x.calls ++ HookCall.leftAll told results ∧
      (completeAll handler told interceptors.reverse x).1 = HookCall.verdict results := by
  induction interceptors using List.reverseRecOn generalizing x with
  | nil => exact ⟨[], rfl, by simp [completeAll, HookCall.leftAll], rfl⟩
  | append_singleton front last ih =>
      obtain ⟨front_records, last_records⟩ := allRecord_append_singleton.mp records
      have last_calls := last_records.afterCompletion handler told x
      rw [List.reverse_concat, List.length_append, completeAll]
      rcases last_eq : last.afterCompletion handler told x with ⟨result, y⟩
      rw [last_eq] at last_calls
      obtain ⟨results, length_eq, calls_eq, verdict_eq⟩ := ih front_records y
      refine ⟨results ++ [result], by simp [length_eq], ?_, ?_⟩
      · rw [HookCall.leftAll_append_singleton, length_eq]
        cases result <;> simp [calls_eq, last_calls]
      · rw [HookCall.verdict_append_singleton]
        cases result <;> simp [verdict_eq]

end Interceptor

/-- The chain with the calls of its hooks logged. -/
def HandlerChain.recorded (chain : HandlerChain (Logged σ)) : HandlerChain (Logged σ) :=
  { chain with interceptors := chain.interceptors.mapIdx Interceptor.recorded }

end WebDispatch
