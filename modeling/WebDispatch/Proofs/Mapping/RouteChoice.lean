import Mathlib.Data.List.Induction
import WebDispatch.Proofs.Mapping.Publishing
import WebDispatch.Proofs.StableOrder

/-!
# Which route is found

However routes and interceptors are added to a mapping, the routes are tried in the stable order of
how specific they are, the most specific ones first.  So the route that is found for a request is
the most specific one that answers it, and of equally specific ones the first that was added:
`RouteMapping.find_ofAdditions`.
-/

namespace WebDispatch

variable {σ : Type}

/-! ### Interceptors for a path -/

namespace MappedInterceptor

/-- No pattern excludes a path, and one includes it if there are any that include paths. -/
def Applies (mapped : MappedInterceptor σ) (path : String) : Prop :=
  (∀ pattern ∈ mapped.excludes, pattern.isMatch path = false) ∧
    (mapped.includes = [] ∨ ∃ pattern ∈ mapped.includes, pattern.isMatch path = true)

instance (mapped : MappedInterceptor σ) (path : String) : Decidable (mapped.Applies path) :=
  inferInstanceAs (Decidable (_ ∧ _))

theorem covers_iff {mapped : MappedInterceptor σ} {path : String} :
    mapped.covers path = true ↔ mapped.Applies path := by
  simp [covers, Applies]

end MappedInterceptor

/-! ### Additions to a mapping -/

namespace RouteMapping

/-- What is added to a mapping of routes. -/
inductive Addition (σ : Type) where
  /-- A route. -/
  | route (route : Route σ)
  /-- An interceptor around all routes. -/
  | interceptor (interceptor : Interceptor σ)
  /-- An interceptor around the routes of some paths. -/
  | mapped (mapped : MappedInterceptor σ)

namespace Addition

/-- The route, if one is added. -/
def route? : Addition σ → Option (Route σ)
  | route added => some added
  | _ => none

/-- The interceptor around all routes, if one is added. -/
def interceptor? : Addition σ → Option (Interceptor σ)
  | interceptor added => some added
  | _ => none

/-- The interceptor around the routes of some paths, if one is added. -/
def mapped? : Addition σ → Option (MappedInterceptor σ)
  | mapped added => some added
  | _ => none

end Addition

/-- Add something to a mapping. -/
def add (mapping : RouteMapping σ) : Addition σ → RouteMapping σ
  | .route route => mapping.addRoute route
  | .interceptor interceptor => mapping.addInterceptor interceptor
  | .mapped mapped => mapping.addMapped mapped

/-- The mapping after some additions. -/
def ofAdditions (order : Option Int) (additions : List (Addition σ)) : RouteMapping σ :=
  additions.foldl add { order }

/-- The rank of a route: the more specific it is, the lower. -/
def rank (route : Route σ) : OrderDual Nat := OrderDual.toDual route.pattern.specificity

theorem rank_le_rank {route other : Route σ} :
    rank route ≤ rank other ↔ other.pattern.specificity ≤ route.pattern.specificity :=
  OrderDual.toDual_le_toDual

theorem rank_lt_rank {route other : Route σ} :
    rank route < rank other ↔ other.pattern.specificity < route.pattern.specificity :=
  OrderDual.toDual_lt_toDual

variable {order : Option Int}

theorem ofAdditions_append_singleton (additions : List (Addition σ)) (last : Addition σ) :
    ofAdditions order (additions ++ [last]) = (ofAdditions order additions).add last := by
  rw [ofAdditions, List.foldl_append]
  rfl

/-- Routes are tried in the stable order of their ranks. -/
theorem routes_ofAdditions (additions : List (Addition σ)) :
    (ofAdditions order additions).routes =
      sortByRank rank (additions.filterMap Addition.route?) := by
  induction additions using List.reverseRecOn with
  | nil => simp [ofAdditions, sortByRank]
  | append_singleton front last ih =>
      rw [ofAdditions_append_singleton, List.filterMap_append]
      cases last with
      | route route =>
          have later_iff (a b : Route σ) :
              decide (a.pattern.specificity < b.pattern.specificity) = true ↔ rank b < rank a := by
            rw [decide_eq_true_eq, rank_lt_rank]
          have inserted := insertRanked_sortByRank later_iff route
            (front.filterMap Addition.route?)
          rw [← ih] at inserted
          exact inserted
      | interceptor interceptor =>
          simpa [add, addInterceptor, Addition.route?, List.filterMap_cons] using ih
      | mapped mapped => simpa [add, addMapped, Addition.route?, List.filterMap_cons] using ih

theorem interceptors_ofAdditions (additions : List (Addition σ)) :
    (ofAdditions order additions).interceptors = additions.filterMap Addition.interceptor? := by
  induction additions using List.reverseRecOn with
  | nil => rfl
  | append_singleton front last ih =>
      rw [ofAdditions_append_singleton, List.filterMap_append, ← ih]
      cases last <;> simp [add, addRoute, addInterceptor, addMapped, Addition.interceptor?]

theorem mapped_ofAdditions (additions : List (Addition σ)) :
    (ofAdditions order additions).mapped = additions.filterMap Addition.mapped? := by
  induction additions using List.reverseRecOn with
  | nil => rfl
  | append_singleton front last ih =>
      rw [ofAdditions_append_singleton, List.filterMap_append, ← ih]
      cases last <;> simp [add, addRoute, addInterceptor, addMapped, Addition.mapped?]

/-- The interceptors for a path, in the order in which they were added. -/
theorem interceptorsFor_ofAdditions (additions : List (Addition σ)) (path : String) :
    (ofAdditions order additions).interceptorsFor path =
      additions.filterMap Addition.interceptor? ++
        ((additions.filterMap Addition.mapped?).filter fun mapped => mapped.Applies path).map
          MappedInterceptor.interceptor := by
  have same_test (mapped : MappedInterceptor σ) :
      mapped.covers path = decide (mapped.Applies path) := by
    rw [Bool.eq_iff_iff, MappedInterceptor.covers_iff, decide_eq_true_eq]
  simp only [interceptorsFor, interceptors_ofAdditions, mapped_ofAdditions, same_test]

/-! ### The first route that answers -/

/-- A route is for a method, and its pattern matches a path. -/
def Answers (method : Method) (path : String) (route : Route σ) : Prop :=
  route.method = method ∧ route.pattern.isMatch path = true

instance (method : Method) (path : String) : DecidablePred (@Answers σ method path) :=
  fun _ => inferInstanceAs (Decidable (_ ∧ _))

theorem captures?_eq_none_iff {method : Method} {path : String} {route : Route σ} :
    captures? method path route = none ↔ ¬ Answers method path route := by
  have same : (route.pattern.captures path).isSome = route.pattern.isMatch path :=
    Option.isSome_map
  by_cases for_method : route.method = method
  · simp [captures?, Answers, for_method, ← same]
  · simp [captures?, Answers, for_method]

/-- What is found is the first route that answers, with what it captures. -/
theorem match?_eq_find? (mapping : RouteMapping σ) (method : Method) (path : String) :
    (mapping.match? method path).map Prod.fst =
      mapping.routes.find? fun route => Answers method path route := by
  unfold match?
  induction mapping.routes with
  | nil => rfl
  | cons route rest ih =>
      rw [List.findSome?_cons]
      cases captured : captures? method path route with
      | none =>
          have passed := captures?_eq_none_iff.1 captured
          rw [List.find?_cons_of_neg (by simpa using passed)]
          exact ih
      | some found =>
          have answers : Answers method path route := by
            by_contra passed
            rw [captures?_eq_none_iff.2 passed] at captured
            cases captured
          rw [List.find?_cons_of_pos (by simpa using answers)]
          unfold captures? at captured
          rw [if_pos answers.1] at captured
          obtain ⟨vars, -, rfl⟩ := Option.map_eq_some_iff.1 captured
          rfl

/-- A mapping finds a route for a request if and only if one that was added answers it, and leaves
the request alone otherwise.  The route that it finds is the most specific one that answers, by the
number of slashes in its pattern, and the first of those that was added.  Around it are the
interceptors around all routes, and then those that apply to the path, in the order in which they
were added. -/
theorem find_ofAdditions (order : Option Int) (additions : List (Addition σ)) (visit : Visit σ) :
    let mapping := ofAdditions order additions
    let path := Matrix.lookupPath visit.request.path
    let added := additions.filterMap Addition.route?
    let slashes (route : Route σ) := route.pattern.source.toList.count '/'
    let answers := @Answers σ visit.request.method path
    ((∃ chain, (mapping.find visit).1 = .ok (some chain)) ↔ ∃ route ∈ added, answers route) ∧
      ((∀ route ∈ added, ¬ answers route) → mapping.find visit = (.ok none, visit)) ∧
      ∀ chain, (mapping.find visit).1 = .ok (some chain) →
        ∃ front route back, added = front ++ route :: back ∧ answers route ∧
          (∀ other ∈ added, answers other → slashes other ≤ slashes route) ∧
          (∀ other ∈ front, answers other → slashes other < slashes route) ∧
          chain.handler = Handler.ofRoute route ∧
          chain.interceptors = additions.filterMap Addition.interceptor? ++
            ((additions.filterMap Addition.mapped?).filter fun mapped => mapped.Applies path).map
              MappedInterceptor.interceptor := by
  intro mapping path added slashes answers
  have found_eq := match?_eq_find? mapping visit.request.method path
  rw [routes_ofAdditions] at found_eq
  cases matched : mapping.match? visit.request.method path with
  | none =>
      have find_eq := find_of_match?_eq_none matched
      rw [matched, Option.map_none, eq_comm, List.find?_eq_none] at found_eq
      have unanswered : ∀ route ∈ added, ¬ answers route := by
        intro route listed
        simpa using found_eq route (mem_sortByRank.2 listed)
      refine ⟨?_, fun _ => find_eq, ?_⟩
      · simpa [find_eq] using unanswered
      · simp [find_eq]
  | some found =>
      obtain ⟨route, captured⟩ := found
      have find_eq := find_of_match?_eq_some matched
      rw [matched, Option.map_some, eq_comm] at found_eq
      have route_answers : answers route := by simpa using List.find?_some found_eq
      have listed : route ∈ added := mem_sortByRank.1 (List.mem_of_find?_eq_some found_eq)
      obtain ⟨highest, front, back, added_eq, first⟩ := find?_sortByRank found_eq
      simp only [decide_eq_true_eq, rank_le_rank, rank_lt_rank] at highest first
      refine ⟨?_, ?_, ?_⟩
      · simpa [find_eq] using ⟨route, listed, route_answers⟩
      · exact fun unanswered => (unanswered route listed route_answers).elim
      · intro chain chain_eq
        rw [find_eq] at chain_eq
        obtain rfl := Option.some.inj (Except.ok.inj chain_eq)
        exact ⟨front, route, back, added_eq, route_answers, highest, first, rfl,
          interceptorsFor_ofAdditions additions path⟩

end RouteMapping
end WebDispatch
