import Mathlib.Data.List.Induction
import Mathlib.Order.WithBot
import WebDispatch.Mapping.Basic
import WebDispatch.Proofs.StableOrder

/-!
# The order in which mappings are asked

However mappings are registered, they are asked in the stable order of their priorities:
`MappingRegistry.registered_registerAll`.  A resolution asks them one after the other, each with
what the one before it left, until one finds something or fails, and has that result.  Which
mappings are asked is observed by the mappings themselves: each one that is asked notes the place of
its registration.
-/

namespace WebDispatch

variable {σ : Type}

/-! ## Registration -/

/-- The rank of a mapping is its priority.  Without one it is behind all that have one. -/
def RegisteredMapping.rank (registered : RegisteredMapping σ) : WithTop Int :=
  match registered.priority with
  | some priority => priority
  | none => ⊤

/-- A registration of a mapping. -/
inductive Registration (σ : Type) where
  /-- With the priority that the mapping asks for, whether it is shared with others or not. -/
  | asItAsks (mapping : Mapping σ)
  /-- With a priority that takes the place of the one that the mapping asks for. -/
  | withPriority (mapping : Mapping σ) (priority : Int)

/-- What is registered. -/
def Registration.entry : Registration σ → RegisteredMapping σ
  | asItAsks mapping => ⟨mapping.order, mapping⟩
  | withPriority mapping priority => ⟨some priority, mapping⟩

namespace MappingRegistry

/-- Register a mapping in one of the ways. -/
def add (registry : MappingRegistry σ) : Registration σ → MappingRegistry σ
  | .asItAsks mapping => registry.register mapping
  | .withPriority mapping priority => registry.registerWithPriority mapping priority

/-- The registry after some registrations. -/
def registerAll (registrations : List (Registration σ)) : MappingRegistry σ :=
  registrations.foldl add {}

theorem registered_add (registry : MappingRegistry σ) (registration : Registration σ) :
    (registry.add registration).registered =
      insertRanked (fun a b => isLaterPriority a.priority b.priority) registration.entry
        registry.registered := by
  cases registration <;> rfl

/-- The order in which mappings are asked is the stable order of the priorities that they were
registered with. -/
theorem registered_registerAll (registrations : List (Registration σ)) :
    (registerAll registrations).registered =
      sortByRank RegisteredMapping.rank (registrations.map Registration.entry) := by
  induction registrations using List.reverseRecOn with
  | nil => simp [registerAll, sortByRank]
  | append_singleton front last ih =>
      have last_added : registerAll (front ++ [last]) = (registerAll front).add last := by
        simp [registerAll]
      have later_iff (a b : RegisteredMapping σ) :
          isLaterPriority a.priority b.priority = true ↔ b.rank < a.rank := by
        unfold RegisteredMapping.rank isLaterPriority
        rcases a.priority with _ | p <;> rcases b.priority with _ | q <;> simp
      rw [last_added, registered_add, ih, insertRanked_sortByRank later_iff, List.map_append]
      rfl

end MappingRegistry

/-! ## Resolution -/

namespace MappingRegistry

/-- Mappings that find nothing when they are asked one after the other, from one visit to another. -/
inductive PassedOver : List (Mapping σ) → Visit σ → Visit σ → Prop where
  | nil (visit : Visit σ) : PassedOver [] visit visit
  | cons {mapping : Mapping σ} {rest : List (Mapping σ)} {visit next after : Visit σ}
      (nothing : mapping.find visit = (.ok none, next)) (others : PassedOver rest next after) :
      PassedOver (mapping :: rest) visit after

/-- How many mappings of a list are asked in a visit, and what comes of it. -/
inductive Consulted (mappings : List (Mapping σ)) (visit : Visit σ) :
    Nat → Except Failure (Option (HandlerChain σ)) × Visit σ → Prop where
  /-- All of them are asked and find nothing. -/
  | nothing {after : Visit σ} (passed : PassedOver mappings visit after) :
      Consulted mappings visit mappings.length (.ok none, after)
  /-- One of them is the first that finds something or fails, and its result is what comes of it. -/
  | answered {front later : List (Mapping σ)} {mapping : Mapping σ} {before : Visit σ}
      (order : mappings = front ++ mapping :: later) (passed : PassedOver front visit before)
      (answers : (mapping.find before).1 ≠ .ok none) :
      Consulted mappings visit (front.length + 1) (mapping.find before)

/-- A mapping that is asked first and finds nothing. -/
theorem Consulted.cons {mapping : Mapping σ} {rest : List (Mapping σ)} {visit next : Visit σ}
    {count : Nat} {found : Except Failure (Option (HandlerChain σ)) × Visit σ}
    (nothing : mapping.find visit = (.ok none, next)) (consulted : Consulted rest next count found) :
    Consulted (mapping :: rest) visit (count + 1) found := by
  cases consulted with
  | nothing passed => exact .nothing (.cons nothing passed)
  | @answered front later other before order passed answers =>
      have order_cons : mapping :: rest = (mapping :: front) ++ other :: later :=
        congrArg (mapping :: ·) order
      exact .answered order_cons (.cons nothing passed) answers

theorem consulted_firstFound (mappings : List (Mapping σ)) (visit : Visit σ) :
    ∃ count, Consulted mappings visit count (firstFound mappings visit) := by
  induction mappings generalizing visit with
  | nil => exact ⟨0, .nothing (.nil visit)⟩
  | cons mapping rest ih =>
      by_cases answers : (mapping.find visit).1 = .ok none
      · obtain ⟨count, consulted⟩ := ih (mapping.find visit).2
        have nothing : mapping.find visit = (.ok none, (mapping.find visit).2) :=
          Prod.ext answers rfl
        refine ⟨count + 1, ?_⟩
        rw [firstFound, nothing]
        exact consulted.cons nothing
      · have found_eq : firstFound (mapping :: rest) visit = mapping.find visit := by
          unfold firstFound
          split
          · next nothing => exact absurd (congrArg Prod.fst nothing) answers
          · rfl
        have order : mapping :: rest = [] ++ mapping :: rest := rfl
        rw [found_eq]
        exact ⟨1, .answered order (.nil visit) answers⟩

end MappingRegistry

/-! ## What is asked -/

/-- The state of an application with the mappings that were asked, by the place of their
registration. -/
structure Asked (σ : Type) where
  /-- The state. -/
  app : σ
  /-- The places of the mappings in the order in which they were asked. -/
  asked : List Nat

namespace Visit

/-- The mappings that were asked so far. -/
def asked (visit : Visit (Asked σ)) : List Nat := visit.world.app.asked

/-- The visit with other mappings noted. -/
def withAsked (visit : Visit (Asked σ)) (asked : List Nat) : Visit (Asked σ) :=
  { visit with world := { visit.world with app := { visit.world.app with asked } } }

@[simp]
theorem asked_withAsked (visit : Visit (Asked σ)) (asked : List Nat) :
    (visit.withAsked asked).asked = asked := rfl

end Visit

/-- The mapping at a place, noting each time that it is asked. -/
def Mapping.noting (place : Nat) (mapping : Mapping (Asked σ)) : Mapping (Asked σ) :=
  { mapping with
    find := fun visit =>
      match mapping.find visit with
      | (found, after) => (found, after.withAsked (visit.asked ++ [place])) }

namespace Registration

/-- The registration at a place, of the mapping that notes each time that it is asked. -/
def noting (place : Nat) : Registration (Asked σ) → Registration (Asked σ)
  | asItAsks mapping => asItAsks (mapping.noting place)
  | withPriority mapping priority => withPriority (mapping.noting place) priority

/-- What is registered at a place. -/
def numbered (registered : Registration (Asked σ) × Nat) : RegisteredMapping (Asked σ) :=
  (registered.1.noting registered.2).entry

theorem rank_numbered (registered : Registration (Asked σ) × Nat) :
    (numbered registered).rank = registered.1.entry.rank := by
  obtain ⟨registration, place⟩ := registered
  cases registration <;> rfl

theorem asked_numbered (registered : Registration (Asked σ) × Nat) (visit : Visit (Asked σ)) :
    ((numbered registered).mapping.find visit).2.asked = visit.asked ++ [registered.2] := by
  obtain ⟨registration, place⟩ := registered
  cases registration <;> rfl

/-- Registrations in the stable order of their priorities, with their places. -/
def evaluationOrder (registrations : List (Registration σ)) : List (Registration σ × Nat) :=
  sortByRank (fun registered => registered.1.entry.rank) registrations.zipIdx

end Registration

namespace MappingRegistry

open Registration (numbered evaluationOrder)

theorem PassedOver.asked_eq {order : List (Registration (Asked σ) × Nat)}
    {visit after : Visit (Asked σ)}
    (passed : PassedOver (order.map fun registered => (numbered registered).mapping) visit after) :
    after.asked = visit.asked ++ order.map Prod.snd := by
  induction order generalizing visit with
  | nil =>
      cases passed
      simp
  | cons first rest ih =>
      cases passed with
      | @cons _ _ _ next _ nothing others =>
          have next_asked : next.asked = visit.asked ++ [first.2] := by
            rw [← Registration.asked_numbered first visit, nothing]
          rw [ih others, next_asked, List.append_assoc, List.map_cons, List.singleton_append]

/-- The mappings that are asked are the first ones, each of them once. -/
theorem Consulted.asked_eq {order : List (Registration (Asked σ) × Nat)}
    {visit : Visit (Asked σ)} {count : Nat}
    {found : Except Failure (Option (HandlerChain (Asked σ))) × Visit (Asked σ)}
    (consulted : Consulted (order.map fun registered => (numbered registered).mapping) visit count
      found) :
    found.2.asked = visit.asked ++ (order.take count).map Prod.snd := by
  cases consulted with
  | nothing passed =>
      rw [passed.asked_eq, List.length_map, List.take_length]
  | answered order_eq passed answers =>
      obtain ⟨front, back, rfl, rfl, back_eq⟩ := List.map_eq_append_iff.mp order_eq
      obtain ⟨registered, later, rfl, rfl, -⟩ := List.map_eq_cons_iff.mp back_eq
      have taken : (front ++ registered :: later).take (front.length + 1) =
          front ++ [registered] := by
        rw [List.take_length_add_append, List.take_succ_cons, List.take_zero]
      rw [Registration.asked_numbered, passed.asked_eq, List.length_map, taken, List.map_append,
        List.append_assoc]
      rfl

theorem registered_registerAll_noting (registrations : List (Registration (Asked σ))) :
    (registerAll (registrations.mapIdx Registration.noting)).registered =
      (evaluationOrder registrations).map numbered := by
  have numbered_eq : (registrations.mapIdx Registration.noting).map Registration.entry =
      registrations.zipIdx.map numbered := by
    rw [List.mapIdx_eq_zipIdx_map, List.map_map]
    rfl
  rw [registered_registerAll, numbered_eq]
  refine (List.map_mergeSort ?_).symm
  intro a _ b _
  rw [Registration.rank_numbered, Registration.rank_numbered]

/-- A registry asks its mappings in the stable order of the priorities that they were registered
with.  A resolution asks the first of them in that order, each of them once, up to the one that
finds something or fails, and has the result of that one. -/
theorem resolve_registerAll (registrations : List (Registration (Asked σ)))
    (visit : Visit (Asked σ)) :
    let registry := registerAll (registrations.mapIdx Registration.noting)
    (registerAll registrations).registered =
        sortByRank RegisteredMapping.rank (registrations.map Registration.entry) ∧
      registry.registered = (evaluationOrder registrations).map numbered ∧
      ∃ count, Consulted registry.mappings visit count (registry.resolve visit) ∧
        (registry.resolve visit).2.asked =
          visit.asked ++ ((evaluationOrder registrations).take count).map Prod.snd := by
  intro registry
  have registered_eq := registered_registerAll_noting registrations
  have mappings_eq : registry.mappings =
      (evaluationOrder registrations).map fun registered => (numbered registered).mapping := by
    rw [mappings, registered_eq, List.map_map]
    rfl
  obtain ⟨count, consulted⟩ := consulted_firstFound registry.mappings visit
  refine ⟨registered_registerAll registrations, registered_eq, count, consulted, ?_⟩
  rw [mappings_eq] at consulted
  rw [resolve, mappings_eq]
  exact consulted.asked_eq

end MappingRegistry
end WebDispatch
