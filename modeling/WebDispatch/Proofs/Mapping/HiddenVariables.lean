import WebDispatch.Proofs.Mapping.MatrixLookup

/-!
# Matrix variables that a path variable hides

What a route publishes holds the matrix variables of each segment under the text of the segment and,
first of all, those of the value of each path variable under its name.  So a segment keeps its own
variables unless a path variable is named like it and has a value that carries some itself:
`RouteMapping.get?_matrix_of_segment`.
-/

namespace WebDispatch

theorem PathPattern.nodup_keys_of_captures {pattern : PathPattern} {path : String}
    {captured : Dict String} (matched : pattern.captures path = some captured) :
    captured.keys.Nodup := by
  obtain ⟨thread, -, rfl⟩ := Option.map_eq_some_iff.mp matched
  exact Dict.nodup_keys_ofList _

namespace Matrix

theorem isSome_variables?_iff {parameters : List (List Char)} :
    (variables? parameters).isSome = true ↔ parameters ≠ [] := by
  rw [Option.isSome_iff_ne_none, ne_eq, variables?_eq_none_iff]

theorem parametersOf_ne_nil {segment : List Char × List (List Char)}
    {segments : List (List Char × List (List Char))} (listed : segment ∈ segments)
    (carries : segment.2 ≠ []) : parametersOf segment.1 segments ≠ [] := by
  intro nothing
  apply carries
  apply List.flatMap_eq_nil_iff.mp nothing segment
  exact List.mem_filter.mpr ⟨listed, by simp⟩

section Published

variable {captured : Dict String} (distinct : captured.keys.Nodup) (path : String)
  (name : List Char)
include distinct

/-- Under the text of a segment stand the variables of the segments with that text if no path
variable of that name has a value that carries any. -/
theorem get?_byPathVariable_of_bare
    (bare : ∀ value, captured.get? (String.ofList name) = some value →
      parametersOf value.toList (segments path) = []) :
    (byPathVariable captured (ofPath path)).get? (String.ofList name) =
      variables? (parametersOf name (segments path)) := by
  rw [get?_byPathVariable distinct, get?_ofPath]
  cases value_eq : captured.get? (String.ofList name) with
  | none => simp
  | some value =>
      have nothing : (ofPath path).get? value = none := by
        rw [← String.ofList_toList (s := value), get?_ofPath, bare value value_eq]
        rfl
      simp [nothing]

/-- A path variable with a value that carries variables hides those of the segments that it is
named like. -/
theorem get?_byPathVariable_of_carries {value : String}
    (value_eq : captured.get? (String.ofList name) = some value)
    (carries : parametersOf value.toList (segments path) ≠ []) :
    (byPathVariable captured (ofPath path)).get? (String.ofList name) =
      variables? (parametersOf value.toList (segments path)) := by
  have found : (ofPath path).get? value =
      variables? (parametersOf value.toList (segments path)) := by
    rw [← get?_ofPath, String.ofList_toList]
  obtain ⟨taken, taken_eq⟩ := Option.isSome_iff_exists.mp (isSome_variables?_iff.mpr carries)
  rw [get?_byPathVariable distinct, value_eq, Option.bind_some, found, taken_eq]
  rfl

end Published
end Matrix

namespace RouteMapping

open WebDispatch.Matrix

variable {σ : Type}

/-- A route publishes an entry for every segment that carries matrix variables.  The entry holds the
variables of all segments with that text, unless a path variable is named like the segment and its
value is the text of segments that carry variables: then it holds those. -/
theorem get?_matrix_of_segment {mapping : RouteMapping σ} {visit : Visit σ} {route : Route σ}
    {captured : Dict String}
    (matched : mapping.match? visit.request.method (lookupPath visit.request.path) =
      some (route, captured)) :
    ∃ matrix, (mapping.find visit).2.request.attribute? .matrixVariables = some (.matrix matrix) ∧
      ∀ segment ∈ segments visit.request.path, segment.2 ≠ [] →
        (matrix.get? (String.ofList segment.1)).isSome = true ∧
        ((∀ value, captured.get? (String.ofList segment.1) = some value →
            parametersOf value.toList (segments visit.request.path) = []) →
          matrix.get? (String.ofList segment.1) =
            variables? (parametersOf segment.1 (segments visit.request.path))) ∧
        ∀ value, captured.get? (String.ofList segment.1) = some value →
          parametersOf value.toList (segments visit.request.path) ≠ [] →
          matrix.get? (String.ofList segment.1) =
            variables? (parametersOf value.toList (segments visit.request.path)) := by
  have distinct := PathPattern.nodup_keys_of_captures (captures_of_match? matched).2
  refine ⟨byPathVariable captured (ofPath visit.request.path), ?_, ?_⟩
  · rw [find_of_match?_eq_some matched]
    exact attribute?_publish _ _ _ _ _ _
  · intro segment listed carries
    have own := parametersOf_ne_nil listed carries
    have unhidden := get?_byPathVariable_of_bare distinct visit.request.path segment.1
    have hidden := fun value => @get?_byPathVariable_of_carries captured distinct
      visit.request.path segment.1 value
    refine ⟨?_, unhidden, hidden⟩
    by_cases bare : ∀ value, captured.get? (String.ofList segment.1) = some value →
        parametersOf value.toList (segments visit.request.path) = []
    · rw [unhidden bare]
      exact isSome_variables?_iff.mpr own
    · obtain ⟨value, not_bare⟩ := not_forall.mp bare
      obtain ⟨value_eq, value_carries⟩ := Classical.not_imp.mp not_bare
      rw [hidden value value_eq value_carries]
      exact isSome_variables?_iff.mpr value_carries

/-- A car and its colour are published side by side. -/
theorem get?_matrix_cars :
    ∃ matrix, (cars.find (carVisit "/cars;color=red/7;size=2")).2.request.attribute?
        .matrixVariables = some (.matrix matrix) ∧
      matrix.get? "cars" = variables? ["color=red".toList] := by
  have segments_eq : segments (carVisit "/cars;color=red/7;size=2").request.path =
      [([], []), ("cars".toList, ["color=red".toList]), (['7'], ["size=2".toList])] := by
    decide +kernel
  have held : (cars.match? (carVisit "/cars;color=red/7;size=2").request.method
      (lookupPath (carVisit "/cars;color=red/7;size=2").request.path)).map (·.2.entries) =
        some [("id", "7")] := by
    decide +kernel
  obtain ⟨⟨route, captured⟩, matched, captured_eq⟩ := Option.map_eq_some_iff.mp held
  have unnamed : captured.get? "cars" = none := by
    have entries_eq : captured.entries = [("id", "7")] := captured_eq
    rw [Dict.get?, entries_eq]
    decide
  obtain ⟨matrix, published, at_segments⟩ := get?_matrix_of_segment matched
  rw [segments_eq] at at_segments
  obtain ⟨-, own, -⟩ := at_segments ("cars".toList, ["color=red".toList]) (by simp) (by simp)
  exact ⟨matrix, published, own fun value value_eq => by simp [unnamed] at value_eq⟩

/-- A mapping with a route for one car, with a path variable that is named like all cars. -/
def namedCars : Except Failure (RouteMapping Unit) := do
  let route ← Route.get 1 "/cars/(?P<cars>7)" fun visit => (.ok .ok, visit.world)
  return addRoute {} route

/-- A path variable can hide the variables of a segment: what is published about all cars is the
size of one. -/
theorem not_forall_get?_matrix_segment :
    ¬ ∀ (mapping : RouteMapping Unit) (visit : Visit Unit) (route : Route Unit)
        (captured : Dict String),
      mapping.match? visit.request.method (lookupPath visit.request.path) =
        some (route, captured) →
      ∃ matrix, (mapping.find visit).2.request.attribute? .matrixVariables =
          some (.matrix matrix) ∧
        ∀ segment ∈ segments visit.request.path, segment.2 ≠ [] →
          matrix.get? (String.ofList segment.1) =
            variables? (parametersOf segment.1 (segments visit.request.path)) := by
  intro kept
  have built : namedCars.toOption.isSome = true := by decide +kernel
  obtain ⟨mapping, mapping_eq⟩ := Option.isSome_iff_exists.mp built
  have held : (namedCars.toOption.bind fun mapping =>
      (mapping.match? (carVisit "/cars;color=red/7;size=2").request.method
        (lookupPath (carVisit "/cars;color=red/7;size=2").request.path)).map (·.2.entries)) =
        some [("cars", "7")] := by
    decide +kernel
  rw [mapping_eq, Option.bind_some] at held
  obtain ⟨⟨route, captured⟩, matched, captured_eq⟩ := Option.map_eq_some_iff.mp held
  obtain ⟨matrix, published, at_segments⟩ := kept _ _ _ _ matched
  have coloured := at_segments ("cars".toList, ["color=red".toList]) (by decide +kernel) (by simp)
  obtain rfl : captured = ⟨[("cars", "7")]⟩ := congrArg Dict.mk captured_eq
  rw [find_of_match?_eq_some matched, attribute?_publish] at published
  obtain rfl : byPathVariable ⟨[("cars", "7")]⟩ (ofPath "/cars;color=red/7;size=2") = matrix := by
    cases published
    rfl
  have keys_eq := congrArg (Option.map Dict.keys) coloured
  exact absurd keys_eq (by decide +kernel)

end RouteMapping
end WebDispatch
