import WebDispatch.Proofs.Mapping.MatrixLookup
import WebDispatch.Proofs.Pattern.PathVariables
import WebDispatch.Proofs.Pattern.Room

/-!
# The matrix variables of path variables

A route whose pattern consists of segments publishes matrix variables under the names of its path
variables.  They are those of all segments of the path that have the text that the path variable
took, one after the other: so they are those of its own segment only if no other segment with the
same text has any.
-/

namespace WebDispatch
namespace RouteMapping

open Pattern WebDispatch.Matrix

variable {σ : Type}

/-- What the variable of a segment takes. -/
theorem get?_captured {segments : List Segment} {pieces : List (List Char)} {captured : Dict String}
    (distinct : captured.keys.Nodup)
    (entries_eq : captured.entries = (takenBy segments pieces).map fun (name, piece) =>
      (name, String.ofList piece))
    {index : Nat} {name piece : List Char} (named : segments[index]? = some (.named name))
    (at_index : pieces[index]? = some piece) :
    captured.get? (String.ofList name) = some (String.ofList piece) := by
  rw [← Dict.mem_entries_iff distinct, entries_eq]
  have paired : (Segment.named name, piece) ∈ segments.zip pieces :=
    List.mem_of_getElem? (List.getElem?_zip_eq_some.mpr ⟨named, at_index⟩)
  have taken : (String.ofList name, piece) ∈ takenBy segments pieces :=
    List.mem_filterMap.mpr ⟨_, paired, rfl⟩
  exact List.mem_map.mpr ⟨_, taken, rfl⟩

/-- For a path that is matched segment by segment, the matrix variables that are published under the
name of a path variable are those of the segments of the path that have its text.  They are those of
its own segment if no other one with that text has any. -/
theorem get?_matrix_of_segments {mapping : RouteMapping σ} {visit : Visit σ} {route : Route σ}
    {captured : Dict String} {p : String} {segments : List Segment}
    (wellFormed : ∀ segment ∈ segments, segment.WellFormed)
    (written : PathPattern.stripAnchors p.toList = Segment.writeAll segments)
    (compiled : PathPattern.compile p = .ok route.pattern)
    (matched : mapping.match? visit.request.method (lookupPath visit.request.path) =
      some (route, captured))
    (apart : ∀ segment ∈ Matrix.segments visit.request.path, Segment.named segment.1 ∉ segments) :
    (Matrix.segments visit.request.path).length = segments.length ∧
    ∃ matrix, (mapping.find visit).2.request.attribute? .matrixVariables = some (.matrix matrix) ∧
      ∀ (index : Nat) (name text : List Char) (parameters : List (List Char)),
        segments[index]? = some (.named name) →
        (Matrix.segments visit.request.path)[index]? = some (text, parameters) →
          captured.get? (String.ofList name) = some (String.ofList text) ∧
          matrix.get? (String.ofList name) =
            variables? (parametersOf text (Matrix.segments visit.request.path)) ∧
          ((∀ other, other ≠ index → ∀ more,
              (Matrix.segments visit.request.path)[other]? = some (text, more) → more = []) →
            matrix.get? (String.ofList name) = variables? parameters) := by
  obtain ⟨pieces, fit, split_eq, distinct, entries_eq⟩ :=
    PathPattern.captures_of_segments wellFormed written compiled (captures_of_match? matched).2
  rw [splitOn_lookupPath] at split_eq
  have length_eq := fit.length_eq
  rw [← split_eq, List.length_map] at length_eq
  refine ⟨length_eq.symm, byPathVariable captured (ofPath visit.request.path), ?_, ?_⟩
  · rw [find_of_match?_eq_some matched]
    exact attribute?_publish _ _ _ _ _ _
  · intro index name text parameters named at_index
    have piece_eq : pieces[index]? = some text := by
      rw [← split_eq, List.getElem?_map, at_index]
      rfl
    have value_eq := get?_captured distinct entries_eq named piece_eq
    have unnamed : (ofPath visit.request.path).get? (String.ofList name) = none := by
      have bare : parametersOf name (Matrix.segments visit.request.path) = [] := by
        refine parametersOf_eq_nil fun other listed => ?_
        exact absurd (List.mem_of_getElem? named) (apart _ listed)
      rw [get?_ofPath, bare]
      rfl
    have published : (byPathVariable captured (ofPath visit.request.path)).get?
        (String.ofList name) =
          variables? (parametersOf text (Matrix.segments visit.request.path)) := by
      rw [get?_byPathVariable distinct, value_eq, Option.bind_some, get?_ofPath, unnamed]
      simp
    refine ⟨value_eq, published, fun alone => ?_⟩
    rw [published, parametersOf_eq at_index alone]

/-! ### A route for a car -/

/-- A pattern with a variable for the number of a car. -/
def carNumber : PathPattern where
  source := "^/cars/(?P<id>[^/]+)$"
  expression := .sequence [.look .textStart, .literal "/cars/".toList,
    .group 1 (some "id") Element.upToSlash, .look .textEnd]

/-- Its segments. -/
def carSegments : List Segment :=
  [.literal [], .literal ("cars".toList.map (·, false)), .named "id".toList]

theorem fits_carNumber : carNumber.expression.fits = true :=
  Expression.fits_of_wholeRoom_le (by decide +kernel)

theorem stripAnchors_carSegments :
    PathPattern.stripAnchors "/cars/(?P<id>[^/]+)".toList = Segment.writeAll carSegments := by
  decide

theorem compile_carNumber : PathPattern.compile "/cars/(?P<id>[^/]+)" = .ok carNumber := by
  have stripped : PathPattern.stripAnchors "/cars/(?P<id>[^/]+)".toList =
      "/cars/(?P<id>[^/]+)".toList := by
    decide
  refine (PathPattern.compile_eq_ok (by rw [stripped]; decide) carNumber).mpr ?_
  rw [stripped]
  refine ⟨by decide, carNumber.expression, parse_eq_ok.mpr ?_, rfl⟩
  rw [String.toList_ofList]
  exact ⟨_, ⟨_, rfl, rfl, rfl⟩, by decide, fits_carNumber, rfl⟩

/-- A mapping with a route for any car. -/
def anyCar : RouteMapping Unit where
  routes := [{
    number := 1
    method := .get
    pattern := carNumber
    respond := fun visit => (.ok .ok, visit.world) }]

theorem match?_anyCar {path : String}
    (found : (anyCar.match? .get (lookupPath path)).isSome = true) :
    ∃ route captured, anyCar.match? (carVisit path).request.method
        (lookupPath (carVisit path).request.path) = some (route, captured) ∧
      route.pattern = carNumber := by
  obtain ⟨⟨route, captured⟩, matched⟩ := Option.isSome_iff_exists.mp found
  obtain rfl := List.mem_singleton.mp (captures_of_match? matched).1
  exact ⟨_, captured, matched, rfl⟩

/-- A car has the matrix variables behind its number, and not those of all cars. -/
theorem get?_matrix_anyCar :
    ∃ matrix, (anyCar.find (carVisit "/cars;color=red/7;size=2,3")).2.request.attribute?
        .matrixVariables = some (.matrix matrix) ∧
      matrix.get? "id" = variables? ["size=2,3".toList] := by
  have found : (anyCar.match? .get (lookupPath "/cars;color=red/7;size=2,3")).isSome = true := by
    decide +kernel
  have segments_eq : Matrix.segments (carVisit "/cars;color=red/7;size=2,3").request.path =
      [([], []), ("cars".toList, ["color=red".toList]), (['7'], ["size=2,3".toList])] := by
    decide +kernel
  obtain ⟨route, captured, matched, pattern_eq⟩ := match?_anyCar found
  obtain ⟨-, matrix, published, at_variables⟩ :=
    get?_matrix_of_segments (by decide) stripAnchors_carSegments (pattern_eq ▸ compile_carNumber)
      matched (by rw [segments_eq]; decide)
  obtain ⟨-, -, own⟩ := at_variables 2 "id".toList ['7'] ["size=2,3".toList] rfl
    (congrArg (·[2]?) segments_eq)
  refine ⟨matrix, published, own fun other differs more listed => ?_⟩
  rw [segments_eq] at listed
  rcases other with _ | _ | _ | other
  · simp at listed
  · simp at listed
  · exact absurd rfl differs
  · simp at listed

/-- A path variable can have the matrix variables of a segment that it does not hold: those of all
cars, if the car is named so. -/
theorem not_forall_get?_matrix_own :
    ¬ ∀ (mapping : RouteMapping Unit) (visit : Visit Unit) (route : Route Unit)
        (captured : Dict String) (p : String) (segments : List Segment),
      (∀ segment ∈ segments, segment.WellFormed) →
      PathPattern.stripAnchors p.toList = Segment.writeAll segments →
      PathPattern.compile p = .ok route.pattern →
      mapping.match? visit.request.method (lookupPath visit.request.path) =
        some (route, captured) →
      (∀ segment ∈ Matrix.segments visit.request.path, Segment.named segment.1 ∉ segments) →
      ∃ matrix, (mapping.find visit).2.request.attribute? .matrixVariables =
          some (.matrix matrix) ∧
        ∀ (index : Nat) (name text : List Char) (parameters : List (List Char)),
          segments[index]? = some (.named name) →
          (Matrix.segments visit.request.path)[index]? = some (text, parameters) →
            matrix.get? (String.ofList name) = variables? parameters := by
  intro own
  have found : (anyCar.match? .get (lookupPath "/cars;color=red/cars")).isSome = true := by
    decide +kernel
  have segments_eq : Matrix.segments (carVisit "/cars;color=red/cars").request.path =
      [([], []), ("cars".toList, ["color=red".toList]), ("cars".toList, [])] := by
    decide +kernel
  obtain ⟨route, captured, matched, pattern_eq⟩ := match?_anyCar found
  obtain ⟨matrix, published, at_variables⟩ := own _ _ _ _ _ _ (by decide)
    stripAnchors_carSegments (pattern_eq ▸ compile_carNumber) matched (by rw [segments_eq]; decide)
  have bare : matrix.get? "id" = none :=
    at_variables 2 "id".toList "cars".toList [] rfl (congrArg (·[2]?) segments_eq)
  have captured_eq : captured = ⟨[("id", "cars")]⟩ := by
    have held : (carNumber.captures (lookupPath "/cars;color=red/cars")).map (·.entries) =
        some [("id", "cars")] := by
      decide +kernel
    have captures_eq : carNumber.captures (lookupPath "/cars;color=red/cars") = some captured :=
      pattern_eq ▸ (captures_of_match? matched).2
    rw [captures_eq] at held
    exact congrArg Dict.mk (Option.some.inj held)
  rw [find_of_match?_eq_some matched, attribute?_publish, captured_eq] at published
  obtain rfl : byPathVariable ⟨[("id", "cars")]⟩ (ofPath "/cars;color=red/cars") = matrix := by
    cases published
    rfl
  have coloured : ((byPathVariable ⟨[("id", "cars")]⟩
      (ofPath "/cars;color=red/cars")).get? "id").isSome = true := by
    decide +kernel
  rw [bare] at coloured
  cases coloured

end RouteMapping
end WebDispatch
