import Mathlib.Data.List.Basic
import WebDispatch.Proofs.Mapping.Publishing
import WebDispatch.Proofs.Text.Separators

/-!
# Routing and matrix variables

Whatever matrix variables are written behind the segments of a path, the mapping of routes finds
what it finds for the path without them: the same route, between the same interceptors, and with
the same attributes except for the matrix variables themselves.
-/

namespace WebDispatch

namespace Matrix

/-- Matrix variables as they are written behind a segment, well-formed or not. -/
structure Parameters where
  /-- The text, with its first semicolon. -/
  text : List Char
  /-- A semicolon ends the segment. -/
  starts : text.head? = some ';'
  /-- The text is in one segment. -/
  within_segment : '/' ∉ text

/-- Write matrix variables behind some segments of a path. -/
def decorate (path : String) (added : Nat → Option Parameters) : String :=
  String.ofList (['/'].intercalate ((path.toList.splitOn '/').mapIdx fun index segment =>
    segment ++ ((added index).map Parameters.text).getD []))

/-- The name of a segment is what stands before its matrix variables. -/
theorem fst_segment (text : List Char) : (segment text).1 = Text.before ';' text := by
  unfold segment
  by_cases inside : ';' ∈ text
  · obtain ⟨name, parameters, rfl, outside⟩ := List.eq_append_cons_of_mem inside
    rw [Text.before_append _ outside, List.splitOn_append_cons_self_of_not_mem outside]
  · rw [Text.before_of_notMem inside, List.splitOn_eq_singleton inside]

theorem segment_append {name : List Char} (plain : ';' ∉ name) (added : Option Parameters) :
    (segment (name ++ (added.map Parameters.text).getD [])).1 = name := by
  rw [fst_segment]
  cases added with
  | none => simpa using Text.before_of_notMem plain
  | some parameters =>
      obtain ⟨rest, text_eq⟩ : ∃ rest, parameters.text = ';' :: rest :=
        List.head?_eq_some_iff.mp parameters.starts
      simpa [text_eq] using Text.before_append rest plain

/-- Matrix variables do not change the path that routes are looked up by. -/
theorem lookupPath_decorate {path : String} (plain : ';' ∉ path.toList)
    (added : Nat → Option Parameters) : lookupPath (decorate path added) = path := by
  have pieces (segment : List Char) (listed : segment ∈ path.toList.splitOn '/') :
      '/' ∉ segment ∧ ';' ∉ segment :=
    ⟨(Text.of_mem_splitOn listed).1, fun inside => plain ((Text.of_mem_splitOn listed).2 _ inside)⟩
  have split_eq : (decorate path added).toList.splitOn '/' =
      (path.toList.splitOn '/').mapIdx fun index segment =>
        segment ++ ((added index).map Parameters.text).getD [] := by
    rw [decorate, String.toList_ofList]
    refine List.splitOn_intercalate _ ?_ (by simp)
    intro segment listed
    obtain ⟨index, inside, rfl⟩ := List.mem_mapIdx.mp listed
    have outside := (pieces _ (List.getElem_mem inside)).1
    cases added index with
    | none => simpa using outside
    | some parameters => simpa using ⟨outside, parameters.within_segment⟩
  have names_eq : (segments (decorate path added)).map Prod.fst = path.toList.splitOn '/' := by
    rw [segments, split_eq]
    refine List.ext_getElem (by simp) ?_
    intro index _ inside
    simpa using segment_append (pieces _ (List.getElem_mem inside)).2 (added index)
  rw [lookupPath, names_eq, List.intercalate_splitOn, String.ofList_toList]

theorem decorate_none (path : String) : decorate path (fun _ => none) = path := by
  have same_segments : (path.toList.splitOn '/').mapIdx (fun _ segment => segment) =
      path.toList.splitOn '/' :=
    List.ext_getElem (by simp) (by simp)
  simp [decorate, same_segments, List.intercalate_splitOn]

/-- A path without semicolons is looked up as it is. -/
theorem lookupPath_of_plain {path : String} (plain : ';' ∉ path.toList) :
    lookupPath path = path := by
  simpa [decorate_none] using lookupPath_decorate plain fun _ => none

end Matrix

namespace RouteMapping

variable {σ : Type}

/-- The mapping of routes finds the same for a path with and without matrix variables. -/
theorem find_decorate (mapping : RouteMapping σ) {path : String} (plain : ';' ∉ path.toList)
    (added : Nat → Option Matrix.Parameters) (bare decorated : Visit σ)
    (bare_path : bare.request.path = path)
    (decorated_path : decorated.request.path = Matrix.decorate path added)
    (same_method : decorated.request.method = bare.request.method) :
    (mapping.match? bare.request.method path = none ∧
        mapping.find bare = (.ok none, bare) ∧
        mapping.find decorated = (.ok none, decorated)) ∨
      ∃ route captured, mapping.match? bare.request.method path = some (route, captured) ∧
        (mapping.find bare).1 = .ok (some
          { handler := Handler.ofRoute route, interceptors := mapping.interceptorsFor path }) ∧
        (mapping.find decorated).1 = (mapping.find bare).1 ∧
        ∀ item, item ≠ .matrixVariables → item ≠ .introspectTypeLevelMapping →
          (mapping.find bare).2.request.attribute? item =
              published? route path captured (Matrix.ofPath path) item ∧
            (mapping.find decorated).2.request.attribute? item =
              (mapping.find bare).2.request.attribute? item := by
  have bare_lookup : Matrix.lookupPath bare.request.path = path := by
    rw [bare_path, Matrix.lookupPath_of_plain plain]
  have decorated_lookup : Matrix.lookupPath decorated.request.path = path := by
    rw [decorated_path, Matrix.lookupPath_decorate plain]
  rcases match_eq : mapping.match? bare.request.method path with _ | ⟨route, captured⟩
  · refine .inl ⟨rfl, find_of_match?_eq_none ?_, find_of_match?_eq_none ?_⟩
    · rwa [bare_lookup]
    · rwa [decorated_lookup, same_method]
  · have bare_find := find_of_match?_eq_some (bare_lookup.symm ▸ match_eq)
    have decorated_find : mapping.find decorated = _ :=
      find_of_match?_eq_some (by rwa [decorated_lookup, same_method])
    rw [bare_lookup, bare_path] at bare_find
    rw [decorated_lookup] at decorated_find
    refine .inr ⟨route, captured, rfl, by rw [bare_find], by rw [bare_find, decorated_find], ?_⟩
    intro item not_matrix not_introspect
    simp only [bare_find, decorated_find, attribute?_publish, if_neg not_introspect, true_and]
    cases item <;> first | contradiction | rfl

/-- A mapping with a route for one car. -/
def cars : RouteMapping Unit where
  routes := [{
    number := 1
    method := .get
    pattern := {
      source := "^/cars/(?P<id>7)$"
      expression := .sequence [.look .textStart, .literal ['/', 'c', 'a', 'r', 's', '/'],
        .group 1 (some "id") (.literal ['7']), .look .textEnd] }
    respond := fun visit => (.ok .ok, visit.world) }]

/-- A visit to it. -/
def carVisit (path : String) : Visit Unit where
  request := { method := .get, path }
  world := { app := () }

/-- Matrix variables behind both segments of a path. -/
def colours : Nat → Option Matrix.Parameters
  | 1 => some ⟨";color=red".toList, by decide, by decide⟩
  | 2 => some ⟨[';'], by decide, by decide⟩
  | _ => none

/-- The route of a car is found by a path with a colour. -/
theorem find_cars : ∃ chain,
    (cars.find (carVisit "/cars/7")).1 = .ok (some chain) ∧
      (cars.find (carVisit "/cars;color=red/7;")).1 = .ok (some chain) := by
  have matched : (cars.match? .get "/cars/7").isSome = true := by decide +kernel
  have plain : ';' ∉ "/cars/7".toList := by decide
  rcases cars.find_decorate plain colours (carVisit "/cars/7") (carVisit "/cars;color=red/7;") rfl
    (by decide +kernel) rfl with
    ⟨unmatched, -⟩ | ⟨route, captured, -, bare_eq, decorated_eq, -⟩
  · change cars.match? .get "/cars/7" = none at unmatched
    simp [unmatched] at matched
  · exact ⟨_, bare_eq, decorated_eq.trans bare_eq⟩

end RouteMapping
end WebDispatch
