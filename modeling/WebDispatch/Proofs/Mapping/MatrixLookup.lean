import Mathlib.Data.List.Induction
import WebDispatch.Proofs.Mapping.MatrixRouting

/-!
# What is found among the matrix variables of a path

The parameters of all segments with one name are collected under that name, in the order of the
path: `Matrix.get?_ofPath`.  A path variable stands for what is collected under its value, unless
there is nothing, and then for what is collected under its own name: `Matrix.get?_byPathVariable`.
-/

namespace WebDispatch
namespace Matrix

/-- The matrix variables so far, and those of one more parameter. -/
def addTo (known : Option (Dict (List String))) (text : List Char) :
    Option (Dict (List String)) :=
  let (key, values) := parameter text
  let known := known.getD Dict.empty
  some (known.insert key ((known.get? key).getD [] ++ values))

/-- The matrix variables that parameters are written for.  Without parameters there are none. -/
def variables? (parameters : List (List Char)) : Option (Dict (List String)) :=
  parameters.foldl addTo none

/-- The parameters of the segments with a name. -/
def parametersOf (name : List Char) (segments : List (List Char × List (List Char))) :
    List (List Char) :=
  (segments.filter (·.1 = name)).flatMap Prod.snd

theorem variables?_append_singleton (front : List (List Char)) (last : List Char) :
    variables? (front ++ [last]) = addTo (variables? front) last := by
  simp [variables?, List.foldl_append]

theorem variables?_eq_none_iff {parameters : List (List Char)} :
    variables? parameters = none ↔ parameters = [] := by
  induction parameters using List.reverseRecOn with
  | nil => simp [variables?]
  | append_singleton front last _ => simp [variables?_append_singleton, addTo]

/-- Under each key that is written are the values of all parameters with that key, in their
order. -/
theorem get?_variables (parameters : List (List Char)) (key : String) :
    (variables? parameters).bind (·.get? key) =
      if ∃ text ∈ parameters, (parameter text).1 = key then
        some ((parameters.filter fun text => (parameter text).1 = key).flatMap fun text =>
          (parameter text).2)
      else none := by
  induction parameters using List.reverseRecOn with
  | nil => simp [variables?]
  | append_singleton front last ih =>
      have known_eq : ((variables? front).getD Dict.empty).get? key =
          (variables? front).bind (·.get? key) := by
        cases variables? front <;> rfl
      rw [variables?_append_singleton, addTo]
      dsimp only
      rw [Option.bind_some, Dict.get?_insert]
      by_cases same : (parameter last).1 = key
      · subst same
        rw [known_eq, ih]
        by_cases written : ∃ text ∈ front, (parameter text).1 = (parameter last).1
        · simp [written]
        · have nothing : front.filter (fun text => (parameter text).1 = (parameter last).1) = [] :=
            List.filter_eq_nil_iff.mpr (by simpa using written)
          simp [written, nothing]
      · rw [if_neg (Ne.symm same), known_eq, ih]
        simp [same, or_and_right, exists_or]

theorem parametersOf_eq_nil {name : List Char} {segments : List (List Char × List (List Char))}
    (bare : ∀ parameters, (name, parameters) ∈ segments → parameters = []) :
    parametersOf name segments = [] := by
  refine List.flatMap_eq_nil_iff.mpr fun segment listed => ?_
  obtain ⟨inside, same⟩ := List.mem_filter.mp listed
  obtain rfl : segment.1 = name := by simpa using same
  exact bare segment.2 inside

/-- The parameters are those of one segment if no other one with its name has any. -/
theorem parametersOf_eq {name : List Char} {segments : List (List Char × List (List Char))}
    {index : Nat} {parameters : List (List Char)}
    (at_index : segments[index]? = some (name, parameters))
    (alone : ∀ other, other ≠ index → ∀ more, segments[other]? = some (name, more) → more = []) :
    parametersOf name segments = parameters := by
  induction segments generalizing index with
  | nil => exact nomatch at_index
  | cons first rest ih =>
      obtain ⟨text, own⟩ := first
      cases index with
      | zero =>
          obtain ⟨rfl, rfl⟩ := Prod.mk.inj (Option.some.inj at_index)
          have rest_bare : parametersOf text rest = [] := by
            refine parametersOf_eq_nil fun more listed => ?_
            obtain ⟨other, found⟩ := List.mem_iff_getElem?.mp listed
            exact alone (other + 1) (Nat.succ_ne_zero other) more found
          rw [parametersOf, List.filter_cons_of_pos (by simp), List.flatMap_cons, ← parametersOf,
            rest_bare, List.append_nil]
      | succ index =>
          have rest_eq := ih at_index fun other differs more found =>
            alone (other + 1) (fun same => differs (Nat.succ.inj same)) more found
          by_cases same : text = name
          · subst same
            obtain rfl := alone 0 (Nat.succ_ne_zero index).symm own rfl
            rw [parametersOf, List.filter_cons_of_pos (by simp), List.flatMap_cons, ← parametersOf,
              rest_eq, List.nil_append]
          · rw [parametersOf, List.filter_cons_of_neg (by simpa using same), ← parametersOf,
              rest_eq]

theorem get?_add (matrix : MatrixVariables) (name other : String) (text : List Char) :
    (add matrix name text).get? other =
      if other = name then addTo (matrix.get? name) text else matrix.get? other :=
  Dict.get?_insert matrix name other _

theorem get?_foldl_add (parameters : List (List Char)) (matrix : MatrixVariables)
    (name other : String) :
    (parameters.foldl (fun found parameter => add found name parameter) matrix).get? other =
      if other = name then parameters.foldl addTo (matrix.get? name) else matrix.get? other := by
  induction parameters generalizing matrix with
  | nil =>
      by_cases same : other = name
      · simp [same]
      · simp [same]
  | cons parameter rest ih =>
      rw [List.foldl_cons, ih, List.foldl_cons]
      by_cases same : other = name
      · simp [same, get?_add]
      · simp [same, get?_add]

/-- Under the name of a segment, the parameters of all segments with that name are collected. -/
theorem get?_ofPath (path : String) (name : List Char) :
    (ofPath path).get? (String.ofList name) = variables? (parametersOf name (segments path)) := by
  unfold ofPath
  induction segments path using List.reverseRecOn with
  | nil => rfl
  | append_singleton front last ih =>
      obtain ⟨text, parameters⟩ := last
      rw [List.foldl_append, List.foldl_cons, List.foldl_nil, get?_foldl_add]
      by_cases same : name = text
      · subst same
        rw [if_pos rfl, ih, variables?, ← List.foldl_append]
        simp [parametersOf, variables?]
      · have other : String.ofList name ≠ String.ofList text := by
          simpa [String.ofList_inj] using same
        rw [if_neg other, ih]
        simp [parametersOf, Ne.symm same]

/-- A path variable stands for what is collected under its value, or else under its own name. -/
theorem get?_byPathVariable {captured : Dict String} (distinct : captured.keys.Nodup)
    (matrix : MatrixVariables) (name : String) :
    (byPathVariable captured matrix).get? name =
      ((captured.get? name).bind matrix.get? <|> matrix.get? name) := by
  have nothing : (captured.get? name).bind matrix.get? =
      ((captured.get? name).bind matrix.get? <|> (Dict.empty : MatrixVariables).get? name) := by
    cases (captured.get? name).bind matrix.get? <;> rfl
  unfold byPathVariable
  rw [Dict.get?_foldl_insertNew, nothing]
  congr 1
  obtain ⟨entries⟩ := captured
  have captured_eq : (Dict.mk entries).get? name = entries.lookup name := rfl
  rw [captured_eq]
  clear nothing captured_eq
  generalize (Dict.empty : MatrixVariables) = found
  induction entries generalizing found with
  | nil => simp
  | cons entry rest ih =>
      obtain ⟨first, value⟩ := entry
      obtain ⟨outside, distinct⟩ := List.nodup_cons.mp distinct
      rw [List.foldl_cons, ih distinct]
      by_cases same : name = first
      · subst same
        have later : rest.lookup name = none :=
          List.lookup_eq_none_iff.mpr fun other listed => by
            have key_ne : name ≠ other.1 := fun key_eq =>
              outside (List.mem_map.mpr ⟨other, listed, key_eq.symm⟩)
            simpa using key_ne
        rw [later, List.lookup_cons_self, Option.bind_some]
        cases value_eq : matrix.get? value <;> simp [value_eq]
      · have passed : (name == first) = false := by simpa using same
        rw [List.lookup_cons, passed]
        cases value_eq : matrix.get? value <;> simp [value_eq, same]

/-- The name of a segment is written in it. -/
theorem segment_subset (text : List Char) : (segment text).1 ⊆ text := by
  rw [fst_segment]
  exact Text.before_subset ';' text

/-- The names of the segments are what the path is cut into without its matrix variables. -/
theorem splitOn_lookupPath (path : String) :
    (lookupPath path).toList.splitOn '/' = (segments path).map Prod.fst := by
  rw [lookupPath, String.toList_ofList]
  refine List.splitOn_intercalate _ (fun name listed => ?_) ?_
  · obtain ⟨_, inside, rfl⟩ := List.mem_map.mp listed
    obtain ⟨text, text_inside, rfl⟩ := List.mem_map.mp inside
    exact fun slash => (Text.of_mem_splitOn text_inside).1 (segment_subset text slash)
  · simp [segments, List.splitOn_ne_nil]

end Matrix
end WebDispatch
