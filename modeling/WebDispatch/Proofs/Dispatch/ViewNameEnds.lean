import WebDispatch.Proofs.Dispatch.ViewNames

/-!
# The ends of default view names

Slashes around a path are dropped first, then the parameters of its segments and last the extension.
So no parameters are left in the name of a view, but its first segment may have been made of
parameters only, and its last one of parameters or an extension only.  Then the slash next to that
segment is at an end of the name: `defaultViewName_ends`.
-/

namespace WebDispatch

/-! ## Extensions -/

theorem withoutExtension_of_notMem {s : List Char} (outside : '/' ∉ s) :
    withoutExtension s = Text.beforeLast '.' s := by
  rw [withoutExtension, List.splitOn_eq_singleton outside]
  exact List.intercalate_singleton

/-- The extension is that of the last segment. -/
theorem withoutExtension_append (front back : List Char) :
    withoutExtension (front ++ '/' :: back) = front ++ '/' :: withoutExtension back := by
  obtain ⟨segments, last, back_eq⟩ : ∃ segments last, back.splitOn '/' = segments ++ [last] :=
    ⟨_, _, (List.dropLast_concat_getLast (List.splitOn_ne_nil '/' back)).symm⟩
  rw [withoutExtension, withoutExtension, List.splitOn_append_cons_self, back_eq,
    ← List.append_assoc, List.dropLast_concat, List.getLastD_concat, List.dropLast_concat,
    List.getLastD_concat, List.append_assoc,
    Text.intercalate_append (List.splitOn_ne_nil '/' front) (by simp), List.intercalate_splitOn]

theorem prefix_withoutExtension (s : List Char) : withoutExtension s <+: s := by
  by_cases inside : '/' ∈ s
  · obtain ⟨front, last, rfl, outside⟩ := Text.exists_eq_append_last inside
    rw [withoutExtension_append, withoutExtension_of_notMem outside, List.prefix_append_right_inj,
      List.prefix_cons_inj]
    exact Text.prefix_beforeLast '.' last
  · rw [withoutExtension_of_notMem inside]
    exact Text.prefix_beforeLast '.' s

/-! ## Slashes at an end -/

theorem head?_append_slash_iff {front : List Char} (outside : '/' ∉ front) (back : List Char) :
    (front ++ '/' :: back).head? = some '/' ↔ front = [] := by
  cases front with
  | nil => simp
  | cons c front =>
      have not_slash : c ≠ '/' := by
        rintro rfl
        exact outside List.mem_cons_self
      simpa using not_slash

theorem getLast?_append_slash_iff {back : List Char} (outside : '/' ∉ back) (front : List Char) :
    (front ++ '/' :: back).getLast? = some '/' ↔ back = [] := by
  have reverse_outside : '/' ∉ back.reverse := by simpa using outside
  have reverse_iff := head?_append_slash_iff reverse_outside front.reverse
  rw [← List.head?_reverse, ← List.reverse_eq_nil_iff, ← reverse_iff]
  simp

/-- Whether nothing is left of a segment without its parameters and its extension. -/
def IsNameless (segment : List Char) : Prop :=
  Text.before ';' segment = [] ∨
    ∃ extension, Text.before ';' segment = '.' :: extension ∧ '.' ∉ extension

theorem isNameless_iff (segment : List Char) :
    IsNameless segment ↔ Text.beforeLast '.' (Text.before ';' segment) = [] :=
  Text.beforeLast_eq_nil_iff.symm

/-- The name that is made of a path without slashes at its ends. -/
def nameOf (core : List Char) : List Char := withoutExtension (Matrix.withoutParameters core)

section Name

variable {segment : List Char} (outside : '/' ∉ segment) (others : List Char)
include outside

theorem nameOf_segment : nameOf segment = Text.beforeLast '.' (Text.before ';' segment) := by
  have outside_name : '/' ∉ Text.before ';' segment :=
    fun inside => outside (Text.before_subset ';' segment inside)
  rw [nameOf, Matrix.withoutParameters_of_notMem outside, withoutExtension_of_notMem outside_name]

theorem notMem_nameOf_segment : '/' ∉ nameOf segment := by
  intro inside
  rw [nameOf_segment outside] at inside
  exact outside (Text.before_subset ';' segment ((Text.prefix_beforeLast '.' _).subset inside))

theorem head?_nameOf_iff :
    (nameOf (segment ++ '/' :: others)).head? = some '/' ↔ Text.before ';' segment = [] := by
  have outside_name : '/' ∉ Text.before ';' segment :=
    fun inside => outside (Text.before_subset ';' segment inside)
  rw [nameOf, Matrix.withoutParameters_append, Matrix.withoutParameters_of_notMem outside,
    withoutExtension_append, head?_append_slash_iff outside_name]

theorem getLast?_nameOf_iff :
    (nameOf (others ++ '/' :: segment)).getLast? = some '/' ↔ IsNameless segment := by
  rw [nameOf, Matrix.withoutParameters_append, withoutExtension_append, ← nameOf,
    getLast?_append_slash_iff (notMem_nameOf_segment outside), nameOf_segment outside,
    isNameless_iff]

end Name

/-- A default view name holds no parameters.  It starts with a slash exactly if the path has several
segments that hold anything and the first of them holds parameters only.  It ends with a slash
exactly if there are several and the last of them has no name beside its parameters and its
extension. -/
theorem defaultViewName_ends (path : String) :
    ';' ∉ (defaultViewName path).toList ∧
      ((defaultViewName path).toList.head? = some '/' ↔
        1 < (writtenSegments path.toList).length ∧
          ∃ first ∈ (writtenSegments path.toList).head?, first.head? = some ';') ∧
      ((defaultViewName path).toList.getLast? = some '/' ↔
        1 < (writtenSegments path.toList).length ∧
          ∃ last ∈ (writtenSegments path.toList).getLast?, IsNameless last) := by
  obtain ⟨m, n, path_eq⟩ := Text.exists_eq_replicate_append_trim '/' path.toList
  have written_eq : writtenSegments path.toList =
      writtenSegments (Text.trim (· == '/') path.toList) := by
    conv_lhs => rw [path_eq, writtenSegments_surrounded]
  have begins : (Text.trim (· == '/') path.toList).head? ≠ some '/' :=
    fun first => by simpa using Text.head?_trim first
  have ends : (Text.trim (· == '/') path.toList).getLast? ≠ some '/' :=
    fun last => by simpa using Text.getLast?_trim last
  rw [toList_defaultViewName, ← nameOf, written_eq]
  generalize Text.trim (· == '/') path.toList = core at begins ends
  refine ⟨fun inside => Matrix.notMem_withoutParameters core
    ((prefix_withoutExtension _).subset inside), ?_⟩
  by_cases inside : '/' ∈ core
  · obtain ⟨⟨first, rest, first_eq, first_outside, first_ne, head_eq⟩,
      ⟨front, last, last_eq, last_outside, -, final_eq⟩, several⟩ :=
      exists_end_segments begins ends inside
    have head_iff := head?_nameOf_iff first_outside rest
    have final_iff := getLast?_nameOf_iff last_outside front
    rw [← first_eq, before_eq_nil_iff first_ne] at head_iff
    rw [← last_eq] at final_iff
    rw [head_iff, final_iff, head_eq, final_eq]
    simp [several]
  · have single := length_writtenSegments_of_notMem inside
    have bare := notMem_nameOf_segment inside
    constructor
    · refine iff_of_false (fun first => bare (List.mem_of_head? first)) ?_
      exact fun several => Nat.not_lt.mpr single several.1
    · refine iff_of_false (fun last => bare (List.mem_of_getLast? last)) ?_
      exact fun several => Nat.not_lt.mpr single several.1

/-- Parameters in front of the first name leave a slash there. -/
theorem not_forall_defaultViewName_trimmed :
    ¬ ∀ path, (defaultViewName path).toList.head? ≠ some '/' ∧
      (defaultViewName path).toList.getLast? ≠ some '/' ∧ ';' ∉ (defaultViewName path).toList := by
  intro trimmed
  have first_slash : (defaultViewName "/;v=1/a").toList.head? = some '/' := by decide +kernel
  exact (trimmed "/;v=1/a").1 first_slash

end WebDispatch
