import WebDispatch.Dispatch.ViewName
import WebDispatch.Proofs.Mapping.MatrixLookup
import WebDispatch.Proofs.Text.Trimming

/-!
# Default view names and matrix parameters

The name of a view is made from the path of a request.  Slashes around the path are dropped before
the matrix parameters are.  So a first or last segment that holds parameters and no name leaves a
slash behind, which the path that is looked up does not have; all other parameters make no
difference: `defaultViewName_lookupPath_eq_iff`.
-/

namespace WebDispatch

namespace Matrix

/-- A path without matrix parameters, as a list of characters. -/
def withoutParameters (s : List Char) : List Char :=
  ['/'].intercalate ((s.splitOn '/').map (Text.before ';'))

theorem map_fst_segments (path : String) :
    (segments path).map Prod.fst = (path.toList.splitOn '/').map (Text.before ';') := by
  rw [segments, List.map_map]
  exact List.map_congr_left fun text _ => fst_segment text

theorem toList_lookupPath (path : String) :
    (lookupPath path).toList = withoutParameters path.toList := by
  rw [lookupPath, String.toList_ofList, map_fst_segments, withoutParameters]

theorem splitOn_withoutParameters (s : List Char) :
    (withoutParameters s).splitOn '/' = (s.splitOn '/').map (Text.before ';') := by
  have names_eq := splitOn_lookupPath (String.ofList s)
  rwa [toList_lookupPath, map_fst_segments, String.toList_ofList] at names_eq

/-- The path is taken apart at each of its slashes. -/
theorem withoutParameters_append (front back : List Char) :
    withoutParameters (front ++ '/' :: back) =
      withoutParameters front ++ '/' :: withoutParameters back := by
  rw [withoutParameters, List.splitOn_append_cons_self, List.map_append,
    Text.intercalate_append (by simp [List.splitOn_ne_nil]) (by simp [List.splitOn_ne_nil])]
  rfl

theorem withoutParameters_of_plain {s : List Char} (plain : ';' ∉ s) : withoutParameters s = s := by
  have names_eq : (s.splitOn '/').map (Text.before ';') = s.splitOn '/' :=
    (List.map_congr_left fun text listed => Text.before_of_notMem fun inside =>
      plain ((Text.of_mem_splitOn listed).2 _ inside)).trans (List.map_id _)
  rw [withoutParameters, names_eq, List.intercalate_splitOn]

theorem withoutParameters_of_notMem {s : List Char} (outside : '/' ∉ s) :
    withoutParameters s = Text.before ';' s := by
  rw [withoutParameters, List.splitOn_eq_singleton outside, List.map_singleton,
    List.intercalate_singleton]

theorem notMem_withoutParameters (s : List Char) : ';' ∉ withoutParameters s := by
  intro inside
  rcases Text.mem_intercalate inside with same | ⟨name, listed, in_name⟩
  · exact absurd same (by decide)
  · obtain ⟨text, -, rfl⟩ := List.mem_map.mp listed
    exact Text.notMem_before ';' text in_name

/-- Slashes around a path stay there. -/
theorem withoutParameters_surrounded (m n : Nat) (s : List Char) :
    withoutParameters (List.replicate m '/' ++ s ++ List.replicate n '/') =
      List.replicate m '/' ++ withoutParameters s ++ List.replicate n '/' := by
  have empty_names (k : Nat) : (List.replicate k []).map (Text.before ';') = List.replicate k [] :=
    List.map_replicate
  rw [withoutParameters, Text.splitOn_append_replicate, Text.splitOn_replicate_append,
    List.map_append, List.map_append, empty_names, empty_names, ← splitOn_withoutParameters,
    ← Text.splitOn_replicate_append, ← Text.splitOn_append_replicate, List.intercalate_splitOn]

end Matrix

/-! ## Segments that hold anything -/

/-- The segments of a path that are not empty. -/
def writtenSegments (s : List Char) : List (List Char) :=
  (s.splitOn '/').filter fun segment => !segment.isEmpty

theorem writtenSegments_append (front back : List Char) :
    writtenSegments (front ++ '/' :: back) = writtenSegments front ++ writtenSegments back := by
  rw [writtenSegments, List.splitOn_append_cons_self, List.filter_append]
  rfl

theorem writtenSegments_of_notMem {s : List Char} (outside : '/' ∉ s) (nonempty : s ≠ []) :
    writtenSegments s = [s] := by
  rw [writtenSegments, List.splitOn_eq_singleton outside, List.filter_cons_of_pos (by simpa)]
  rfl

theorem writtenSegments_surrounded (m n : Nat) (s : List Char) :
    writtenSegments (List.replicate m '/' ++ s ++ List.replicate n '/') = writtenSegments s := by
  rw [writtenSegments, Text.splitOn_append_replicate, Text.splitOn_replicate_append]
  simp [writtenSegments]

/-- A path without segments that hold anything consists of slashes. -/
theorem eq_slash_of_writtenSegments_eq_nil {s : List Char} (nothing : writtenSegments s = [])
    {c : Char} (inside : c ∈ s) : c = '/' := by
  have joined : ['/'].intercalate (s.splitOn '/') = s := List.intercalate_splitOn '/'
  rw [← joined] at inside
  rcases Text.mem_intercalate inside with same | ⟨segment, listed, in_segment⟩
  · exact same
  · have segment_eq : segment = [] := by
      simpa using List.filter_eq_nil_iff.mp nothing segment listed
    exact absurd (segment_eq ▸ in_segment) List.not_mem_nil

/-! ## Names -/

/-- A path without the extension of its last segment. -/
def withoutExtension (s : List Char) : List Char :=
  ['/'].intercalate
    ((s.splitOn '/').dropLast ++ [Text.beforeLast '.' ((s.splitOn '/').getLastD [])])

theorem toList_defaultViewName (path : String) :
    (defaultViewName path).toList =
      withoutExtension (Matrix.withoutParameters (Text.trim (· == '/') path.toList)) := by
  rw [defaultViewName, String.toList_ofList, withoutExtension, Matrix.splitOn_withoutParameters]

/-- The path that is looked up is also trimmed after its parameters are dropped. -/
theorem toList_defaultViewName_lookupPath (path : String) :
    (defaultViewName (Matrix.lookupPath path)).toList =
      withoutExtension (Text.trim (· == '/')
        (Matrix.withoutParameters (Text.trim (· == '/') path.toList))) := by
  obtain ⟨m, n, path_eq⟩ := Text.exists_eq_replicate_append_trim '/' path.toList
  generalize Text.trim (· == '/') path.toList = core at path_eq
  have trim_eq : Text.trim (· == '/') (Matrix.withoutParameters path.toList) =
      Text.trim (· == '/') (Matrix.withoutParameters core) := by
    rw [path_eq, Matrix.withoutParameters_surrounded,
      Text.trim_surrounded (by simp) (by simp)]
  have plain : ';' ∉ Text.trim (· == '/') (Matrix.withoutParameters core) :=
    fun inside => Matrix.notMem_withoutParameters core (Text.trim_subset _ _ inside)
  rw [toList_defaultViewName, Matrix.toList_lookupPath, trim_eq,
    Matrix.withoutParameters_of_plain plain]

/-- There is no slash in an extension. -/
theorem count_withoutExtension (s : List Char) :
    (withoutExtension s).count '/' = s.count '/' := by
  obtain ⟨segments, last, split_eq⟩ : ∃ segments last, s.splitOn '/' = segments ++ [last] :=
    ⟨_, _, (List.dropLast_concat_getLast (List.splitOn_ne_nil '/' s)).symm⟩
  have outside : ∀ segment ∈ segments ++ [Text.beforeLast '.' last], '/' ∉ segment := by
    intro segment listed slash
    rcases List.mem_append.mp listed with early | final
    · exact (Text.of_mem_splitOn (split_eq ▸ List.mem_append_left _ early)).1 slash
    · obtain rfl := List.mem_singleton.mp final
      exact (Text.of_mem_splitOn (split_eq ▸ List.mem_append_right _ List.mem_cons_self)).1
        ((Text.prefix_beforeLast '.' last).subset slash)
  have lengths_eq : ((withoutExtension s).splitOn '/').length = (s.splitOn '/').length := by
    rw [withoutExtension, split_eq, List.dropLast_concat, List.getLastD_concat,
      List.splitOn_intercalate '/' outside (by simp)]
    simp
  simpa [Text.length_splitOn] using lengths_eq

/-- Slashes that trimming drops are missing in the name. -/
theorem withoutExtension_trim_eq_iff (s : List Char) :
    withoutExtension (Text.trim (· == '/') s) = withoutExtension s ↔
      Text.trim (· == '/') s = s := by
  refine ⟨fun same => ?_, fun trim_eq => by rw [trim_eq]⟩
  have counts_eq := congrArg (List.count '/') same
  rw [count_withoutExtension, count_withoutExtension] at counts_eq
  obtain ⟨m, n, s_eq⟩ := Text.exists_eq_replicate_append_trim '/' s
  have dropped : m = 0 ∧ n = 0 := by
    have counts := congrArg (List.count '/') s_eq
    rw [List.count_append, List.count_append, List.count_replicate_self,
      List.count_replicate_self] at counts
    omega
  rw [dropped.1, dropped.2] at s_eq
  simpa using s_eq.symm

/-! ## First and last segments -/

/-- Dropping the parameters of a segment leaves nothing if they are all that it holds. -/
theorem before_eq_nil_iff {s : List Char} (nonempty : s ≠ []) :
    Text.before ';' s = [] ↔ s.head? = some ';' := by
  cases s with
  | nil => contradiction
  | cons c rest => by_cases same : c = ';' <;> simp [Text.before, same]

theorem not_slash_of_mem_before {segment : List Char} (outside : '/' ∉ segment) {c : Char}
    (listed : c ∈ Text.before ';' segment) : (c == '/') = false := by
  rw [beq_eq_false_iff_ne]
  rintro rfl
  exact outside (Text.before_subset ';' segment listed)

section Ends

variable {segment : List Char} (outside : '/' ∉ segment) (nonempty : segment ≠ [])
  (others : List Char)
include outside nonempty

theorem head?_writtenSegments :
    (writtenSegments (segment ++ '/' :: others)).head? = some segment := by
  rw [writtenSegments_append, writtenSegments_of_notMem outside nonempty]
  rfl

theorem getLast?_writtenSegments :
    (writtenSegments (others ++ '/' :: segment)).getLast? = some segment := by
  rw [writtenSegments_append, writtenSegments_of_notMem outside nonempty, List.getLast?_concat]

/-- Without its parameters a path starts with a slash if its first segment has no name. -/
theorem head?_withoutParameters_iff :
    (∀ c ∈ (Matrix.withoutParameters (segment ++ '/' :: others)).head?, (c == '/') = false) ↔
      segment.head? ≠ some ';' := by
  rw [Matrix.withoutParameters_append, Matrix.withoutParameters_of_notMem outside, ne_eq,
    ← before_eq_nil_iff nonempty]
  cases name_eq : Text.before ';' segment with
  | nil => simp
  | cons c rest =>
      have not_slash := not_slash_of_mem_before outside (name_eq ▸ List.mem_cons_self)
      simpa using not_slash

/-- Without its parameters a path ends with a slash if its last segment has no name. -/
theorem getLast?_withoutParameters_iff :
    (∀ c ∈ (Matrix.withoutParameters (others ++ '/' :: segment)).getLast?, (c == '/') = false) ↔
      segment.head? ≠ some ';' := by
  rw [Matrix.withoutParameters_append, Matrix.withoutParameters_of_notMem outside, ne_eq,
    ← before_eq_nil_iff nonempty]
  cases name_eq : Text.before ';' segment using List.reverseRecOn with
  | nil => simp
  | append_singleton rest c =>
      have not_slash := not_slash_of_mem_before outside
        (name_eq ▸ List.mem_append_right rest List.mem_cons_self)
      rw [← List.cons_append, ← List.append_assoc, List.getLast?_concat]
      simpa using not_slash

end Ends

theorem getLast?_append_slashes (front : List Char) {slashes : List Char}
    (all_slashes : ∀ c ∈ slashes, c = '/') : (front ++ '/' :: slashes).getLast? = some '/' := by
  rw [List.eq_replicate_of_mem all_slashes, ← List.replicate_succ, List.replicate_succ',
    ← List.append_assoc, List.getLast?_concat]

/-- Whether neither the first nor the last of some segments holds parameters without a name. -/
def NamedEnds (segments : List (List Char)) : Prop :=
  (∀ first ∈ segments.head?, first.head? ≠ some ';') ∧
    ∀ last ∈ segments.getLast?, last.head? ≠ some ';'

/-- A path without slashes at its ends that has one inside starts with one segment that holds
something and ends with another. -/
theorem exists_end_segments {core : List Char} (begins : core.head? ≠ some '/')
    (ends : core.getLast? ≠ some '/') (inside : '/' ∈ core) :
    (∃ first rest, core = first ++ '/' :: rest ∧ '/' ∉ first ∧ first ≠ [] ∧
        (writtenSegments core).head? = some first) ∧
      (∃ front last, core = front ++ '/' :: last ∧ '/' ∉ last ∧ last ≠ [] ∧
        (writtenSegments core).getLast? = some last) ∧
      1 < (writtenSegments core).length := by
  obtain ⟨first, rest, first_eq, first_outside⟩ := List.eq_append_cons_of_mem inside
  obtain ⟨front, last, last_eq, last_outside⟩ := Text.exists_eq_append_last inside
  have first_ne : first ≠ [] := by
    rintro rfl
    simp [first_eq] at begins
  have last_ne : last ≠ [] := by
    rintro rfl
    simp [last_eq] at ends
  refine ⟨⟨first, rest, first_eq, first_outside, first_ne, ?_⟩,
    ⟨front, last, last_eq, last_outside, last_ne, ?_⟩, ?_⟩
  · rw [first_eq]
    exact head?_writtenSegments first_outside first_ne rest
  · rw [last_eq]
    exact getLast?_writtenSegments last_outside last_ne front
  · by_contra single
    rw [first_eq, writtenSegments_append, writtenSegments_of_notMem first_outside first_ne,
      List.length_append, List.length_singleton] at single
    have nothing : writtenSegments rest = [] := List.length_eq_zero_iff.mp (by omega)
    apply ends
    rw [first_eq]
    exact getLast?_append_slashes first fun c => eq_slash_of_writtenSegments_eq_nil nothing

theorem length_writtenSegments_of_notMem {s : List Char} (outside : '/' ∉ s) :
    (writtenSegments s).length ≤ 1 := by
  rw [writtenSegments, List.splitOn_eq_singleton outside]
  exact List.length_filter_le _ _

/-- Dropping parameters lays bare no slash at an end of a path without slashes at its ends exactly
if the path is one segment, or its first and last segments have names. -/
theorem trim_withoutParameters_iff {core : List Char} (begins : core.head? ≠ some '/')
    (ends : core.getLast? ≠ some '/') :
    Text.trim (· == '/') (Matrix.withoutParameters core) = Matrix.withoutParameters core ↔
      (writtenSegments core).length ≤ 1 ∨ NamedEnds (writtenSegments core) := by
  by_cases inside : '/' ∈ core
  · obtain ⟨⟨first, rest, first_eq, first_outside, first_ne, head_eq⟩,
      ⟨front, last, last_eq, last_outside, last_ne, final_eq⟩, several⟩ :=
      exists_end_segments begins ends inside
    have head_iff := head?_withoutParameters_iff first_outside first_ne rest
    have final_iff := getLast?_withoutParameters_iff last_outside last_ne front
    rw [← first_eq] at head_iff
    rw [← last_eq] at final_iff
    rw [Text.trim_eq_self_iff, head_iff, final_iff, NamedEnds, head_eq, final_eq]
    simp [Nat.not_le.mpr several]
  · rw [Matrix.withoutParameters_of_notMem inside]
    exact iff_of_true (Text.trim_eq_self fun _ => not_slash_of_mem_before inside)
      (.inl (length_writtenSegments_of_notMem inside))

/-- Matrix parameters make no difference to the default view name exactly if at most one segment of
the path holds anything, or neither the first nor the last of those that do holds parameters without
a name. -/
theorem defaultViewName_lookupPath_eq_iff (path : String) :
    defaultViewName (Matrix.lookupPath path) = defaultViewName path ↔
      (writtenSegments path.toList).length ≤ 1 ∨ NamedEnds (writtenSegments path.toList) := by
  obtain ⟨m, n, path_eq⟩ := Text.exists_eq_replicate_append_trim '/' path.toList
  have written_eq : writtenSegments path.toList =
      writtenSegments (Text.trim (· == '/') path.toList) := by
    conv_lhs => rw [path_eq, writtenSegments_surrounded]
  rw [← String.toList_inj, toList_defaultViewName_lookupPath, toList_defaultViewName,
    withoutExtension_trim_eq_iff, written_eq]
  refine trim_withoutParameters_iff (fun first => ?_) fun last => ?_
  · simpa using Text.head?_trim first
  · simpa using Text.getLast?_trim last

/-- Parameters behind the last slash leave it in the name. -/
theorem not_forall_defaultViewName_lookupPath :
    ¬ ∀ path, defaultViewName path = defaultViewName (Matrix.lookupPath path) := by
  intro same
  have last_slash : defaultViewName "/a/b/;" = "a/b/" := by decide +kernel
  have no_slash : defaultViewName (Matrix.lookupPath "/a/b/;") = "a/b" := by decide +kernel
  rw [same, no_slash] at last_slash
  exact absurd last_slash (by decide)

end WebDispatch
