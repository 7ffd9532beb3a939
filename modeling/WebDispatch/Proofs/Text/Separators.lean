import Mathlib.Data.List.TakeWhile
import WebDispatch.Text.Basic

/-!
# Cutting and joining at separators

What stands in a text that was put together with separators, and what a text is cut into at them.
That cutting undoes joining is `List.splitOn_intercalate`.
-/

namespace WebDispatch
namespace Text

variable {separator : Char}

/-- A piece between separators has none of them, and only what the whole text has. -/
theorem of_mem_splitOn {text piece : List Char} (listed : piece ∈ text.splitOn separator) :
    separator ∉ piece ∧ ∀ c ∈ piece, c ∈ text := by
  induction text generalizing piece with
  | nil =>
      obtain rfl : piece = [] := by simpa using listed
      simp
  | cons first rest ih =>
      rw [List.splitOn_cons_eq_if_modifyHead] at listed
      split at listed
      · rcases List.mem_cons.mp listed with rfl | later
        · simp
        · exact ⟨(ih later).1, fun c inside => List.mem_cons_of_mem _ ((ih later).2 c inside)⟩
      · next other =>
          obtain ⟨head, tail, split_eq⟩ := List.exists_cons_of_ne_nil
            (List.splitOn_ne_nil separator rest)
          rw [split_eq] at listed ih
          rcases List.mem_cons.mp listed with rfl | later
          · obtain ⟨outside, only⟩ := ih List.mem_cons_self
            refine ⟨?_, fun c inside => ?_⟩
            · have first_ne : separator ≠ first := fun same => other (by simp [same])
              simp [first_ne, outside]
            · rcases List.mem_cons.mp inside with rfl | inside
              · exact List.mem_cons_self
              · exact List.mem_cons_of_mem _ (only c inside)
          · obtain ⟨outside, only⟩ := ih (List.mem_cons_of_mem _ later)
            exact ⟨outside, fun c inside => List.mem_cons_of_mem _ (only c inside)⟩

/-- What is put in front of a text and has no separators is put in front of its first piece. -/
theorem splitOn_append_of_eq_cons {front text first : List Char} {rest : List (List Char)}
    (outside : separator ∉ front) (text_eq : text.splitOn separator = first :: rest) :
    (front ++ text).splitOn separator = (front ++ first) :: rest := by
  induction front with
  | nil => exact text_eq
  | cons c front ih =>
      rw [List.mem_cons, not_or] at outside
      have inside : (c == separator) = false := beq_eq_false_iff_ne.mpr (Ne.symm outside.1)
      rw [List.cons_append, List.splitOn_cons_eq_if_modifyHead, inside, if_neg Bool.false_ne_true,
        ih outside.2]
      rfl

/-- What is put behind a text and has no separators is put behind its last piece. -/
theorem splitOn_append_of_notMem {back : List Char} (outside : separator ∉ back)
    (text : List Char) :
    ∃ pieces last, text.splitOn separator = pieces ++ [last] ∧
      (text ++ back).splitOn separator = pieces ++ [last ++ back] := by
  induction text with
  | nil => exact ⟨[], [], rfl, List.splitOn_eq_singleton outside⟩
  | cons c rest ih =>
      obtain ⟨pieces, last, rest_eq, appended_eq⟩ := ih
      rw [List.cons_append, List.splitOn_cons_eq_if_modifyHead, List.splitOn_cons_eq_if_modifyHead,
        rest_eq, appended_eq]
      split
      · exact ⟨[] :: pieces, last, rfl, rfl⟩
      · cases pieces with
        | nil => exact ⟨[], c :: last, rfl, rfl⟩
        | cons first pieces => exact ⟨(c :: first) :: pieces, last, rfl, rfl⟩

theorem mem_intercalate {c : Char} {texts : List (List Char)}
    (listed : c ∈ [separator].intercalate texts) : c = separator ∨ ∃ s ∈ texts, c ∈ s := by
  induction texts with
  | nil => simp at listed
  | cons first rest ih =>
      cases rest with
      | nil => exact .inr ⟨first, List.mem_cons_self, by simpa using listed⟩
      | cons next rest =>
          rw [List.intercalate_cons_cons, List.append_assoc, List.mem_append, List.mem_append,
            List.mem_singleton] at listed
          rcases listed with first_listed | same | later
          · exact .inr ⟨first, List.mem_cons_self, first_listed⟩
          · exact .inl same
          · rcases ih later with same | ⟨s, s_listed, inside⟩
            · exact .inl same
            · exact .inr ⟨s, List.mem_cons_of_mem _ s_listed, inside⟩

theorem intercalate_cons (first : List Char) (pieces : List (List Char)) :
    [separator].intercalate (first :: pieces) = first ++ pieces.flatMap (separator :: ·) := by
  induction pieces generalizing first with
  | nil => simp
  | cons piece rest ih =>
      rw [List.intercalate_cons_cons, ih, List.flatMap_cons, List.append_assoc]
      rfl

/-- Texts that are joined one after the other are joined at the place between them. -/
theorem intercalate_append {front back : List (List Char)} (front_ne : front ≠ [])
    (back_ne : back ≠ []) :
    [separator].intercalate (front ++ back) =
      [separator].intercalate front ++ separator :: [separator].intercalate back := by
  obtain ⟨first, front, rfl⟩ := List.exists_cons_of_ne_nil front_ne
  obtain ⟨next, back, rfl⟩ := List.exists_cons_of_ne_nil back_ne
  simp [intercalate_cons]

/-- Each separator in front of a text makes an empty piece. -/
theorem splitOn_replicate_append (m : Nat) (text : List Char) :
    (List.replicate m separator ++ text).splitOn separator =
      List.replicate m [] ++ text.splitOn separator := by
  induction m with
  | zero => rfl
  | succ m ih =>
      rw [List.replicate_succ, List.cons_append, List.splitOn_cons_eq_if_modifyHead,
        if_pos (beq_self_eq_true separator), ih, List.replicate_succ, List.cons_append]

/-- Each separator behind a text makes an empty piece. -/
theorem splitOn_append_replicate (text : List Char) (n : Nat) :
    (text ++ List.replicate n separator).splitOn separator =
      text.splitOn separator ++ List.replicate n [] := by
  cases n with
  | zero => simp
  | succ n =>
      have only_empty : (List.replicate n separator).splitOn separator =
          List.replicate (n + 1) [] := by
        rw [← List.append_nil (List.replicate n separator), splitOn_replicate_append,
          List.splitOn_nil, ← List.replicate_succ']
      rw [List.replicate_succ, List.splitOn_append_cons_self, only_empty]

/-- There is one more piece than there are separators. -/
theorem length_splitOn (text : List Char) :
    (text.splitOn separator).length = text.count separator + 1 := by
  induction text with
  | nil => rfl
  | cons c rest ih =>
      rw [List.splitOn_cons_eq_if_modifyHead, List.count_cons]
      split
      · rw [List.length_cons, ih]
      · rw [List.length_modifyHead, ih, Nat.add_zero]

/-- Cutting at all separators of a class undoes joining with one of them. -/
theorem splitOnP_intercalate {isSeparator : Char → Bool} (sep : isSeparator separator = true)
    {pieces : List (List Char)} (nonempty : pieces ≠ [])
    (outside : ∀ piece ∈ pieces, ∀ c ∈ piece, isSeparator c = false) :
    ([separator].intercalate pieces).splitOnP isSeparator = pieces := by
  induction pieces with
  | nil => contradiction
  | cons first rest ih =>
      obtain ⟨first_outside, rest_outside⟩ := List.forall_mem_cons.mp outside
      cases rest with
      | nil => rw [List.intercalate_singleton, List.splitOnP_eq_singleton first_outside]
      | cons next rest =>
          rw [List.intercalate_cons_cons, List.append_assoc, List.singleton_append,
            List.splitOnP_append_cons_of_forall_mem first_outside separator sep,
            ih (List.cons_ne_nil _ _) rest_outside]

/-- A text is cut into its beginning and the pieces that are behind separators. -/
theorem splitOn_flatMap_cons {first : List Char} {pieces : List (List Char)}
    (outside : ∀ piece ∈ first :: pieces, separator ∉ piece) :
    (first ++ pieces.flatMap (separator :: ·)).splitOn separator = first :: pieces := by
  rw [← intercalate_cons, List.splitOn_intercalate separator outside (List.cons_ne_nil _ _)]

/-! ### Cutting once -/

theorem bne_of_notMem {s : List Char} (outside : separator ∉ s) :
    ∀ c ∈ s, (c != separator) = true := by
  intro c inside
  rw [bne_iff_ne]
  rintro rfl
  exact outside inside

theorem before_of_notMem {s : List Char} (outside : separator ∉ s) : before separator s = s :=
  List.takeWhile_eq_self_iff.mpr (bne_of_notMem outside)

theorem before_append {front : List Char} (back : List Char) (outside : separator ∉ front) :
    before separator (front ++ separator :: back) = front := by
  rw [before, List.takeWhile_append_of_pos (bne_of_notMem outside),
    List.takeWhile_cons_of_neg (by simp), List.append_nil]

theorem before_subset (separator : Char) (s : List Char) : before separator s ⊆ s :=
  (List.takeWhile_prefix _).subset

theorem notMem_before (separator : Char) (s : List Char) : separator ∉ before separator s :=
  fun inside => by simpa using List.mem_takeWhile_imp inside

/-- What is put behind a text and has no separators is put behind what follows the first one. -/
theorem cutAt?_append_of_notMem {back : List Char} (outside : separator ∉ back) (s : List Char) :
    cutAt? separator (s ++ back) =
      (cutAt? separator s).map fun (before, after) => (before, after ++ back) := by
  induction s with
  | nil =>
      cases cut_eq : cutAt? separator back with
      | none => simp [cutAt?, cut_eq]
      | some cut =>
          obtain ⟨before, after⟩ := cut
          have back_eq := (eq_of_cutAt? cut_eq).1
          exact absurd (back_eq ▸ List.mem_append_right _ List.mem_cons_self) outside
  | cons c rest ih =>
      rw [List.cons_append, cutAt?, cutAt?, ih]
      split
      · rfl
      · cases cutAt? separator rest <;> rfl

/-- What stands in front of the last separator, and what stands behind it. -/
theorem exists_eq_append_last {s : List Char} (inside : separator ∈ s) :
    ∃ front last, s = front ++ separator :: last ∧ separator ∉ last := by
  obtain ⟨last, front, reverse_eq, outside⟩ :=
    List.eq_append_cons_of_mem (List.mem_reverse.mpr inside)
  refine ⟨front.reverse, last.reverse, ?_, by simpa using outside⟩
  rw [List.reverse_eq_iff] at reverse_eq
  simpa using reverse_eq

theorem beforeLast_append (front : List Char) {last : List Char} (outside : separator ∉ last) :
    beforeLast separator (front ++ separator :: last) = front := by
  have reverse_eq : (front ++ separator :: last).reverse =
      last.reverse ++ separator :: front.reverse := by
    simp
  rw [beforeLast, reverse_eq, cutAt?_append _ (by simpa using outside)]
  exact List.reverse_reverse front

theorem beforeLast_of_notMem {s : List Char} (outside : separator ∉ s) :
    beforeLast separator s = s := by
  unfold beforeLast
  split
  · next back front cut_eq =>
      have inside : separator ∈ s.reverse := by
        rw [(eq_of_cutAt? cut_eq).1]
        exact List.mem_append_right _ List.mem_cons_self
      exact absurd (List.mem_reverse.mp inside) outside
  · rfl

theorem prefix_beforeLast (separator : Char) (s : List Char) :
    beforeLast separator s <+: s := by
  by_cases inside : separator ∈ s
  · obtain ⟨front, last, rfl, outside⟩ := exists_eq_append_last inside
    rw [beforeLast_append front outside]
    exact List.prefix_append _ _
  · exact (beforeLast_of_notMem inside).symm ▸ List.prefix_refl s

/-- Nothing stands in front of the last separator if it is the first character and the only
separator, or if there is nothing at all. -/
theorem beforeLast_eq_nil_iff {s : List Char} :
    beforeLast separator s = [] ↔ s = [] ∨ ∃ last, s = separator :: last ∧ separator ∉ last := by
  by_cases inside : separator ∈ s
  · obtain ⟨front, last, rfl, outside⟩ := exists_eq_append_last inside
    rw [beforeLast_append front outside]
    cases front with
    | nil => simpa using outside
    | cons c front => simp
  · rw [beforeLast_of_notMem inside]
    constructor
    · exact .inl
    · rintro (nothing | ⟨last, rfl, -⟩)
      · exact nothing
      · exact absurd List.mem_cons_self inside

end Text
end WebDispatch
