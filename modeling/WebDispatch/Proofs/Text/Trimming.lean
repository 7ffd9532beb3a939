import Mathlib.Data.List.TakeWhile
import WebDispatch.Text.Basic

/-!
# Trimming

A text is what trimming leaves of it between characters that are dropped, and what is left neither
starts nor ends with such a character.
-/

namespace WebDispatch
namespace Text

variable {drop : Char → Bool}

/-- Trimming leaves a text alone that starts and ends with other characters. -/
theorem trim_of_ends {s : List Char} (first : ∀ c ∈ s.head?, drop c = false)
    (last : ∀ c ∈ s.getLast?, drop c = false) : trim drop s = s := by
  have kept : ∀ {s : List Char}, (∀ c ∈ s.head?, drop c = false) → s.dropWhile drop = s := by
    intro s shown
    cases s with
    | nil => rfl
    | cons c rest => exact List.dropWhile_cons_of_neg (by simp [shown c rfl])
  rw [trim, trimEnd, trimStart, kept first, kept (by rwa [List.head?_reverse]), List.reverse_reverse]

/-- Trimming drops what it drops around a text. -/
theorem trim_surrounded {front back : List Char} (front_dropped : ∀ c ∈ front, drop c = true)
    (back_dropped : ∀ c ∈ back, drop c = true) (s : List Char) :
    trim drop (front ++ s ++ back) = trim drop s := by
  have end_dropped (s : List Char) : trimEnd drop (s ++ back) = trimEnd drop s := by
    rw [trimEnd, List.reverse_append, List.dropWhile_append_of_pos (by simpa using back_dropped),
      trimEnd]
  rw [trim, trimStart, List.append_assoc, List.dropWhile_append_of_pos front_dropped, trim,
    trimStart, List.dropWhile_append]
  split
  · next nothing =>
      have start_eq : s.dropWhile drop = [] := by simpa using nothing
      have back_eq : back.dropWhile drop = [] := List.dropWhile_eq_nil_iff.mpr back_dropped
      rw [start_eq, back_eq]
  · exact end_dropped _

theorem trimEnd_append_takeWhile (drop : Char → Bool) (s : List Char) :
    trimEnd drop s ++ (s.reverse.takeWhile drop).reverse = s := by
  rw [trimEnd, ← List.reverse_append, List.takeWhile_append_dropWhile, List.reverse_reverse]

/-- Trimming only the end comes to nothing if both ends are trimmed later. -/
theorem trim_trimEnd (s : List Char) : trim drop (trimEnd drop s) = trim drop s := by
  have dropped : ∀ c ∈ (s.reverse.takeWhile drop).reverse, drop c = true :=
    fun c listed => List.mem_takeWhile_imp (List.mem_reverse.mp listed)
  have none_dropped : ∀ c ∈ ([] : List Char), drop c = true := by simp
  calc
    trim drop (trimEnd drop s)
      = trim drop (trimEnd drop s ++ (s.reverse.takeWhile drop).reverse) :=
        (trim_surrounded none_dropped dropped (trimEnd drop s)).symm
    _ = trim drop s := by rw [trimEnd_append_takeWhile]

/-- Trimming does not go beyond a character that is kept, nor into kept characters before it. -/
theorem trim_append_cons {front : List Char} {c : Char} (front_kept : ∀ d ∈ front, drop d = false)
    (kept : drop c = false) (back : List Char) :
    trim drop (front ++ c :: back) = front ++ c :: trimEnd drop back := by
  have start_eq : trimStart drop (front ++ c :: back) = front ++ c :: back := by
    cases front with
    | nil => exact List.dropWhile_cons_of_neg (by simp [kept])
    | cons d rest => exact List.dropWhile_cons_of_neg (by simp [front_kept d])
  have reverse_eq : (front ++ c :: back).reverse = back.reverse ++ c :: front.reverse := by simp
  rw [trim, start_eq, trimEnd, reverse_eq, List.dropWhile_append, trimEnd]
  split
  · next nothing =>
      have back_eq : back.reverse.dropWhile drop = [] := by simpa using nothing
      rw [back_eq, List.dropWhile_cons_of_neg (by simp [kept])]
      simp
  · simp

/-- Around what trimming leaves of a text stand characters that are dropped. -/
theorem exists_eq_append_trim (drop : Char → Bool) (s : List Char) :
    ∃ front back, s = front ++ trim drop s ++ back ∧ (∀ c ∈ front, drop c = true) ∧
      ∀ c ∈ back, drop c = true := by
  refine ⟨s.takeWhile drop, ((trimStart drop s).reverse.takeWhile drop).reverse, ?_, ?_, ?_⟩
  · rw [trim, List.append_assoc, trimEnd_append_takeWhile, trimStart,
      List.takeWhile_append_dropWhile]
  · exact fun c listed => List.mem_takeWhile_imp listed
  · exact fun c listed => List.mem_takeWhile_imp (List.mem_reverse.mp listed)

theorem trim_subset (drop : Char → Bool) (s : List Char) : trim drop s ⊆ s := by
  obtain ⟨front, back, s_eq, -, -⟩ := exists_eq_append_trim drop s
  intro c inside
  rw [s_eq]
  exact List.mem_append_left _ (List.mem_append_right _ inside)

/-- Where one character is dropped, a text is what is left of it between so many of them. -/
theorem exists_eq_replicate_append_trim (c : Char) (s : List Char) :
    ∃ m n, s = List.replicate m c ++ trim (· == c) s ++ List.replicate n c := by
  obtain ⟨front, back, s_eq, front_dropped, back_dropped⟩ := exists_eq_append_trim (· == c) s
  have front_eq := List.eq_replicate_of_mem fun other inside => by
    simpa using front_dropped other inside
  have back_eq := List.eq_replicate_of_mem fun other inside => by
    simpa using back_dropped other inside
  exact ⟨front.length, back.length, by rw [← front_eq, ← back_eq, ← s_eq]⟩

theorem head?_dropWhile {s : List Char} {c : Char} (first : (s.dropWhile drop).head? = some c) :
    drop c = false := by
  have kept := List.head?_dropWhile_not drop s
  rw [first] at kept
  exact kept

/-- What trimming leaves starts with no character that is dropped. -/
theorem head?_trim {s : List Char} {c : Char} (first : (trim drop s).head? = some c) :
    drop c = false := by
  obtain ⟨rest, trim_eq⟩ := List.head?_eq_some_iff.mp first
  have start_eq := trimEnd_append_takeWhile drop (trimStart drop s)
  rw [← trim, trim_eq, List.cons_append] at start_eq
  exact head?_dropWhile (s := s) (by rw [← trimStart, ← start_eq, List.head?_cons])

/-- What trimming leaves ends with no character that is dropped. -/
theorem getLast?_trim {s : List Char} {c : Char} (last : (trim drop s).getLast? = some c) :
    drop c = false := by
  rw [trim, trimEnd, List.getLast?_reverse] at last
  exact head?_dropWhile last

/-- Trimming leaves exactly those texts alone that start and end with other characters. -/
theorem trim_eq_self_iff {s : List Char} :
    trim drop s = s ↔ (∀ c ∈ s.head?, drop c = false) ∧ ∀ c ∈ s.getLast?, drop c = false := by
  constructor
  · intro trim_eq
    rw [← trim_eq]
    exact ⟨fun c first => head?_trim first, fun c last => getLast?_trim last⟩
  · rintro ⟨first, last⟩
    exact trim_of_ends first last

end Text
end WebDispatch
