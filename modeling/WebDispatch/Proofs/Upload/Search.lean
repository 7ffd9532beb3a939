import Mathlib.Data.List.Infix
import WebDispatch.Upload.FormData

/-!
# Finding words in a body

A delimiter is found where it was written: it cannot begin in a content that does not hold it and
end behind that content, since its first byte does not occur again in it.  The search for a
parameter begins anew behind an occurrence of its word, so that it passes over a quoted value unless
the word occurs in it twice in a row.
-/

namespace WebDispatch

namespace FormData

theorem indexOf?_go (word s : List UInt8) (n : Nat) :
    indexOf?.go word n s = (indexOf? word s).map (n + ·) := by
  unfold indexOf?
  induction s generalizing n with
  | nil => by_cases empty : word.isEmpty <;> simp [indexOf?.go, empty]
  | cons b rest ih =>
      unfold indexOf?.go
      split
      · simp
      · rw [ih (n + 1), ih (0 + 1), Option.map_map]
        congr 1
        funext size
        simp only [Function.comp_apply]
        omega

theorem indexOf?_of_prefix {word s : List UInt8} (here : word <+: s) :
    indexOf? word s = some 0 := by
  cases s with
  | nil => simp [indexOf?, indexOf?.go, List.prefix_nil.mp here]
  | cons b rest =>
      rw [indexOf?, indexOf?.go, if_pos (List.isPrefixOf_iff_prefix.mpr here)]

theorem indexOf?_cons {word rest : List UInt8} {b : UInt8} (not_here : ¬ word <+: b :: rest) :
    indexOf? word (b :: rest) = (indexOf? word rest).map (· + 1) := by
  have not_prefix : ¬ word.isPrefixOf (b :: rest) = true :=
    fun here => not_here (List.isPrefixOf_iff_prefix.mp here)
  rw [indexOf?, indexOf?.go, if_neg not_prefix, indexOf?_go]
  congr 1
  funext size
  exact Nat.add_comm _ _

/-- A text without the first byte of a word is passed over. -/
theorem indexOf?_append_of_notMem {first : UInt8} {word front : List UInt8}
    (outside : first ∉ front) (s : List UInt8) :
    indexOf? (first :: word) (front ++ s) =
      (indexOf? (first :: word) s).map (front.length + ·) := by
  induction front with
  | nil => simp
  | cons b rest ih =>
      rw [List.mem_cons, not_or] at outside
      obtain ⟨other, rest_outside⟩ := outside
      have not_here : ¬ first :: word <+: b :: (rest ++ s) := fun here =>
        other (List.cons_prefix_cons.mp here).1
      rw [List.cons_append, indexOf?_cons not_here, ih rest_outside, Option.map_map]
      congr 1
      funext size
      simp only [Function.comp_apply, List.length_cons]
      omega

/-- A word that has its first byte only there does not begin in a text that it is not part of, when
it follows that text. -/
theorem not_prefix_append {first b : UInt8} {word content : List UInt8} (once : first ∉ word)
    (outside : ¬ first :: word <:+: b :: content) (back : List UInt8) :
    ¬ first :: word <+: b :: content ++ (first :: word ++ back) := by
  intro here
  rcases List.prefix_or_prefix_of_prefix here (List.prefix_append (b :: content) _) with
    inside | ⟨rest, across⟩
  · exact outside inside.isInfix
  · -- The word would begin in the content and end behind it, where it begins again.
    cases rest with
    | nil => exact outside (by simp [← across])
    | cons c rest =>
        rw [← across, List.prefix_append_right_inj] at here
        obtain ⟨begins, word_eq⟩ := List.cons.inj across
        have again : c = first := (List.cons_prefix_cons.mp here).1.trans begins
        rw [again] at word_eq
        exact once (word_eq ▸ by simp)

/-- The first occurrence of a word behind a text that it is not part of. -/
theorem indexOf?_append_self {first : UInt8} {word content : List UInt8} (once : first ∉ word)
    (outside : ¬ first :: word <:+: content) (back : List UInt8) :
    indexOf? (first :: word) (content ++ (first :: word ++ back)) = some content.length := by
  induction content with
  | nil => exact indexOf?_of_prefix (List.prefix_append _ _)
  | cons b content ih =>
      have rest_outside : ¬ first :: word <:+: content := fun inside =>
        outside (inside.trans (List.suffix_cons b content).isInfix)
      have not_here := not_prefix_append once outside back
      rw [List.cons_append] at not_here ⊢
      rw [indexOf?_cons not_here, ih rest_outside]
      rfl

end FormData

/-- A word without a byte that stops a text begins in front of that byte only if it is all there. -/
theorem prefix_of_prefix_append_cons {word value rest : List UInt8} {stop : UInt8}
    (unstopped : stop ∉ word) (here : word <+: value ++ stop :: rest) : word <+: value := by
  rcases List.prefix_or_prefix_of_prefix here (List.prefix_append value _) with
    inside | ⟨across, rfl⟩
  · exact inside
  · cases across with
    | nil => simp
    | cons c across =>
        rw [List.prefix_append_right_inj, List.cons_prefix_cons] at here
        exact absurd (by simp [here.1]) unstopped

/-- A text without a word and the byte behind it, which stops the word, are passed over. -/
theorem FormData.indexOf?_append_cons {word text : List UInt8} {stop : UInt8}
    (unstopped : stop ∉ word) (nonempty : word ≠ []) (outside : ¬ word <:+: text)
    (back : List UInt8) :
    indexOf? word (text ++ stop :: back) = (indexOf? word back).map (text.length + 1 + ·) := by
  induction text with
  | nil =>
      have not_here : ¬ word <+: stop :: back := by
        obtain ⟨b, rest, rfl⟩ := List.exists_cons_of_ne_nil nonempty
        intro here
        exact unstopped (by simp [(List.cons_prefix_cons.mp here).1])
      rw [List.nil_append, indexOf?_cons not_here]
      congr 1
      funext size
      exact Nat.add_comm _ _
  | cons b text ih =>
      have text_outside : ¬ word <:+: text := fun inside =>
        outside (inside.trans (List.suffix_cons b text).isInfix)
      have not_here : ¬ word <+: b :: text ++ stop :: back := fun here =>
        outside (prefix_of_prefix_append_cons unstopped here).isInfix
      rw [List.cons_append] at not_here ⊢
      rw [indexOf?_cons not_here, ih text_outside, Option.map_map]
      congr 1
      funext size
      simp only [Function.comp_apply, List.length_cons]
      omega

namespace Disposition

variable {word : List UInt8} {startsHere : Bool}

theorem afterWord?_cons {b : UInt8} {rest : List UInt8} (not_here : ¬ word <+: b :: rest) :
    afterWord? word startsHere (b :: rest) =
      afterWord? word (isBlankByte b || b == 0x3B) rest := by
  have not_prefix : ¬ word.isPrefixOf (b :: rest) = true :=
    fun here => not_here (List.isPrefixOf_iff_prefix.mp here)
  rw [afterWord?, if_neg not_prefix]

/-- An occurrence of a word is the start of a parameter, or the search begins anew behind it. -/
theorem afterWord?_append (nonempty : word ≠ []) (rest : List UInt8) :
    afterWord? word startsHere (word ++ rest) =
      if startsHere then some rest else afterWord? word true rest := by
  obtain ⟨b, back, rfl⟩ := List.exists_cons_of_ne_nil nonempty
  have here : (b :: back).isPrefixOf (b :: (back ++ rest)) = true :=
    List.isPrefixOf_iff_prefix.mpr (List.prefix_append (b :: back) rest)
  rw [List.cons_append, afterWord?, if_pos here]
  simp

/-- A text without the first byte of a word is passed over, and its last byte decides whether a
parameter may start behind it. -/
theorem afterWord?_append_of_notMem {first b : UInt8} {front : List UInt8}
    (outside : first ∉ front) (other : first ≠ b) (rest : List UInt8) :
    afterWord? (first :: word) startsHere (front ++ b :: rest) =
      afterWord? (first :: word) (isBlankByte b || b == 0x3B) rest := by
  induction front generalizing startsHere with
  | nil => exact afterWord?_cons fun here => other (List.cons_prefix_cons.mp here).1
  | cons c front ih =>
      rw [List.mem_cons, not_or] at outside
      have not_here : ¬ first :: word <+: c :: (front ++ b :: rest) := fun here =>
        outside.1 (List.cons_prefix_cons.mp here).1
      rw [List.cons_append, afterWord?_cons not_here, ih outside.2]

/-- A quoted value without blanks and semicolons is passed over, unless an occurrence of the word
may start a parameter there: one in front, or one directly behind another. -/
theorem afterWord?_quoted (startsHere : Bool) (nonempty : word ≠ []) (unquoted : 0x22 ∉ word)
    {value : List UInt8} (plain : ∀ b ∈ value, (isBlankByte b || b == 0x3B) = false)
    (rest : List UInt8) :
    (∃ starts, afterWord? word startsHere (value ++ 0x22 :: rest) =
        afterWord? word starts (0x22 :: rest)) ∨
      (startsHere = true ∧ word <+: value ∨ word ++ word <:+: value) ∧
        ∃ back, back <:+ value ∧
          afterWord? word startsHere (value ++ 0x22 :: rest) = some (back ++ 0x22 :: rest) := by
  induction length_eq : value.length using Nat.strongRecOn generalizing value startsHere with
  | _ length ih =>
    subst length_eq
    by_cases here : word <+: value ++ 0x22 :: rest
    · obtain ⟨back, rfl⟩ := prefix_of_prefix_append_cons unquoted here
      rw [List.append_assoc, afterWord?_append nonempty]
      cases startsHere with
      | true => exact .inr ⟨.inl ⟨rfl, List.prefix_append _ _⟩, back, List.suffix_append _ _, rfl⟩
      | false =>
          have shorter : back.length < (word ++ back).length := by
            simpa using List.length_pos_iff.mpr nonempty
          rw [if_neg Bool.false_ne_true]
          refine (ih _ shorter true (fun b listed => plain b (by simp [listed]))
            rfl).imp_right ?_
          rintro ⟨twice, later, later_suffix, found⟩
          refine ⟨.inr ?_, later, later_suffix.trans (List.suffix_append _ _), found⟩
          rcases twice with ⟨-, again⟩ | twice
          · exact ((List.prefix_append_right_inj word).mpr again).isInfix
          · exact twice.trans (List.suffix_append _ _).isInfix
    · cases value with
      | nil => exact .inl ⟨startsHere, rfl⟩
      | cons b value =>
          rw [List.cons_append] at here ⊢
          rw [afterWord?_cons here, plain b List.mem_cons_self]
          refine (ih _ (Nat.lt_succ_self _) false
            (fun c listed => plain c (List.mem_cons_of_mem _ listed)) rfl).imp_right ?_
          rintro ⟨twice, later, later_suffix, found⟩
          refine ⟨.inr ?_, later, later_suffix.trans (List.suffix_cons b value), found⟩
          rcases twice with ⟨starts, -⟩ | twice
          · contradiction
          · exact twice.trans (List.suffix_cons b value).isInfix

/-- A text without quotes and backslashes is read back from between quotes. -/
theorem quoted?_append {value : List UInt8} (plain : ∀ b ∈ value, b ≠ 0x22 ∧ b ≠ 0x5C)
    (rest : List UInt8) : quoted? (value ++ 0x22 :: rest) = some value := by
  induction value with
  | nil => rfl
  | cons b value ih =>
      obtain ⟨no_quote, no_escape⟩ := plain b List.mem_cons_self
      have rest_eq := ih fun c listed => plain c (List.mem_cons_of_mem _ listed)
      rw [List.cons_append, quoted?, rest_eq, Option.map_some]
      · intro _ escape
        exact absurd escape no_escape
      · exact no_quote

/-- The value behind an equals sign and between quotes. -/
theorem value?_quoted {value : List UInt8} (plain : ∀ b ∈ value, b ≠ 0x22 ∧ b ≠ 0x5C)
    (rest : List UInt8) : value? (0x22 :: (value ++ 0x22 :: rest)) = some value := by
  have unblank : isBlankByte 0x22 = false := rfl
  rw [value?, List.dropWhile_cons_of_neg (by simp [unblank])]
  exact quoted?_append plain rest

end Disposition
end WebDispatch
