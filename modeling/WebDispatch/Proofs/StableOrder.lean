import Mathlib.Data.List.Sort
import WebDispatch.Ranked

/-!
# Insertion in order as stable sorting

A list that every element is inserted into by its rank is the stable sort of the elements in the
order of their insertion.  A list in ascending order is known from its elements of each rank, and
neither insertion nor sorting changes the order of those.
-/

namespace WebDispatch

variable {α β : Type} [LinearOrder β]

/-- The elements of one rank, in their order. -/
def ofRank (rank : α → β) (level : β) (l : List α) : List α :=
  l.filter fun a => rank a = level

/-- Whether no element has a rank above that of a later one. -/
def Ascending (rank : α → β) (l : List α) : Prop :=
  l.Pairwise fun a b => rank a ≤ rank b

/-- The stable sort by rank. -/
def sortByRank (rank : α → β) (l : List α) : List α :=
  l.mergeSort fun a b => rank a ≤ rank b

variable {rank : α → β}

theorem mem_ofRank {level : β} {l : List α} {a : α} :
    a ∈ ofRank rank level l ↔ a ∈ l ∧ rank a = level := by
  simp [ofRank]

theorem ofRank_cons_self (a : α) (l : List α) :
    ofRank rank (rank a) (a :: l) = a :: ofRank rank (rank a) l := by
  simp [ofRank]

/-- The first element of an ascending list has a rank not above any in the list. -/
theorem Ascending.rank_head_le {a b : α} {l : List α} (ascending : Ascending rank (a :: l))
    (listed : b ∈ a :: l) : rank a ≤ rank b := by
  rcases List.mem_cons.mp listed with rfl | later
  · exact le_refl _
  · exact List.rel_of_pairwise_cons ascending later

theorem mem_iff_of_ofRank_eq {l m : List α}
    (same : ∀ level, ofRank rank level l = ofRank rank level m) (a : α) : a ∈ l ↔ a ∈ m := by
  have of_its_rank : a ∈ ofRank rank (rank a) l ↔ a ∈ ofRank rank (rank a) m := by rw [same]
  simpa [mem_ofRank] using of_its_rank

/-- Ascending lists with the same elements of each rank, in the same order, are the same. -/
theorem Ascending.eq_of_ofRank_eq {l m : List α} (l_ascending : Ascending rank l)
    (m_ascending : Ascending rank m) (same : ∀ level, ofRank rank level l = ofRank rank level m) :
    l = m := by
  have mem_iff := mem_iff_of_ofRank_eq same
  induction l generalizing m with
  | nil =>
      cases m with
      | nil => rfl
      | cons b m => exact absurd ((mem_iff b).mpr List.mem_cons_self) List.not_mem_nil
  | cons a l ih =>
      cases m with
      | nil => exact absurd ((mem_iff a).mp List.mem_cons_self) List.not_mem_nil
      | cons b m =>
          have level_eq : rank a = rank b := le_antisymm
            (l_ascending.rank_head_le ((mem_iff b).mpr List.mem_cons_self))
            (m_ascending.rank_head_le ((mem_iff a).mp List.mem_cons_self))
          -- Both first elements are the first of one rank.
          have of_that_rank := same (rank a)
          rw [ofRank_cons_self, level_eq, ofRank_cons_self] at of_that_rank
          obtain ⟨rfl, -⟩ := List.cons.inj of_that_rank
          have rest_same (level : β) : ofRank rank level l = ofRank rank level m := by
            have both := same level
            by_cases here : rank a = level
            · subst here
              rw [ofRank_cons_self, ofRank_cons_self] at both
              exact (List.cons.inj both).2
            · simpa [ofRank, here] using both
          rw [ih l_ascending.of_cons m_ascending.of_cons rest_same
            (mem_iff_of_ofRank_eq rest_same)]

theorem ascending_reverse {l : List α} :
    Ascending rank l.reverse ↔ Ascending (OrderDual.toDual ∘ rank) l :=
  List.pairwise_reverse

theorem ofRank_reverse (level : β) (l : List α) :
    ofRank rank level l.reverse = (ofRank rank level l).reverse := by
  simp only [ofRank, List.filter_reverse]

theorem ofRank_append (level : β) (l m : List α) :
    ofRank rank level (l ++ m) = ofRank rank level l ++ ofRank rank level m := by
  simp only [ofRank, List.filter_append]

theorem ofRank_toDual (level : β) (l : List α) :
    ofRank (OrderDual.toDual ∘ rank) (OrderDual.toDual level) l = ofRank rank level l := by
  simp [ofRank]

theorem ascending_sortByRank (l : List α) : Ascending rank (sortByRank rank l) := by
  have sorted : (sortByRank rank l).Pairwise fun a b => decide (rank a ≤ rank b) :=
    List.pairwise_mergeSort (fun a b c => by simpa using le_trans)
      (fun a b => by simpa using le_total _ _) l
  simpa [Ascending] using sorted

/-- Sorting keeps the elements of each rank in their order. -/
theorem ofRank_sortByRank (level : β) (l : List α) :
    ofRank rank level (sortByRank rank l) = ofRank rank level l := by
  have level_ascending : (ofRank rank level l).Pairwise fun a b => decide (rank a ≤ rank b) := by
    refine List.pairwise_of_forall_mem_list ?_
    intro a a_listed b b_listed
    rw [(mem_ofRank.mp a_listed).2, (mem_ofRank.mp b_listed).2]
    exact decide_eq_true le_rfl
  have kept : (ofRank rank level l).Sublist (sortByRank rank l) :=
    List.sublist_mergeSort (fun a b c => by simpa using le_trans)
      (fun a b => by simpa using le_total _ _) level_ascending List.filter_sublist
  have inside : (ofRank rank level l).Sublist (ofRank rank level (sortByRank rank l)) := by
    simpa [ofRank, List.filter_filter] using kept.filter fun a => rank a = level
  have length_eq : (ofRank rank level (sortByRank rank l)).length =
      (ofRank rank level l).length :=
    ((List.mergeSort_perm l _).filter _).length_eq
  exact (inside.eq_of_length length_eq.symm).symm

theorem mem_sortByRank {l : List α} {a : α} : a ∈ sortByRank rank l ↔ a ∈ l :=
  List.mem_mergeSort

theorem sortByRank_perm (l : List α) : (sortByRank rank l).Perm l :=
  List.mergeSort_perm l _

/-- Elements of different ranks are sorted alike in whichever order they come. -/
theorem sortByRank_eq_of_perm {l m : List α} (same : l.Perm m) (distinct : (l.map rank).Nodup) :
    sortByRank rank l = sortByRank rank m := by
  refine List.Perm.eq_of_pairwise ?_ (ascending_sortByRank l) (ascending_sortByRank m)
    (((sortByRank_perm l).trans same).trans (sortByRank_perm m).symm)
  intro a b a_sorted b_sorted a_le b_le
  exact List.inj_on_of_nodup_map distinct (mem_sortByRank.mp a_sorted)
    (same.mem_iff.mpr (mem_sortByRank.mp b_sorted)) (le_antisymm a_le b_le)

/-- The first element of a sorted list that passes a test has the lowest rank of those that pass,
and before sorting it is the first of them with that rank. -/
theorem find?_sortByRank {p : α → Bool} {l : List α} {a : α}
    (found : (sortByRank rank l).find? p = some a) :
    (∀ b ∈ l, p b = true → rank a ≤ rank b) ∧
      ∃ front back, l = front ++ a :: back ∧ ∀ b ∈ front, p b = true → rank a < rank b := by
  obtain ⟨passes, before, after, sorted_eq, passed⟩ := List.find?_eq_some_iff_append.1 found
  have fails : ∀ b ∈ before, p b = false := by simpa using passed
  have lowest : ∀ b ∈ l, p b = true → rank a ≤ rank b := by
    intro b listed b_passes
    have inside : b ∈ before ++ a :: after := sorted_eq ▸ mem_sortByRank.2 listed
    obtain early | late := List.mem_append.1 inside
    · simp [fails b early] at b_passes
    · have ascending : Ascending rank (sortByRank rank l) := ascending_sortByRank l
      rw [Ascending, sorted_eq, List.pairwise_append] at ascending
      exact Ascending.rank_head_le ascending.2.1 late
  refine ⟨lowest, ?_⟩
  -- Sorting keeps the order of the elements of that rank, so their first one stays the first.
  have first : (ofRank rank (rank a) l).filter p =
      a :: (ofRank rank (rank a) after).filter p := by
    have none_before : before.filter p = [] := by
      simpa [List.filter_eq_nil_iff] using fails
    rw [← ofRank_sortByRank, sorted_eq, ofRank, List.filter_append, List.filter_append,
      List.filter_comm, none_before]
    simp [ofRank, passes]
  simp only [ofRank, List.filter_filter] at first
  obtain ⟨front, back, rfl, skipped, -⟩ := List.filter_eq_cons_iff.1 first
  refine ⟨front, back, rfl, ?_⟩
  intro b early b_passes
  have listed : b ∈ front ++ a :: back := List.mem_append_left _ early
  have other_rank : rank b ≠ rank a := by simpa [b_passes] using skipped b early
  exact lt_of_le_of_ne (lowest b listed b_passes) other_rank.symm

/-- The first element of a sorted list that gives something has the lowest rank of those that do,
and before sorting it is the first of them with that rank. -/
theorem findSome?_sortByRank {γ : Type} {f : α → Option γ} {l : List α} {c : γ}
    (found : (sortByRank rank l).findSome? f = some c) :
    ∃ front a back, l = front ++ a :: back ∧ f a = some c ∧
      (∀ b ∈ l, (f b).isSome → rank a ≤ rank b) ∧ ∀ b ∈ front, (f b).isSome → rank a < rank b := by
  obtain ⟨before, a, after, sorted_eq, gives, passed⟩ := List.findSome?_eq_some_iff.1 found
  have first_found : (sortByRank rank l).find? (fun b => (f b).isSome) = some a :=
    List.find?_eq_some_iff_append.2
      ⟨by simp [gives], before, after, sorted_eq, by simpa using passed⟩
  obtain ⟨lowest, front, back, l_eq, first⟩ := find?_sortByRank first_found
  exact ⟨front, a, back, l_eq, gives, lowest, first⟩

section Insertion

variable {later : α → α → Bool}

theorem mem_insertRanked {x b : α} {l : List α} : b ∈ insertRanked later x l ↔ b = x ∨ b ∈ l := by
  rw [(insertRanked_perm later x l).mem_iff, List.mem_cons]

theorem ascending_insertRanked (later_iff : ∀ a b, later a b = true ↔ rank b < rank a) (x : α)
    {l : List α} (ascending : Ascending rank l) : Ascending rank (insertRanked later x l) := by
  induction l with
  | nil => exact List.pairwise_singleton _ _
  | cons y rest ih =>
      unfold insertRanked
      by_cases before : rank x < rank y
      · rw [if_pos ((later_iff y x).mpr before)]
        refine List.pairwise_cons.mpr ⟨?_, ascending⟩
        intro b listed
        exact before.le.trans (ascending.rank_head_le listed)
      · rw [if_neg fun passed => before ((later_iff y x).mp passed)]
        refine List.pairwise_cons.mpr ⟨?_, ih ascending.of_cons⟩
        intro b listed
        rcases mem_insertRanked.mp listed with rfl | inside
        · exact not_lt.mp before
        · exact ascending.rank_head_le (List.mem_cons_of_mem y inside)

/-- An element is inserted behind those of its rank. -/
theorem ofRank_insertRanked (later_iff : ∀ a b, later a b = true ↔ rank b < rank a) (x : α)
    {l : List α} (ascending : Ascending rank l) (level : β) :
    ofRank rank level (insertRanked later x l) = ofRank rank level (l ++ [x]) := by
  induction l with
  | nil => rfl
  | cons y rest ih =>
      unfold insertRanked
      by_cases before : rank x < rank y
      · rw [if_pos ((later_iff y x).mpr before)]
        by_cases here : rank x = level
        · -- Nothing behind the place of insertion has the rank of the element.
          have above : ofRank rank level (y :: rest) = [] := by
            refine List.filter_eq_nil_iff.mpr ?_
            intro b listed
            have order := ascending.rank_head_le listed
            simpa [← here] using (before.trans_le order).ne'
          simp only [ofRank] at above ⊢
          rw [List.filter_append, above, List.filter_cons_of_pos (by simpa using here), above]
          simp [here]
        · simp [ofRank, here, List.filter_cons]
      · rw [if_neg fun passed => before ((later_iff y x).mp passed)]
        have rest_eq := ih ascending.of_cons
        by_cases here : rank y = level
        · simpa [ofRank, here] using rest_eq
        · simpa [ofRank, here] using rest_eq

/-- Inserting into a sorted list sorts the elements with the new one behind them. -/
theorem insertRanked_sortByRank (later_iff : ∀ a b, later a b = true ↔ rank b < rank a) (x : α)
    (l : List α) : insertRanked later x (sortByRank rank l) = sortByRank rank (l ++ [x]) := by
  refine (ascending_insertRanked later_iff x (ascending_sortByRank l)).eq_of_ofRank_eq
    (ascending_sortByRank _) ?_
  intro level
  rw [ofRank_insertRanked later_iff x (ascending_sortByRank l), ofRank_sortByRank]
  simp only [ofRank, List.filter_append]
  rw [← ofRank, ofRank_sortByRank, ofRank]

/-! Inserted in front of the elements of its rank, an element is the first of them. -/

theorem ascending_insertRanked_ahead {x : α} {l : List α}
    (later_iff : ∀ a ∈ l, later a x = true ↔ rank x ≤ rank a) (ascending : Ascending rank l) :
    Ascending rank (insertRanked later x l) := by
  induction l with
  | nil => exact List.pairwise_singleton _ _
  | cons y rest ih =>
      unfold insertRanked
      by_cases ahead : rank x ≤ rank y
      · rw [if_pos ((later_iff y List.mem_cons_self).mpr ahead)]
        refine List.pairwise_cons.mpr ⟨?_, ascending⟩
        intro b listed
        exact ahead.trans (ascending.rank_head_le listed)
      · rw [if_neg fun passed => ahead ((later_iff y List.mem_cons_self).mp passed)]
        have rest_ascending :=
          ih (fun a listed => later_iff a (List.mem_cons_of_mem y listed)) ascending.of_cons
        refine List.pairwise_cons.mpr ⟨?_, rest_ascending⟩
        intro b listed
        rcases mem_insertRanked.mp listed with rfl | inside
        · exact (not_le.mp ahead).le
        · exact ascending.rank_head_le (List.mem_cons_of_mem y inside)

theorem ofRank_insertRanked_ahead {x : α} {l : List α}
    (later_iff : ∀ a ∈ l, later a x = true ↔ rank x ≤ rank a) (level : β) :
    ofRank rank level (insertRanked later x l) = ofRank rank level (x :: l) := by
  induction l with
  | nil => rfl
  | cons y rest ih =>
      unfold insertRanked
      by_cases ahead : rank x ≤ rank y
      · rw [if_pos ((later_iff y List.mem_cons_self).mpr ahead)]
      · rw [if_neg fun passed => ahead ((later_iff y List.mem_cons_self).mp passed)]
        have rest_eq := ih fun a listed => later_iff a (List.mem_cons_of_mem y listed)
        have other : rank y ≠ rank x := (not_le.mp ahead).ne
        simp only [ofRank, List.filter_cons] at rest_eq ⊢
        rw [rest_eq]
        by_cases here : rank x = level
        · subst here
          simp [other]
        · simp [here]

end Insertion
end WebDispatch
