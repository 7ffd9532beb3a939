import Mathlib.Data.List.Induction
import Mathlib.Order.OrderDual
import WebDispatch.Proofs.StableOrder
import WebDispatch.RunSort

/-!
# Sorting by runs and by insertion

A sort by runs makes up no elements, whatever the test says: also where the test puts the elements
in no order, what it returns is taken from the list that it is given.  Where the test compares
ranks, inserting the elements one by one is the stable sort by rank.
-/

namespace WebDispatch
namespace RunSort

variable {α : Type} (less : α → α → Bool)

/-! ### Merging -/

theorem mergeForward_subset (left right : List α) :
    mergeForward less left right ⊆ left ++ right := by
  intro x listed
  exact List.mem_append.mpr (List.mem_merge.mp listed)

theorem mergeBackward_subset (left right : List α) :
    mergeBackward less left right ⊆ left ++ right := by
  intro x listed
  have from_one : x ∈ right.reverse ∨ x ∈ left.reverse :=
    List.mem_merge.mp (List.mem_reverse.mp listed)
  simpa [or_comm] using from_one

theorem mergeRuns_subset (left right : List α) : mergeRuns less left right ⊆ left ++ right := by
  unfold mergeRuns
  split
  · exact mergeForward_subset less left right
  · exact mergeBackward_subset less left right

theorem mergeHalves_subset (left right : List α) :
    mergeHalves less left right ⊆ left ++ right := by
  have unmarked : (left.map (·, true) ++ right.map (·, false)).map (·.1) = left ++ right := by
    simp [Function.comp_def]
  unfold mergeHalves
  dsimp only
  refine List.append_subset.mpr ⟨List.append_subset.mpr ⟨?_, ?_⟩, ?_⟩
  · rw [← unmarked]
    exact List.map_subset _ (List.Subset.trans (List.take_subset _ _) (mergeForward_subset _ _ _))
  · -- The middle element is one of a half.
    intro x middle
    split at middle
    · exact absurd middle List.not_mem_nil
    · split at middle
      · exact List.mem_append_left _ (List.mem_of_getElem? (Option.mem_toList.mp middle))
      · exact List.mem_append_right _ (List.mem_of_getElem? (Option.mem_toList.mp middle))
  · rw [← unmarked]
    refine List.map_subset _ ?_
    intro x last
    exact mergeBackward_subset _ _ _
      (List.mem_reverse.mp (List.mem_of_mem_take (List.mem_reverse.mp last)))

/-! ### Short runs -/

theorem insertAll_perm (run more : List α) : (insertAll less run more).Perm (run ++ more) := by
  unfold insertAll
  dsimp only
  refine (List.reverse_perm _).trans ?_
  suffices inserted : ∀ sorted : List α,
      (more.foldl (fun sorted x => insertRanked (fun y x => !less x y) x sorted) sorted).Perm
        (sorted ++ more) from
    (inserted _).trans ((List.reverse_perm run).append_right more)
  induction more with
  | nil => simp
  | cons x more ih =>
      intro sorted
      have placed := insertRanked_perm (fun y x => !less x y) x sorted
      exact ((ih _).trans (placed.append_right more)).trans List.perm_middle.symm

/-- Where a test compares ranks, inserting elements one by one is the stable sort by rank. -/
theorem insertAll_eq_sortByRank {β : Type} [LinearOrder β] {rank : α → β} {less : α → α → Bool}
    {l : List α}
    (less_iff : ∀ a ∈ l, ∀ b ∈ l, less a b = true ↔ rank a < rank b) :
    insertAll less [] l = sortByRank rank l := by
  induction l using List.reverseRecOn with
  | nil => simp [insertAll, sortByRank]
  | append_singleton front x ih =>
      have front_eq := ih fun a a_listed b b_listed =>
        less_iff a (List.mem_append_left _ a_listed) b (List.mem_append_left _ b_listed)
      have inserted : insertAll less [] (front ++ [x]) =
          (insertRanked (fun y x => !less x y) x (sortByRank rank front).reverse).reverse := by
        rw [← front_eq]
        simp [insertAll]
      -- The run is kept from its end, where the ranks are falling.
      have falling : Ascending (OrderDual.toDual ∘ rank) (sortByRank rank front).reverse := by
        rw [← ascending_reverse, List.reverse_reverse]
        exact ascending_sortByRank front
      have later_iff : ∀ a ∈ (sortByRank rank front).reverse, (!less x a) = true ↔
          (OrderDual.toDual ∘ rank) x ≤ (OrderDual.toDual ∘ rank) a := by
        intro a listed
        have in_front : a ∈ front := mem_sortByRank.mp (List.mem_reverse.mp listed)
        have compared := less_iff x (by simp) a (by simp [in_front])
        simp [← Bool.not_eq_true, compared]
      rw [inserted]
      refine Ascending.eq_of_ofRank_eq
        (ascending_reverse.mpr (ascending_insertRanked_ahead later_iff falling))
        (ascending_sortByRank _) ?_
      intro level
      calc ofRank rank level (insertRanked _ x (sortByRank rank front).reverse).reverse
        _ = (ofRank rank level (x :: (sortByRank rank front).reverse)).reverse := by
          rw [ofRank_reverse, ← ofRank_toDual, ofRank_insertRanked_ahead later_iff, ofRank_toDual]
        _ = ofRank rank level (sortByRank rank front ++ [x]) := by
          rw [← ofRank_reverse, List.reverse_cons, List.reverse_reverse]
        _ = ofRank rank level (sortByRank rank (front ++ [x])) := by
          rw [ofRank_append, ofRank_sortByRank, ofRank_sortByRank, ofRank_append]

theorem sortFour_subset (w x y z : α) : sortFour less w x y z ⊆ [w, x, y, z] := by
  unfold sortFour
  dsimp only
  intro a listed
  grind

theorem sortHalf_subset (byFour : Bool) (half : List α) : sortHalf less byFour half ⊆ half := by
  unfold sortHalf
  split
  · rename_i w x y z rest
    split
    · refine List.Subset.trans (insertAll_perm less _ rest).subset ?_
      have four : sortFour less w x y z ⊆ [w, x, y, z] ++ rest :=
        List.Subset.trans (sortFour_subset less w x y z) (List.subset_append_left _ _)
      exact List.append_subset.mpr ⟨four, List.subset_append_right [w, x, y, z] rest⟩
    · exact (insertAll_perm less [] _).subset
  · exact (insertAll_perm less [] _).subset

theorem sortShort_subset (run : List α) : sortShort less run ⊆ run := by
  unfold sortShort
  split
  · exact List.Subset.refl run
  · refine List.Subset.trans (mergeHalves_subset less _ _) (List.append_subset.mpr ⟨?_, ?_⟩)
    · exact List.Subset.trans (sortHalf_subset less _ _) (List.take_subset _ _)
    · exact List.Subset.trans (sortHalf_subset less _ _) (List.drop_subset _ _)

/-! ### Runs and the order of their merges -/

section Joining

variable {whole : List α} {sortLong : List α → List α}

theorem firstRun_subset (eager : Bool) (good : Nat) (list : List α) :
    (firstRun less eager good list).1.items ⊆ list ∧
      (firstRun less eager good list).2 ⊆ list := by
  unfold firstRun
  dsimp only
  split_ifs
  · exact ⟨List.reverse_subset.mpr (List.take_subset _ _), List.drop_subset _ _⟩
  · exact ⟨List.take_subset _ _, List.drop_subset _ _⟩
  · exact ⟨List.Subset.trans (sortShort_subset less _) (List.take_subset _ _),
      List.drop_subset _ _⟩
  · exact ⟨List.take_subset _ _, List.drop_subset _ _⟩

theorem Run.sort_subset (sorts : ∀ list, sortLong list ⊆ list) (run : Run α) :
    run.sort sortLong ⊆ run.items := by
  unfold Run.sort
  split
  · exact List.Subset.refl _
  · exact sorts _

theorem joinRuns_subset (sorts : ∀ list, sortLong list ⊆ list) (left right : Run α) :
    (joinRuns less sortLong left right).items ⊆ left.items ++ right.items := by
  unfold joinRuns
  split
  · refine List.Subset.trans (mergeRuns_subset less _ _) (List.append_subset.mpr ⟨?_, ?_⟩)
    · exact List.Subset.trans (Run.sort_subset sorts left) (List.subset_append_left _ _)
    · exact List.Subset.trans (Run.sort_subset sorts right) (List.subset_append_right _ _)
  · exact List.Subset.refl _

theorem collapse_subset (sorts : ∀ list, sortLong list ⊆ list) (depth : Nat) (run : Run α)
    (before : List (Run α × Nat)) (run_within : run.items ⊆ whole)
    (before_within : ∀ entry ∈ before, entry.1.items ⊆ whole) :
    (collapse less sortLong depth run before).1.items ⊆ whole ∧
      ∀ entry ∈ (collapse less sortLong depth run before).2, entry.1.items ⊆ whole := by
  induction before generalizing run with
  | nil => exact ⟨run_within, before_within⟩
  | cons entry before ih =>
      obtain ⟨left, leftDepth⟩ := entry
      unfold collapse
      split
      · refine ih _ ?_ fun entry listed => before_within entry (List.mem_cons_of_mem _ listed)
        exact List.Subset.trans (joinRuns_subset less sorts left run)
          (List.append_subset.mpr ⟨before_within _ List.mem_cons_self, run_within⟩)
      · exact ⟨run_within, before_within⟩

theorem joinAll_subset (sorts : ∀ list, sortLong list ⊆ list) (eager : Bool)
    (total fuel position : Nat) (run : Run α) (before : List (Run α × Nat)) (rest : List α)
    (run_within : run.items ⊆ whole) (before_within : ∀ entry ∈ before, entry.1.items ⊆ whole)
    (rest_within : rest ⊆ whole) :
    (joinAll less eager sortLong total fuel position run before rest).items ⊆ whole := by
  induction fuel generalizing position run before rest with
  | zero => exact (collapse_subset less sorts 0 run before run_within before_within).1
  | succ fuel ih =>
      unfold joinAll
      split
      · exact (collapse_subset less sorts 0 run before run_within before_within).1
      · obtain ⟨next_subset, rest_subset⟩ := firstRun_subset less eager (goodLength total) rest
        have collapsed (depth : Nat) :=
          collapse_subset less sorts depth run before run_within before_within
        refine ih _ _ _ _ (List.Subset.trans next_subset rest_within) ?_
          (List.Subset.trans rest_subset rest_within)
        intro entry listed
        obtain rfl | earlier := List.mem_cons.mp listed
        · exact (collapsed _).1
        · exact (collapsed _).2 entry earlier

theorem sortRuns_subset (sorts : ∀ list, sortLong list ⊆ list) (eager : Bool) (list : List α) :
    sortRuns less eager sortLong list ⊆ list := by
  unfold sortRuns
  obtain ⟨first_subset, rest_subset⟩ :=
    firstRun_subset less eager (goodLength list.length) list
  exact List.Subset.trans (Run.sort_subset sorts _)
    (joinAll_subset less sorts _ _ _ _ _ _ _ first_subset (by simp) rest_subset)

end Joining

/-! ### Long parts without runs -/

theorem divide_subset (test : α → Bool) (atPosition : Bool) (position : Nat) (list : List α) :
    (divide test atPosition position list).1 ⊆ list ∧
      (divide test atPosition position list).2 ⊆ list := by
  have unnumbered : list.zipIdx.map (·.1) = list := List.zipIdx_map_fst 0 list
  unfold divide
  simp only [List.partition_eq_filter_filter]
  constructor
  all_goals
    nth_rewrite 2 [← unnumbered]
    exact List.map_subset _ (List.filter_subset_self _)

theorem sortDivided_subset (fuel limit : Nat) (bound : Option α) (list : List α) :
    sortDivided less fuel limit bound list ⊆ list := by
  induction fuel generalizing limit bound list with
  | zero => exact List.Subset.refl list
  | succ fuel ih =>
      unfold sortDivided
      split
      · exact sortShort_subset less list
      split
      · exact sortRuns_subset less (fun list => List.Subset.refl list) true list
      dsimp only
      split
      · exact List.Subset.refl list
      · rename_i pivot _
        have without_equal := divide_subset (fun x => !less pivot x) true
          (pivotPosition less list.toArray) list
        have put_aside := List.append_subset.mpr
          ⟨without_equal.1, List.Subset.trans (ih (limit - 1) none _) without_equal.2⟩
        split
        · exact put_aside
        · have parts := divide_subset (less · pivot) false (pivotPosition less list.toArray) list
          split
          · exact put_aside
          · exact List.append_subset.mpr
              ⟨List.Subset.trans (ih _ _ _) parts.1, List.Subset.trans (ih _ _ _) parts.2⟩

theorem sortLong_subset (list : List α) : sortLong less list ⊆ list :=
  sortDivided_subset less _ _ none list

/-- Every element of the sorted list is one of the list. -/
theorem sort_subset (list : List α) : sort less list ⊆ list :=
  sortRuns_subset less (sortLong_subset less) _ list

end RunSort
end WebDispatch
