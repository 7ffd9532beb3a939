/-!
# Lists kept in order

Inserting into a list that is in order, behind everything that is not to come later.  Elements that
rank equal stay in the order in which they were inserted.
-/

namespace WebDispatch

/-- Insert an element before the first one that is to come later than it. -/
def insertRanked {α : Type} (later : α → α → Bool) (x : α) : List α → List α
  | [] => [x]
  | y :: rest => if later y x then x :: y :: rest else y :: insertRanked later x rest

theorem insertRanked_perm {α : Type} (later : α → α → Bool) (x : α) (l : List α) :
    (insertRanked later x l).Perm (x :: l) := by
  induction l with
  | nil => exact List.Perm.refl _
  | cons y rest ih =>
      unfold insertRanked
      split
      · exact List.Perm.refl _
      · exact (ih.cons y).trans (List.Perm.swap x y rest)

end WebDispatch
