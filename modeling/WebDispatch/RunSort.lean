import WebDispatch.Ranked

/-!
# Sorting by runs

A stable sort for long lists.  Short runs are sorted by themselves, long runs are found or sorted by
parts, and runs are merged two by two.

Where the test orders all elements, the result is the list that every stable sort gives.  Where some
elements compare with no others, as a number does that is none, the result depends on which elements
are compared, and that is laid down here.
-/

namespace WebDispatch
namespace RunSort

variable {α : Type} (less : α → α → Bool)

/-! ### Merging -/

/-- Merge two runs from their starts. -/
def mergeForward (left right : List α) : List α := left.merge right fun a b => !less b a

/-- Merge two runs from their ends. -/
def mergeBackward (left right : List α) : List α :=
  (right.reverse.merge left.reverse fun b a => !less b a).reverse

/-- Merge two runs from the side of the shorter one. -/
def mergeRuns (left right : List α) : List α :=
  if left.length ≤ right.length then mergeForward less left right
  else mergeBackward less left right

/-- Merge two halves from both sides at once.  If there is an element between what the sides take,
it is the next one of the left half, or else of the right half. -/
def mergeHalves (left right : List α) : List α :=
  let half := left.length
  let left' := left.map (·, true)
  let right' := right.map (·, false)
  let less' (a b : α × Bool) := less a.1 b.1
  let front := (mergeForward less' left' right').take half
  let back := ((mergeBackward less' left' right').reverse.take half).reverse
  let taken := front.countP (·.2)
  let middle :=
    if right.length = half then []
    else if taken + back.countP (·.2) < half then left[taken]?.toList
    else right[half - taken]?.toList
  front.map (·.1) ++ middle ++ back.map (·.1)

/-! ### Short runs -/

/-- Insert elements behind a run, each in front of those in a row that it is less than. -/
def insertAll (run more : List α) : List α :=
  let insert (sorted : List α) (x : α) := insertRanked (fun y x => !less x y) x sorted
  (more.foldl insert run.reverse).reverse

/-- Sort four elements by five comparisons. -/
def sortFour (w x y z : α) : List α :=
  let (a, b) := if less x w then (x, w) else (w, x)
  let (c, d) := if less z y then (z, y) else (y, z)
  let low := less c a
  let high := less d b
  let first := if low then c else a
  let last := if high then b else d
  let left := if low then a else if high then c else b
  let right := if high then d else if low then b else c
  if less right left then [first, right, left, last] else [first, left, right, last]

/-- Sort half of a short run. -/
def sortHalf (byFour : Bool) : List α → List α
  | w :: x :: y :: z :: rest =>
      if byFour then insertAll less (sortFour less w x y z) rest
      else insertAll less [] (w :: x :: y :: z :: rest)
  | half => insertAll less [] half

/-- The length of the runs that are sorted by themselves. -/
def shortLength : Nat := 32

/-- Sort a short run. -/
def sortShort (run : List α) : List α :=
  if run.length < 2 then run
  else
    let byFour := decide (8 ≤ run.length)
    mergeHalves less (sortHalf less byFour (run.take (run.length / 2)))
      (sortHalf less byFour (run.drop (run.length / 2)))

/-! ### Runs and the order of their merges -/

/-- A part of a list. -/
structure Run (α : Type) where
  /-- The elements of the part. -/
  items : List α
  /-- Whether it is sorted. -/
  sorted : Bool

/-- How many elements in front are in order after the first one, rising or falling. -/
def orderedLength (falling : Bool) : α → List α → Nat
  | _, [] => 0
  | x, y :: rest => if less y x == falling then orderedLength falling y rest + 1 else 0

/-- The length of the run in front of a list, and whether it is falling. -/
def existing : List α → Nat × Bool
  | x :: y :: rest =>
      let falling := less y x
      (orderedLength less falling y rest + 2, falling)
  | list => (list.length, false)

/-- The length from which a run that is found is taken as it is. -/
def goodLength (total : Nat) : Nat :=
  if total ≤ 4096 then min (total - total / 2) 64
  else
    let root := 1 <<< ((1 + total.log2) / 2)
    (root + total / root) / 2

/-- The first run of a list, and the rest.  Where none is found, an `eager` sort sorts one at once,
and another one leaves it to be sorted later. -/
def firstRun (eager : Bool) (good : Nat) (list : List α) : Run α × List α :=
  let (length, falling) := existing less list
  if good ≤ length then
    let items := list.take length
    (⟨if falling then items.reverse else items, true⟩, list.drop length)
  else if eager then (⟨sortShort less (list.take shortLength), true⟩, list.drop shortLength)
  else (⟨list.take good, false⟩, list.drop good)

/-- How deep the merge of two neighbours lies in a balanced tree over the whole list. -/
def mergeDepth (total start middle stop : Nat) : Nat :=
  let scale := (0x4000000000000000 + total - 1) / total
  let differing := (scale * (start + middle)) ^^^ (scale * (middle + stop))
  if differing = 0 then 64 else 63 - differing.log2

/-- The sorted form of a run. -/
def Run.sort (sortLong : List α → List α) (run : Run α) : List α :=
  if run.sorted then run.items else sortLong run.items

/-- Put two neighbours together, and merge them if one of them is sorted. -/
def joinRuns (sortLong : List α → List α) (left right : Run α) : Run α :=
  if left.sorted || right.sorted then
    ⟨mergeRuns less (left.sort sortLong) (right.sort sortLong), true⟩
  else ⟨left.items ++ right.items, false⟩

/-- Join a run with those before it whose merges lie at least as deep. -/
def collapse (sortLong : List α → List α) (depth : Nat) (run : Run α) :
    List (Run α × Nat) → Run α × List (Run α × Nat)
  | [] => (run, [])
  | (left, leftDepth) :: before =>
      if depth ≤ leftDepth then collapse sortLong depth (joinRuns less sortLong left run) before
      else (run, (left, leftDepth) :: before)

/-- Divide the rest of a list, from `position` on, into runs and join them with `run` and the runs
before it. -/
def joinAll (eager : Bool) (sortLong : List α → List α) (total : Nat) :
    Nat → Nat → Run α → List (Run α × Nat) → List α → Run α
  | 0, _, run, before, _ => (collapse less sortLong 0 run before).1
  | fuel + 1, position, run, before, rest =>
      if rest.isEmpty then (collapse less sortLong 0 run before).1
      else
        let (next, rest) := firstRun less eager (goodLength total) rest
        let stop := position + next.items.length
        let depth := mergeDepth total (position - run.items.length) position stop
        let (run, before) := collapse less sortLong depth run before
        joinAll eager sortLong total fuel stop next ((run, depth) :: before) rest

/-- Sort a list by its runs. -/
def sortRuns (eager : Bool) (sortLong : List α → List α) (list : List α) : List α :=
  let (run, rest) := firstRun less eager (goodLength list.length) list
  (joinAll less eager sortLong list.length list.length run.items.length run [] rest).sort sortLong

/-! ### Long parts without runs -/

/-- Which of three positions holds the middle element. -/
def median (lessAt : Nat → Nat → Bool) (a b c : Nat) : Nat :=
  let x := lessAt a b
  if x = lessAt a c then (if lessAt b c != x then c else b) else a

/-- Which position holds about the middle of the elements around three positions. -/
def medianOfMany (lessAt : Nat → Nat → Bool) : Nat → Nat → Nat → Nat → Nat → Nat
  | 0, _, a, b, c => median lessAt a b c
  | fuel + 1, width, a, b, c =>
      if width * 8 < 64 then median lessAt a b c
      else
        let part := width / 8
        let inner (p : Nat) := medianOfMany lessAt fuel part p (p + part * 4) (p + part * 7)
        median lessAt (inner a) (inner b) (inner c)

/-- The position of an element to divide a list by. -/
def pivotPosition (items : Array α) : Nat :=
  let lessAt (i j : Nat) : Bool :=
    match items[i]?, items[j]? with
    | some x, some y => less x y
    | _, _ => false
  let part := items.size / 8
  if items.size < 64 then median lessAt 0 (part * 4) (part * 7)
  else medianOfMany lessAt items.size part 0 (part * 4) (part * 7)

/-- Divide a list by a test of its elements, except for the one at `position`. -/
def divide (test : α → Bool) (atPosition : Bool) (position : Nat) (list : List α) :
    List α × List α :=
  let (first, second) := list.zipIdx.partition fun (x, i) =>
    if i = position then atPosition else test x
  (first.map (·.1), second.map (·.1))

/-- Sort a long part by dividing it again and again, at most `limit` times deep.  If the element to
divide by is not above `bound`, the element that the part was divided by before, then what is equal
to it is put aside. -/
def sortDivided : Nat → Nat → Option α → List α → List α
  | 0, _, _, list => list
  | fuel + 1, limit, bound, list =>
      if list.length ≤ shortLength then sortShort less list
      else if limit = 0 then sortRuns less true id list
      else
        let position := pivotPosition less list.toArray
        match list[position]? with
        | none => list
        | some pivot =>
            let (lower, upper) :=
              if bound.any fun b => !less b pivot then ([], list)
              else divide (less · pivot) false position list
            if lower.isEmpty then
              let (equal, above) := divide (fun x => !less pivot x) true position list
              equal ++ sortDivided fuel (limit - 1) none above
            else
              sortDivided fuel (limit - 1) bound lower ++
                sortDivided fuel (limit - 1) (some pivot) upper

/-- Sort a long part. -/
def sortLong (list : List α) : List α :=
  sortDivided less list.length (2 * list.length.log2) none list

/-- Sort a list. -/
def sort (list : List α) : List α :=
  sortRuns less (decide (list.length ≤ 2 * shortLength)) (sortLong less) list

end RunSort
end WebDispatch
