import WebDispatch.Pattern.Size

/-!
# Room for automata

Building an automaton fails only where it becomes too large, so it succeeds if there is room for all
that may be added.  The room of each part is bounded by the part alone, although states for a set of
characters are shared as far as they are known: a state that waits for its followers brings the room
for them along.
-/

namespace WebDispatch
namespace Build

open Extent (stateRoom branchRoom rangeRoom)

variable {α β : Type}

/-- Given some room, building succeeds and leaves part of it, which may depend on the result. -/
def Leaves (build : Build α) (room : Nat) (left : α → Nat) : Prop :=
  ∀ before : Extent, before.room + room ≤ Extent.maxRoom →
    ∃ result after, build.run before = some (result, after) ∧
      after.room + left result ≤ before.room + room

/-- Given some room, building succeeds. -/
def Takes (build : Build α) (room : Nat) : Prop := Leaves build room fun _ => 0

/-! ### Building step by step -/

section Steps

variable {build : Build α} {next : α → Build β} {room more : Nat}

/-- What the first step leaves, and more, is there for the second one. -/
theorem Leaves.bind {left : α → Nat} {last : β → Nat} (first : Leaves build room left)
    (second : ∀ result, Leaves (next result) (left result + more) last) :
    Leaves (build >>= next) (room + more) last := by
  intro before inside
  obtain ⟨result, middle, first_eq, spent⟩ := first before (by omega)
  obtain ⟨final, after, second_eq, spent_again⟩ := second result middle (by omega)
  refine ⟨final, after, ?_, by omega⟩
  rw [StateT.run_bind, first_eq]
  exact second_eq

theorem Takes.bind (first : Takes build room) (second : ∀ result, Takes (next result) more) :
    Takes (build >>= next) (room + more) :=
  Leaves.bind first fun result => (Nat.zero_add more).symm ▸ second result

theorem Takes.mono (takes : Takes build room) (enough : room ≤ more) : Takes build more := by
  intro before inside
  obtain ⟨result, after, run_eq, spent⟩ := takes before (by omega)
  exact ⟨result, after, run_eq, by omega⟩

theorem leaves_pure {left : α → Nat} {result : α} (enough : left result ≤ room) :
    Leaves (pure result) room left :=
  fun before _ => ⟨result, before, rfl, Nat.add_le_add_left enough _⟩

theorem takes_pure (result : α) : Takes (pure result) 0 := leaves_pure (Nat.le_refl 0)

theorem Takes.isSome (takes : Takes build Extent.maxRoom) :
    (build.run ⟨0, 0⟩).isSome = true := by
  obtain ⟨result, after, run_eq, -⟩ := takes ⟨0, 0⟩ (by simp [Extent.room])
  rw [run_eq]
  rfl

end Steps

theorem takes_grow (states lists : Nat) :
    Takes (grow states lists) (states * stateRoom + lists) := by
  intro before inside
  have room_eq : (⟨before.states + states, before.lists + lists⟩ : Extent).room =
      before.room + (states * stateRoom + lists) := by
    simp only [Extent.room, Nat.add_mul]
    omega
  rw [← room_eq] at inside ⊢
  exact ⟨(), _, if_pos inside, Nat.le_refl _⟩

theorem takes_state (lists : Nat) : Takes (state lists) (stateRoom + lists) := by
  intro before inside
  obtain ⟨_, after, grow_eq, spent⟩ := (takes_grow 1 lists).mono (by omega) before inside
  refine ⟨before.states, after, ?_, spent⟩
  change ((grow 1 lists).run before >>= fun grown => some (before.states, grown.2)) = _
  rw [grow_eq]
  rfl

theorem takes_link (branch : Bool) : Takes (link branch) branchRoom :=
  (takes_grow 0 _).mono (by cases branch <;> simp)

/-! ### Sets of characters -/

/-- A state that may be known takes no more room than a new one. -/
theorem takes_shared (memory : Memory) (followers : List Nat) (lists : Nat) :
    Takes (shared memory followers lists) (stateRoom + lists) := by
  unfold shared
  split
  · exact (takes_pure _).mono (Nat.zero_le _)
  · exact (takes_state lists).bind fun _ => takes_pure _

/-- The room of a draft once it is finished.  The three numbers of a range take three bytes each,
which is more than an entry. -/
def Draft.room (draft : Draft) : Nat := stateRoom + 3 * (draft.close 0).length

/-- The room of some drafts. -/
def draftsRoom : List Draft → Nat
  | [] => 0
  | draft :: drafts => draft.room + draftsRoom drafts

theorem draftsRoom_append (front back : List Draft) :
    draftsRoom (front ++ back) = draftsRoom front + draftsRoom back := by
  induction front with
  | nil => exact (Nat.zero_add _).symm
  | cons draft front ih => rw [List.cons_append, draftsRoom, draftsRoom, ih, Nat.add_assoc]

theorem Draft.length_close (draft : Draft) (follower : Nat) :
    (draft.close follower).length = (draft.close 0).length := by
  unfold close
  split <;> simp

theorem Draft.length_followers_le (draft : Draft) :
    draft.followers.length ≤ (draft.close 0).length := by
  unfold close
  split <;> simp

theorem Draft.room_closed (draft : Draft) (follower : Nat) :
    room ⟨draft.close follower, none⟩ = draft.room :=
  congrArg (stateRoom + 3 * ·) (draft.length_close follower)

/-- Drafts are finished with the room they bring along. -/
theorem leaves_finish (memory : Memory) (follower count : Nat) (drafts : List Draft) :
    Leaves (finish memory follower count drafts) (draftsRoom drafts)
      fun finished => draftsRoom finished.1 := by
  induction count generalizing memory follower drafts with
  | zero =>
      cases drafts with
      | nil => exact leaves_pure (Nat.le_refl _)
      | cons draft drafts =>
          rw [draftsRoom, ← draft.room_closed follower, ← draftsRoom]
          exact leaves_pure (Nat.le_refl _)
  | succ count ih =>
      cases drafts with
      | nil => exact leaves_pure (Nat.le_refl _)
      | cons draft drafts =>
          have enough :
              stateRoom + (draft.close follower).length / 3 * rangeRoom ≤ draft.room := by
            rw [Draft.room, draft.length_close, rangeRoom]
            omega
          refine Leaves.bind ((takes_shared _ _ _).mono enough) fun found => ?_
          rw [Nat.zero_add]
          exact ih _ _ _

theorem draftsRoom_waiting (ranges : List Text.ByteRange) :
    draftsRoom (ranges.map fun range => ⟨[], some range⟩).reverse =
      ranges.length * (stateRoom + 9) := by
  induction ranges with
  | nil => exact (Nat.zero_mul _).symm
  | cons range ranges ih =>
      rw [List.map_cons, List.reverse_cons, draftsRoom_append, ih, List.length_cons,
        Nat.add_one_mul ranges.length]
      rfl

/-- A new state waits for each range but the first one, which the last state waits for. -/
theorem draftsRoom_extend (ranges : List Text.ByteRange) (drafts : List Draft) :
    draftsRoom (extend ranges drafts) ≤ draftsRoom drafts + ranges.length * (stateRoom + 9) := by
  rcases drafts with _ | ⟨draft, drafts⟩
  · exact Nat.zero_le _
  have open_le : stateRoom + 3 * draft.followers.length ≤ draft.room :=
    Nat.add_le_add_left (Nat.mul_le_mul_left 3 draft.length_followers_le) _
  rcases ranges with _ | ⟨range, ranges⟩
  · exact Nat.le_add_right_of_le (Nat.add_le_add_right open_le _)
  · have extend_eq : draftsRoom (extend (range :: ranges) (draft :: drafts)) =
        ranges.length * (stateRoom + 9) +
          (stateRoom + 3 * (draft.followers.length + 3) + draftsRoom drafts) := by
      simp only [extend, List.drop_succ_cons, List.drop_zero, draftsRoom_append,
        draftsRoom_waiting, draftsRoom, Draft.room, Draft.close, List.head?_cons,
        List.length_append, List.length_cons, List.length_nil]
    rw [extend_eq, draftsRoom, List.length_cons, Nat.add_one_mul ranges.length]
    omega

theorem three_mul_length_followers_le (drafts : List Draft) :
    3 * (drafts.flatMap (·.followers)).length ≤ draftsRoom drafts := by
  induction drafts with
  | nil => exact Nat.zero_le _
  | cons draft drafts ih =>
      have open_le := draft.length_followers_le
      rw [draftsRoom, Draft.room, List.flatMap_cons, List.length_append]
      omega

/-- The room for sequences of ranges.  Each range takes that of a state and of one entry. -/
def sequencesRoom : List (List Text.ByteRange) → Nat
  | [] => 0
  | ranges :: later => ranges.length * (stateRoom + 9) + branchRoom + sequencesRoom later

/-- Sequences take the room that the drafts bring along, that of their ranges and that of the state
they start from. -/
theorem takes_sequences (target : Nat) (memory : Memory) (drafts : List Draft)
    (sequences : List (List Text.ByteRange)) :
    Takes (Build.sequences target memory drafts sequences)
      (draftsRoom drafts + (sequencesRoom sequences + stateRoom)) := by
  induction sequences generalizing memory drafts with
  | nil =>
      refine Leaves.bind (leaves_finish _ _ _ _) fun (drafts, memory) => ?_
      have followers_le := three_mul_length_followers_le drafts
      refine ((takes_shared _ _ _).bind fun _ => takes_pure ()).mono ?_
      rw [rangeRoom]
      dsimp only
      omega
  | cons ranges later ih =>
      refine Leaves.bind (leaves_finish _ _ _ _) fun (drafts, _) => (ih _ _).mono ?_
      -- However many ranges the drafts share with the sequence, the others bring their room along.
      generalize commonLength _ _ = common
      have extend_le := draftsRoom_extend (ranges.drop common) drafts
      have drop_le : (ranges.drop common).length * (stateRoom + 9) ≤
          ranges.length * (stateRoom + 9) :=
        Nat.mul_le_mul_right _ (by simp)
      rw [sequencesRoom]
      dsimp only
      omega

theorem takes_backwardSequence (memory : Memory) (follower : Nat)
    (ranges : List Text.ByteRange) :
    Takes (backwardSequence memory follower ranges)
      (ranges.length * (stateRoom + 9) + branchRoom) := by
  induction ranges generalizing memory follower with
  | nil => exact ((takes_link true).bind fun _ => takes_pure _).mono (by simp)
  | cons range ranges ih =>
      refine ((takes_shared memory _ 0).bind fun found => ih _ _).mono ?_
      rw [List.length_cons, Nat.add_one_mul ranges.length]
      omega

theorem takes_backwardSequences (target : Nat) (memory : Memory)
    (sequences : List (List Text.ByteRange)) :
    Takes (backwardSequences target memory sequences) (sequencesRoom sequences) := by
  induction sequences generalizing memory with
  | nil => exact takes_pure _
  | cons ranges later ih => exact (takes_backwardSequence _ _ _).bind fun memory => ih _

/-- The room for a set of characters. -/
def setRoom (chars : CharSet) : Nat :=
  if chars.isAscii then 2 * stateRoom + chars.ranges.length * rangeRoom
  else sequencesRoom (encodings chars) + 3 * stateRoom

theorem takes_set (backward : Bool) (chars : CharSet) :
    Takes (set backward chars) (setRoom chars) := by
  unfold set setRoom
  split
  · exact takes_grow _ _
  · split
    · refine ((takes_grow 1 0).bind fun _ => (takes_state 0).bind fun target =>
        takes_backwardSequences _ _ _).mono ?_
      omega
    · have fresh_eq : draftsRoom [⟨[], none⟩] = stateRoom := rfl
      refine ((takes_state 0).bind fun target => takes_sequences _ _ _ _).mono ?_
      omega

/-! ### Repetitions -/

section Repetitions

variable {part : Build Bool} {partRoom : Nat}

/-- The room for a part that is repeated.  Beside each copy there may be a branch that leaves it
out. -/
def repetitionRoom (partRoom least : Nat) (most : Option Nat) : Nat :=
  (least + most.getD 1) * (partRoom + stateRoom + 3 * branchRoom) + 3 * stateRoom + 4 * branchRoom

theorem takes_copies (takes : Takes part partRoom) (count : Nat) :
    Takes (copies part count) (count * (partRoom + branchRoom) + stateRoom) := by
  induction count with
  | zero => exact ((takes_grow 1 0).bind fun _ => takes_pure _).mono (by simp)
  | succ count ih =>
      rcases count with _ | count
      · exact takes.mono (by omega)
      · refine (takes.bind fun branch => (takes_link branch).bind fun _ => ih).mono ?_
        rw [Nat.add_one_mul (count + 1)]
        omega

theorem takes_optionals (takes : Takes part partRoom) (branch : Bool) (count : Nat) :
    Takes (optionals part branch count)
      (count * (partRoom + stateRoom + 3 * branchRoom) + branchRoom) := by
  induction count generalizing branch with
  | zero => exact (takes_link branch).mono (by omega)
  | succ count ih =>
      refine ((takes_grow 1 0).bind fun _ => takes.bind fun next => (takes_link branch).bind
        fun _ => (takes_grow 0 (2 * branchRoom)).bind fun _ => ih next).mono ?_
      rw [Nat.add_one_mul count]
      omega

/-- A repetition takes the room of all copies that it may be made of. -/
theorem takes_repetition (takes : Takes part partRoom) (takesSome : Bool) (least : Nat)
    (most : Option Nat) :
    Takes (repetition part takesSome least most) (repetitionRoom partRoom least most) := by
  have copies_le : least * (partRoom + branchRoom) ≤
      least * (partRoom + stateRoom + 3 * branchRoom) :=
    Nat.mul_le_mul_left least (by omega)
  unfold repetition repetitionRoom
  split
  -- Any number of times
  · split
    · refine ((takes_grow 1 0).bind fun _ => takes.bind fun branch => (takes_link branch).bind
        fun _ => (takes_grow 0 branchRoom).bind fun _ => takes_pure true).mono ?_
      rw [Option.getD_none, Nat.zero_add, Nat.one_mul]
      omega
    · refine (takes.bind fun branch => (takes_link branch).bind fun _ =>
        (takes_grow 3 (4 * branchRoom)).bind fun _ => takes_pure false).mono ?_
      rw [Option.getD_none, Nat.zero_add, Nat.one_mul]
      omega
  -- At least some times
  · refine ((takes_copies takes least).bind fun branch => (takes_link branch).bind fun _ =>
      (takes_grow 1 branchRoom).bind fun _ => takes_pure true).mono ?_
    rw [Option.getD_none, Nat.add_one_mul least]
    omega
  -- At most once
  · refine ((takes_grow 1 0).bind fun _ => takes.bind fun branch => (takes_link branch).bind
      fun _ => (takes_grow 1 (2 * branchRoom)).bind fun _ => takes_pure false).mono ?_
    rw [Option.getD_some, Nat.zero_add, Nat.one_mul]
    omega
  -- Up to some times
  case h_4 _ most _ =>
    have optional_le : (most - least) * (partRoom + stateRoom + 3 * branchRoom) ≤
        most * (partRoom + stateRoom + 3 * branchRoom) :=
      Nat.mul_le_mul_right _ (Nat.sub_le most least)
    have enough : least * (partRoom + branchRoom) + stateRoom +
        ((most - least) * (partRoom + stateRoom + 3 * branchRoom) + branchRoom + stateRoom) ≤
          (least + most) * (partRoom + stateRoom + 3 * branchRoom) + 3 * stateRoom +
            4 * branchRoom := by
      rw [Nat.add_mul least]
      omega
    refine ((takes_copies takes least).bind fun branch => ?_).mono enough
    split
    · exact (takes_pure branch).mono (Nat.zero_le _)
    · refine ((takes_grow 1 0).bind fun _ => (takes_optionals takes branch _).bind fun _ =>
        takes_pure false).mono ?_
      omega

end Repetitions

end Build

namespace Expression

open Build (Takes takes_grow takes_link takes_pure)
open Extent (stateRoom branchRoom rangeRoom)

mutual

/-- Room enough for the states of an expression. -/
def room (backward : Bool) : Expression → Nat
  | empty => stateRoom
  | literal text => (bytes text).length * stateRoom
  | set chars => Build.setRoom chars
  | look _ => stateRoom
  | repeated body least most _ => Build.repetitionRoom (body.room backward) least most
  | group _ _ body => body.room backward + 2 * stateRoom + branchRoom
  | sequence members => membersRoom backward members
  | choice alternatives =>
      match alternatives.mapM literal? with
      | some texts =>
          let ordered := texts.map fun text =>
            if backward then (bytes text).reverse else bytes text
          let extent := (ordered.foldl (fun t text => t.insert text) Build.Trie.leaf).extent
          (extent.states + 1) * stateRoom + extent.lists
      | none => membersRoom backward alternatives

/-- Room enough for expressions that follow each other or are alternatives, with the branches
between them. -/
def membersRoom (backward : Bool) : List Expression → Nat
  | [] => stateRoom
  | e :: rest => e.room backward + 2 * stateRoom + 2 * branchRoom + membersRoom backward rest

end

theorem membersRoom_cons (backward : Bool) (e : Expression) (rest : List Expression) :
    membersRoom backward (e :: rest) =
      e.room backward + 2 * stateRoom + 2 * branchRoom + membersRoom backward rest := by
  rw [membersRoom]

mutual

/-- Building an expression takes its room at most, in either direction. -/
theorem takes_build (backward : Bool) (e : Expression) :
    Takes (e.build backward) (e.room backward) := by
  cases e with
  | empty | look =>
      rw [build, room]
      exact ((takes_grow 1 0).bind fun _ => takes_pure false).mono (by omega)
  | literal text =>
      rw [build, room]
      exact ((takes_grow _ 0).bind fun _ => takes_pure false).mono (Nat.le_refl _)
  | set chars =>
      rw [build, room]
      exact (Build.takes_set backward chars).bind fun _ => takes_pure false
  | repeated body least most _ =>
      rw [build, room]
      exact Build.takes_repetition (takes_build backward body) _ least most
  | group number name body =>
      have body_takes := takes_build backward body
      rw [build, room]
      split
      · exact body_takes.mono (by omega)
      · refine ((takes_grow 1 0).bind fun _ => body_takes.bind fun branch =>
          (takes_link branch).bind fun _ => (takes_grow 1 0).bind fun _ =>
            takes_pure false).mono ?_
        omega
  | sequence members =>
      rw [build, room]
      cases backward with
      | false => exact takes_buildAll members
      | true => exact takes_buildBackwards members
  | choice alternatives =>
      rw [build, room]
      rcases alternatives.mapM literal? with _ | texts
      · exact (takes_buildAny backward alternatives 0).bind fun _ => takes_pure false
      · exact ((takes_grow _ _).bind fun _ => takes_pure false).mono (Nat.le_refl _)

theorem takes_buildAll (members : List Expression) :
    Takes (buildAll members) (membersRoom false members) := by
  match members with
  | [] =>
      refine ((takes_grow 1 0).bind fun _ => takes_pure false).mono ?_
      rw [membersRoom]
      omega
  | [e] =>
      refine (takes_build false e).mono ?_
      rw [membersRoom_cons]
      omega
  | e :: next :: later =>
      refine ((takes_build false e).bind fun branch => (takes_link branch).bind fun _ =>
        takes_buildAll (next :: later)).mono ?_
      rw [membersRoom_cons false e]
      omega

theorem takes_buildBackwards (members : List Expression) :
    Takes (buildBackwards members) (membersRoom true members) := by
  match members with
  | [] =>
      refine ((takes_grow 1 0).bind fun _ => takes_pure false).mono ?_
      rw [membersRoom]
      omega
  | [e] =>
      refine (takes_build true e).mono ?_
      rw [membersRoom_cons]
      omega
  | e :: next :: later =>
      refine ((takes_buildBackwards (next :: later)).bind fun branch =>
        (takes_link branch).bind fun _ => takes_build true e).mono ?_
      rw [membersRoom_cons true e]
      omega

theorem takes_buildAny (backward : Bool) (alternatives : List Expression) (before : Nat) :
    Takes (buildAny backward alternatives before) (membersRoom backward alternatives) := by
  match alternatives with
  | [] => exact (takes_pure ()).mono (Nat.zero_le _)
  | e :: later =>
      have between_le : (if before = 1 then 2 else 0) * stateRoom ≤ 2 * stateRoom :=
        Nat.mul_le_mul_right stateRoom (by split <;> decide)
      refine ((takes_build backward e).bind fun branch => (takes_link branch).bind fun _ =>
        (takes_grow _ branchRoom).bind fun _ =>
          takes_buildAny backward later (before + 1)).mono ?_
      rw [membersRoom_cons]
      omega

end

/-- Room enough for the automaton of an expression, with a loop over all bytes before it. -/
def wholeRoom (backward : Bool) (e : Expression) : Nat :=
  e.room backward + 6 * stateRoom + rangeRoom + 3 * branchRoom

/-- The room of the whole automaton covers the loop before the expression, the group around it and
the state behind it. -/
theorem takes_buildWhole (backward : Bool) (e : Expression) :
    Takes (e.buildWhole backward) (e.wholeRoom backward) := by
  have behind_loop : Takes
      (if backward then do
        Build.link (← e.build backward)
        Build.grow 1 0
      else do
        let _ ← (group 0 none e).build backward
        Build.grow 1 0)
      (e.room backward + 3 * stateRoom + branchRoom) := by
    split
    · refine ((takes_build backward e).bind fun branch => (takes_link branch).bind fun _ =>
        takes_grow 1 0).mono ?_
      omega
    · refine ((takes_build backward (group 0 none e)).bind fun _ => takes_grow 1 0).mono ?_
      rw [room]
      omega
  unfold buildWhole wholeRoom
  rcases e.isAnchored backward _
  · refine ((takes_grow 3 _).bind fun _ => behind_loop).mono ?_
    omega
  · refine ((takes_grow 1 0).bind fun _ => behind_loop).mono ?_
    omega

/-- An expression fits if there is room enough for its automata in both directions. -/
theorem fits_of_wholeRoom_le {e : Expression}
    (small : ∀ backward, e.wholeRoom backward ≤ Extent.maxRoom) : e.fits = true := by
  have built (backward : Bool) : ((e.buildWhole backward).run ⟨0, 0⟩).isSome = true :=
    ((takes_buildWhole backward e).mono (small backward)).isSome
  rw [fits, built, built]
  rfl

end Expression
end WebDispatch
