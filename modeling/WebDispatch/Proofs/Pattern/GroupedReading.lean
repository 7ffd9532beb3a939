import WebDispatch.Proofs.Pattern.StepAhead

/-!
# Patterns in open groups

A pattern that is read in open groups, with a closing parenthesis and a dollar sign behind it, is
read as it is by itself.  What can go wrong is written out as `State.Outcome`: it may close a group
that it does not open, a comment may go on over the closing, and what is not finished at the end of
the pattern may take parts of the closing.  In the last case no group around it is closed.
-/

namespace WebDispatch
namespace Pattern

namespace State

/-! ### Open groups around a pattern -/

/-- The same place in a pattern that stands in open groups. -/
def within (around : List Group) (state : State) : State :=
  { state with groups := state.groups ++ around }

/-- What is found at a place, in open groups around it. -/
abbrev foundWithin (around : List Group) (found : State × List Char) : State × List Char :=
  (found.1.within around, found.2)

variable {around : List Group} {state : State}

@[simp] theorem within_flags : (state.within around).flags = state.flags := rfl

@[simp] theorem within_level : (state.within around).level = state.level := rfl

theorem push_within (expression : Expression) (depth : Nat) :
    (state.within around).push expression depth = (state.push expression depth).within around :=
  rfl

theorem bind_within {α β : Type} {x : Except String α} {f g : α → Except String β} {h : β → β}
    (same : ∀ a, f a = (g a).map h) : (x >>= f) = (x >>= g).map h := by
  cases x with
  | error e => rfl
  | ok a => exact same a

theorem openNamed_within (s : List Char) :
    (state.within around).openNamed s = (state.openNamed s).map (foundWithin around) := by
  refine bind_within fun found => ?_
  have names_eq : (state.within around).names = state.names := rfl
  dsimp only
  rw [names_eq]
  split <;> rfl

theorem startMarked_within (s : List Char) :
    (state.within around).startMarked s = (state.startMarked s).map (foundWithin around) := by
  unfold startMarked
  split
  · rfl
  · split
    · exact openNamed_within s.tail
    · split
      · exact openNamed_within s.tail.tail
      · refine bind_within fun found => ?_
        dsimp only
        split
        · split <;> rfl
        · rfl

theorem startGroup_within (s : List Char) :
    (state.within around).startGroup s = (state.startGroup s).map (foundWithin around) := by
  rw [startGroup_eq, startGroup_eq, within_flags]
  split
  · exact startMarked_within _
  · rfl

/-- A group that is not one of those around is closed as it is without them. -/
theorem closeGroup_within (inner : state.groups ≠ []) :
    (state.within around).closeGroup = state.closeGroup.map (within around) := by
  obtain ⟨flags, groups, level, count, names⟩ := state
  cases groups with
  | nil => exact (inner rfl).elim
  | cons group groups => rfl

theorem repeated_within (least : Nat) (most : Option Nat) (s : List Char) :
    (state.within around).repeated least most s =
      (state.repeated least most s).map (foundWithin around) :=
  bind_within fun _ => rfl

theorem pushEscape_within (found : Escape) :
    (state.within around).pushEscape found = (state.pushEscape found).map (within around) := by
  cases found with
  | literal c byte => exact bind_within fun _ => rfl
  | set chars => rfl
  | look test => rfl

/-- An element is read in open groups as it is without them, unless it closes one of them. -/
theorem step_within {c : Char} (inner : c = ')' → state.groups ≠ []) (s : List Char) :
    (state.within around).step c s = (state.step c s).map (foundWithin around) := by
  unfold step
  dsimp only
  split
  case h_1 => exact startGroup_within s
  case h_2 =>
    rw [closeGroup_within (inner rfl)]
    cases state.closeGroup <;> rfl
  case h_5 | h_6 | h_7 => exact repeated_within _ _ s
  case h_8 =>
    rw [within_level]
    split
    · rfl
    · exact bind_within fun _ => repeated_within _ _ _
  case h_9 =>
    refine bind_within fun found => ?_
    rw [pushEscape_within]
    cases state.pushEscape found.1 <;> rfl
  case h_4 | h_10 | h_13 => exact bind_within fun _ => rfl
  all_goals rfl

/-! ### Reading to the end -/

/-- What three readings of a pattern make of it: by itself, with the closing behind it, and with the
closing behind it in open groups. -/
inductive Outcome (commented : Prop) (around : List Group) :
    Except String State → Except String State → Except String State → Prop
  /-- The pattern closes a group that it does not open. -/
  | unopened (x y : Except String State) :
      Outcome commented around (.error "unopened group") x y
  /-- The pattern is not read by itself, and not in open groups either. -/
  | error (e f : String) (x : Except String State) :
      Outcome commented around (.error e) x (.error f)
  /-- The pattern is not read by itself.  The closing does not close one of the groups around. -/
  | open_ (e : String) (x : Except String State) {state : State}
      (stays : around <:+ state.groups) : Outcome commented around (.error e) x (.ok state)
  /-- All readings end in the same place: a comment goes on over the closing. -/
  | comment (state : State) (swallowed : commented) :
      Outcome commented around (.ok state) (.ok state) (.ok (state.within around))
  /-- Where the pattern by itself ends, the closing follows. -/
  | closing (state : State) {fuel : Nat} (enough : 2 ≤ fuel) :
      Outcome commented around (.ok state) (readAll fuel state Pattern.closing)
        (readAll fuel (state.within around) Pattern.closing)

theorem readAll_eq (fuel : Nat) (state : State) (s : List Char) :
    readAll (fuel + 1) state s =
      match state.flags.skip s with
      | [] => .ok state
      | c :: rest => state.step c rest >>= fun (state, rest) => readAll fuel state rest := rfl

theorem readAll_nil (fuel : Nat) (state : State) : readAll fuel state [] = .ok state := by
  cases fuel with
  | zero => rfl
  | succ fuel => rw [readAll_eq, Flags.skip_nil]

/-- What does not count in front of a pattern changes nothing. -/
theorem readAll_of_skip {fuel : Nat} {state : State} {s t : List Char}
    (skipped : state.flags.skip s = t) :
    readAll (fuel + 1) state s = readAll (fuel + 1) state t := by
  rw [readAll_eq, readAll_eq, ← skipped, state.flags.skip_skip]

/-- Fuel for every character is enough. -/
theorem readAll_enough {fuel more : Nat} {state : State} {s : List Char}
    (enough : s.length ≤ fuel) (enough_more : s.length ≤ more) :
    readAll fuel state s = readAll more state s := by
  induction fuel generalizing more state s with
  | zero =>
      obtain rfl := List.eq_nil_of_length_eq_zero (Nat.le_zero.1 enough)
      rw [readAll_nil, readAll_nil]
  | succ fuel ih =>
      have short := state.flags.length_skip_le s
      cases more with
      | zero =>
          obtain rfl := List.eq_nil_of_length_eq_zero (Nat.le_zero.1 enough_more)
          rw [readAll_nil, readAll_nil]
      | succ more =>
          rw [readAll_eq, readAll_eq]
          cases skip_s : state.flags.skip s with
          | nil => rfl
          | cons c rest =>
              rw [skip_s, List.length_cons] at short
              dsimp only
              cases read : state.step c rest with
              | error e => rfl
              | ok found =>
                  have shorter := ((state.persists_step c).suffix read).length_le
                  exact ih (by omega) (by omega)

/-- What is left of the closing behind its parenthesis changes nothing about the open groups. -/
theorem readAll_inside (fuel : Nat) (state : State) {s : List Char} (inside : s <:+ ['$']) :
    ∃ last, readAll fuel state s = .ok last ∧ last.groups = state.groups := by
  obtain _ | fuel := fuel
  · exact ⟨state, rfl, rfl⟩
  · obtain rfl | rfl : s = ['$'] ∨ s = [] := by
      simpa [List.suffix_cons_iff] using inside
    · refine ⟨state.push (.look (endLook state.flags)) 0, ?_, rfl⟩
      rw [readAll_eq, state.flags.skip_dollar]
      exact readAll_nil fuel _
    · exact ⟨state, readAll_nil _ state, rfl⟩

/-- The closing closes a group, and appends a test to what stands around it. -/
theorem readAll_closing (fuel : Nat) (state : State) :
    readAll (fuel + 2) state Pattern.closing =
      state.closeGroup.map fun closed => closed.push (.look (endLook closed.flags)) 0 := by
  have parenthesis :
      state.step ')' ['$'] = state.closeGroup >>= fun closed => .ok (closed, ['$']) :=
    rfl
  rw [readAll_eq, state.flags.skip_closing]
  show (state.step ')' ['$'] >>= _) = _
  rw [parenthesis]
  cases state.closeGroup with
  | error e => rfl
  | ok closed =>
      show readAll (fuel + 1) closed ['$'] = _
      rw [readAll_eq, closed.flags.skip_dollar]
      exact readAll_nil fuel _

/-- The closing does not bound a repetition. -/
theorem readAll_brace (fuel : Nat) (state : State) (test : Look) {s : List Char}
    (stands : state.flags.skip s = Pattern.closing) :
    ∃ e, readAll (fuel + 1) (state.push (.look test) 0) ('\x7b' :: s) = .error e := by
  have bounds_eq : bounds state.flags s =
      .error "repetition quantifier expects a valid decimal" := by
    unfold bounds
    dsimp only
    rw [stands, count_closing]
    rfl
  refine ⟨"repetition quantifier expects a valid decimal", ?_⟩
  have stays : (state.push (.look test) 0).flags.skip ('\x7b' :: s) = '\x7b' :: s :=
    Flags.skip_cons _ (by decide) (by decide) s
  have step_eq : (state.push (.look test) 0).step '\x7b' s =
      bounds state.flags s >>= fun found =>
        (state.push (.look test) 0).repeated found.1.1 found.1.2 (state.flags.skip found.2) := rfl
  rw [readAll_eq, stays]
  dsimp only
  rw [step_eq, bounds_eq]
  rfl

/-- A pattern that is not finished at its end may take a part of the closing, but no group around it
is closed. -/
theorem Outcome.of_stalls {commented : Prop} {around : List Group} {state found : State}
    {left : List Char} (stalls : state.StepStalls found left) (fuel : Nat) (e : String)
    (x : Except String State) :
    Outcome commented around (.error e) x (readAll (fuel + 1) (found.within around) left) := by
  obtain inside | ⟨test, text, rfl, rfl, stands⟩ := stalls
  · obtain ⟨last, read, groups_eq⟩ := readAll_inside (fuel + 1) (found.within around) inside
    rw [read]
    exact .open_ e x (groups_eq ▸ List.suffix_append _ _)
  · obtain ⟨f, read⟩ := readAll_brace fuel (state.within around) test stands
    rw [← push_within, read]
    exact .error e f x

theorem readAll_outcome (commented : Prop) (around : List Group) {fuel more : Nat} (state : State)
    {s t : List Char} (extends_ : Extends commented s t) (enough : s.length ≤ fuel)
    (enough_more : s.length + 2 ≤ more) :
    Outcome commented around (readAll fuel state s) (readAll more state t)
      (readAll more (state.within around) t) := by
  induction fuel generalizing more state s t with
  | zero =>
      obtain rfl := List.eq_nil_of_length_eq_zero (Nat.le_zero.1 enough)
      obtain ⟨more, rfl⟩ := Nat.exists_eq_add_of_le' enough_more
      cases extends_ with
      | nil swallowed =>
          rw [readAll_nil, readAll_nil, readAll_nil]
          exact .comment state swallowed
      | closing => exact .closing state enough_more
  | succ fuel ih =>
      obtain ⟨more, rfl⟩ :=
        Nat.exists_eq_add_of_le' (Nat.le_trans (Nat.le_add_left 2 _) enough_more)
      have short := state.flags.length_skip_le s
      have skipped := extends_.skip state.flags
      have skip_within : (state.within around).flags.skip t = state.flags.skip t := rfl
      generalize skip_s : state.flags.skip s = u, skip_t : state.flags.skip t = v at skipped short
      cases skipped with
      | nil swallowed =>
          rw [readAll_of_skip skip_s, readAll_of_skip skip_t,
            readAll_of_skip (skip_within.trans skip_t), readAll_nil, readAll_nil, readAll_nil]
          exact .comment state swallowed
      | closing =>
          rw [readAll_of_skip skip_s, readAll_of_skip skip_t,
            readAll_of_skip (skip_within.trans skip_t), readAll_nil]
          exact .closing state (Nat.le_add_left 2 more)
      | @cons c u v rest plain =>
          simp only [List.length_cons] at short
          rw [readAll_eq, readAll_eq, readAll_eq, within_flags, skip_s, skip_t]
          dsimp only
          by_cases inner : c = ')' → state.groups ≠ []
          · rw [step_within inner]
            have agree := state.persists_step c rest
            generalize state.step c u = x, state.step c v = y at agree
            cases agree with
            | @ok found left left_more others suffix =>
                have shorter := suffix.length_le
                show Outcome commented around (readAll fuel found left)
                  (readAll (more + 1) found left_more)
                  (readAll (more + 1) (found.within around) left_more)
                exact ih found others (by omega) (by omega)
            | error e f => exact .error e f _
            | @only e found left stalls => exact .of_stalls stalls more e _
          · obtain ⟨rfl, none⟩ : c = ')' ∧ state.groups = [] := by simpa using inner
            have closed : state.step ')' u = .error "unopened group" := by
              simp [step, closeGroup, none, Bind.bind, Except.bind]
            rw [closed]
            exact .unopened _ _

end State
end Pattern
end WebDispatch
