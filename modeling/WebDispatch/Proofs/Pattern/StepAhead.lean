import WebDispatch.Proofs.Pattern.ClassAhead

/-!
# Reading elements with more behind them

One step of reading a pattern makes of a text what it makes of it with the closing behind it, unless
what the step reads is not finished at the end of the text: `State.persists_step`.
-/

namespace WebDispatch
namespace Pattern

variable {commented : Prop} (flags : Flags)

/-! ### Counts -/

theorem persists_count : Persists Never (count flags) := by
  intro commented s t extends_
  have blanks : Extends commented (s.dropWhile Text.isBlank) (t.dropWhile Text.isBlank) :=
    extends_.dropWhile (by decide)
  have digits := (gathers_countDigits flags).sameTaken blanks
    (List.dropWhile_suffix _).length_le (List.dropWhile_suffix _).length_le
  refine Agrees.mono ?_ (List.dropWhile_suffix Text.isBlank)
  unfold count
  generalize countDigits flags s.length _ = x, countDigits flags t.length _ = y at digits
  obtain ⟨taken, left, suffix⟩ := digits
  obtain ⟨digits, u⟩ := x
  obtain ⟨_, v⟩ := y
  cases taken
  have after := (gathers_countBlanks flags).sameTaken left (Nat.le_refl _) (Nat.le_refl _)
  refine Agrees.mono ?_ (after.suffix.trans suffix)
  dsimp only
  split
  · exact .ok none after.extends_ List.suffix_rfl
  · split
    · exact .ok _ after.extends_ List.suffix_rfl
    · exact .error _ _

theorem count_closing : count flags closing = .ok (none, closing) := by
  have dropped : closing.dropWhile Text.isBlank = closing := by decide
  have blanks (fuel : Nat) : countBlanks flags fuel closing = closing :=
    congrArg Prod.snd ((gathers_countBlanks flags).closing fuel)
  unfold count
  rw [dropped, (gathers_countDigits flags).closing]
  dsimp only
  rw [blanks]
  rfl

/-- The brace behind the bounds of a repetition. -/
def closeBounds (least : Nat) (most : Option Nat) (s : List Char) :
    Except String ((Nat × Option Nat) × List Char) :=
  match s with
  | '\x7d' :: rest =>
      if most.all (least ≤ ·) then return ((least, most), rest)
      else .error "invalid repetition count range, the start must be <= the end"
  | _ => .error "unclosed counted repetition"

theorem persists_closeBounds (least : Nat) (most : Option Nat) :
    Persists Never (closeBounds least most) := by
  intro commented s t extends_
  cases extends_ with
  | nil => exact .error _ _
  | closing => exact .error _ _
  | @cons c s t rest =>
      by_cases brace : c = '\x7d'
      · subst brace
        refine Agrees.mono ?_ (List.suffix_cons _ s)
        simp only [closeBounds]
        split
        · exact .ok _ rest List.suffix_rfl
        · exact .error _ _
      · simp only [closeBounds, List.cons.injEq, brace, false_and, imp_self, implies_true]
        exact .error _ _

/-- What follows a comma in the bounds of a repetition. -/
def boundsBehindComma (least : Option Nat) (s : List Char) :
    Except String ((Nat × Option Nat) × List Char) :=
  match flags.skip s with
  | [] => .error "unclosed counted repetition"
  | '\x7d' :: rest => do closeBounds (← needCount least) none ('\x7d' :: rest)
  | rest => do
      let least ← needCount least
      let (most, rest) ← count flags rest
      closeBounds least (some (← needCount most)) rest

theorem persists_boundsBehindComma (least : Option Nat) :
    Persists Never (boundsBehindComma flags least) := by
  intro commented s t extends_
  refine Agrees.mono ?_ (flags.skip_suffix s)
  have skipped := extends_.skip flags
  unfold boundsBehindComma
  generalize flags.skip s = u, flags.skip t = v at skipped
  cases skipped with
  | nil => exact .error _ _
  | closing =>
      refine .of_error _ fun found last read => ?_
      have none_read : count flags [')', '$'] = .ok (none, closing) := count_closing flags
      cases least <;> simp [closing, needCount, none_read, Bind.bind, Except.bind] at read
  | @cons c u v rest plain =>
      by_cases brace : c = '\x7d'
      · subst brace
        cases least with
        | none => exact .error _ _
        | some least => exact persists_closeBounds least none (rest.cons '\x7d' plain)
      · simp only [List.cons.injEq, brace, false_and, imp_self, implies_true]
        cases least with
        | none => exact .error _ _
        | some least =>
            refine (persists_count flags (rest.cons c plain)).bind ?_ fun _ _ here _ _ _ _ => here
            intro most _ rest more extends_
            cases most with
            | none => exact .error _ _
            | some most => exact persists_closeBounds least (some most) extends_

/-- What follows the least count of a repetition. -/
def boundsBehindLeast (least : Option Nat) (s : List Char) :
    Except String ((Nat × Option Nat) × List Char) :=
  match s with
  | [] => .error "unclosed counted repetition"
  | ',' :: rest => boundsBehindComma flags least rest
  | rest => do
      let least ← needCount least
      closeBounds least (some least) rest

theorem persists_boundsBehindLeast (least : Option Nat) :
    Persists Never (boundsBehindLeast flags least) := by
  intro commented s t extends_
  cases extends_ with
  | nil => exact .error _ _
  | closing => cases least <;> exact .error _ _
  | @cons c s t rest plain =>
      by_cases comma : c = ','
      · subst comma
        exact (persists_boundsBehindComma flags least rest).mono (List.suffix_cons _ s)
      · simp only [boundsBehindLeast, List.cons.injEq, comma, false_and, imp_self, implies_true]
        cases least with
        | none => exact .error _ _
        | some least => exact persists_closeBounds least (some least) (rest.cons c plain)

theorem bounds_eq (s : List Char) :
    bounds flags s =
      if (flags.skip s).isEmpty then .error "unclosed counted repetition"
      else count flags (flags.skip s) >>= fun (least, rest) => boundsBehindLeast flags least rest :=
  rfl

theorem persists_bounds : Persists Never (bounds flags) := by
  intro commented s t extends_
  refine Agrees.mono ?_ (flags.skip_suffix s)
  have skipped := extends_.skip flags
  rw [bounds_eq, bounds_eq]
  generalize flags.skip s = u, flags.skip t = v at skipped
  cases skipped with
  | nil => exact .error _ _
  | closing =>
      refine .of_error _ fun found last read => ?_
      rw [count_closing] at read
      cases read
  | @cons c u v rest plain =>
      simp only [List.isEmpty_cons, Bool.false_eq_true, if_false]
      exact (persists_count flags (rest.cons c plain)).bind
        (persists_boundsBehindLeast flags) fun _ _ here _ _ _ _ => here

theorem sameTaken_laziness {s t : List Char} (extends_ : Extends commented s t) :
    SameTaken commented s (laziness s) (laziness t) := by
  cases extends_ with
  | nil swallowed => exact ⟨rfl, .nil swallowed, List.suffix_rfl⟩
  | closing => exact ⟨rfl, .closing, List.suffix_rfl⟩
  | @cons c s t rest plain =>
      by_cases mark : c = '?'
      · subst mark
        exact ⟨rfl, rest, List.suffix_cons _ s⟩
      · simp only [laziness, List.cons.injEq, mark, false_and, imp_self, implies_true]
        exact ⟨rfl, rest.cons c plain, List.suffix_rfl⟩

/-! ### Groups -/

theorem persists_groupName : Persists Never groupName := by
  intro commented s t extends_
  have found := extends_.sameFound_cutAt? (show '>' ∉ closing by decide)
  unfold groupName
  generalize Text.cutAt? '>' s = x, Text.cutAt? '>' t = y at found
  cases found with
  | none => exact .error _ _
  | some name left suffix =>
      refine Agrees.mono ?_ suffix
      cases name with
      | nil => exact .error _ _
      | cons first more =>
          dsimp only
          split
          · exact .ok _ left List.suffix_rfl
          · exact .error _ _

theorem State.persists_openNamed (state : State) : Persists Never state.openNamed := by
  intro commented s t extends_
  unfold openNamed
  refine (persists_groupName extends_).bind ?_ fun _ _ here _ _ _ _ => here
  intro name _ rest more extends_
  dsimp only
  split
  · exact .error _ _
  · exact .ok _ extends_ List.suffix_rfl

/-- What two readings make of the flags of a group: both fail, or only the second one ends them with
the closing, or both end them with the same character. -/
inductive FlagsAgree (commented : Prop) (s : List Char) :
    Except String ((Flags × Bool) × List Char) → Except String ((Flags × Bool) × List Char) → Prop
  | error (e f : String) : FlagsAgree commented s (.error e) (.error f)
  | closing (e : String) (found : Flags × Bool) :
      FlagsAgree commented s (.error e) (.ok (found, closing))
  | ok (found : Flags × Bool) (c : Char) {rest more : List Char}
      (extends_ : Extends commented rest more) (suffix : c :: rest <:+ s) :
      FlagsAgree commented s (.ok (found, c :: rest)) (.ok (found, c :: more))

theorem flagsAgree_groupFlags (on : Bool) (given : List Char) {s t : List Char}
    (extends_ : Extends commented s t) :
    FlagsAgree commented s (groupFlags flags on given s) (groupFlags flags on given t) := by
  induction extends_ generalizing flags on given with
  | nil => exact .error _ _
  | closing =>
      have read : groupFlags flags on given closing =
          if given.head? = some '-' then .error "dangling flag negation operator"
          else .ok ((flags, given.isEmpty), closing) := rfl
      rw [read]
      split
      · exact .error _ _
      · exact .closing _ _
  | @cons c s t rest plain ih =>
      have deeper {x y} (agree : FlagsAgree commented s x y) :
          FlagsAgree commented (c :: s) x y := by
        cases agree with
        | error e f => exact .error e f
        | closing e found => exact .closing e found
        | ok found d others suffix => exact .ok found d others (suffix.trans (List.suffix_cons c s))
      unfold groupFlags
      split
      · split
        · exact .error _ _
        · exact .ok _ c rest List.suffix_rfl
      · split
        · exact .error _ _
        · split
          · exact deeper (ih flags false (c :: given))
          · cases flags.set c on with
            | error e => exact .error e e
            | ok flags => exact deeper (ih flags on (c :: given))

theorem head?_ne {c : Char} {s : List Char} (other : ∀ rest, s = c :: rest → False) :
    s.head? ≠ some c := by
  intro head
  obtain ⟨rest, rfl⟩ := List.head?_eq_some_iff.1 head
  exact other rest rfl

namespace State

variable (state : State)

/-- What stands behind a question mark that an opening parenthesis stands in front of. -/
def startMarked (s : List Char) : Except String (State × List Char) :=
  if s.head? = some '=' ∨ s.head? = some '!' ∨
      s.head? = some '<' ∧ (s.tail.head? = some '=' ∨ s.tail.head? = some '!') then
    .error "look-around, including look-ahead and look-behind, is not supported"
  else if s.head? = some '<' then state.openNamed s.tail
  else if s.head? = some 'P' ∧ s.tail.head? = some '<' then state.openNamed s.tail.tail
  else do
    let ((flags, noFlags), rest) ← groupFlags state.flags true [] s
    match rest with
    | ')' :: rest =>
        if noFlags then .error "repetition operator missing expression"
        else
          let mark : Member := ⟨⟨.empty, 0⟩, false⟩
          let level := { state.level with members := mark :: state.level.members }
          return ({ state with flags, level }, rest)
    | rest => return (state.openGroup flags none, rest.drop 1)

theorem startGroup_eq (s : List Char) :
    state.startGroup s =
      if (state.flags.skip s).head? = some '?' then state.startMarked (state.flags.skip s).tail
      else return (state.openCounted none, state.flags.skip s) := by
  unfold startGroup
  generalize state.flags.skip s = u
  split
  · next rest =>
      rw [List.head?_cons, if_pos rfl, List.tail_cons]
      unfold startMarked
      split
      case h_6 rest notEqual notNot =>
        rw [if_neg (by simp [head?_ne notEqual, head?_ne notNot]), List.head?_cons, if_pos rfl]
        rfl
      case h_7 notEqual notNot _ _ notNamed notShort =>
        have lookBehind := head?_ne notShort
        have named : ¬ (rest.head? = some 'P' ∧ rest.tail.head? = some '<') := by
          rintro ⟨named, opened⟩
          obtain ⟨rest, rfl⟩ := List.head?_eq_some_iff.1 named
          obtain ⟨rest, rfl⟩ := List.head?_eq_some_iff.1 opened
          exact notNamed rest rfl
        have noLook : ¬ (rest.head? = some '=' ∨ rest.head? = some '!' ∨ rest.head? = some '<' ∧
            (rest.tail.head? = some '=' ∨ rest.tail.head? = some '!')) := by
          simp [head?_ne notEqual, head?_ne notNot, lookBehind]
        exact ((if_neg noLook).trans ((if_neg lookBehind).trans (if_neg named))).symm
      all_goals rfl
  · next other => rw [if_neg (head?_ne other)]

theorem persists_startMarked : Persists Inside state.startMarked := by
  intro commented s t extends_
  unfold startMarked
  cases extends_ with
  | nil => exact .error _ _
  | closing => exact .error _ _
  | @cons c s t rest plain =>
      have sameHead (d : Char) (other : d ≠ ')') : t.head? = some d ↔ s.head? = some d :=
        rest.sameHead.eq_some other
      simp only [List.head?_cons, List.tail_cons, Option.some.injEq,
        sameHead '=' (by decide), sameHead '!' (by decide), sameHead '<' (by decide)]
      split
      · exact .error _ _
      · split
        · exact ((state.persists_openNamed rest).weaken fun _ _ => False.elim).mono
            (List.suffix_cons c s)
        · split
          · next named =>
              obtain ⟨u, rfl⟩ := List.head?_eq_some_iff.1 named.2
              cases rest with
              | cons _ rest =>
                  exact ((state.persists_openNamed rest).weaken fun _ _ => False.elim).mono
                    ((List.suffix_cons '<' u).trans (List.suffix_cons c ('<' :: u)))
          · have flags := flagsAgree_groupFlags state.flags true [] (rest.cons c plain)
            generalize groupFlags state.flags true [] (c :: s) = x,
              groupFlags state.flags true [] (c :: t) = y at flags
            cases flags with
            | error e f => exact .error e f
            | closing e found =>
                refine .of_error _ fun set last read => ?_
                obtain ⟨flags, noFlags⟩ := found
                cases noFlags <;> cases read
                exact List.suffix_rfl
            | @ok found d u v others suffix =>
                refine Agrees.mono ?_ ((List.suffix_cons d u).trans suffix)
                obtain ⟨flags, noFlags⟩ := found
                by_cases closed : d = ')'
                · subst closed
                  cases noFlags with
                  | true => exact .error _ _
                  | false => exact .ok _ others List.suffix_rfl
                · simp only [Bind.bind, Except.bind, List.cons.injEq, closed, false_and, imp_self,
                    implies_true, List.drop_succ_cons, List.drop_zero]
                  exact .ok _ others List.suffix_rfl

theorem persists_startGroup : Persists Inside state.startGroup := by
  intro commented s t extends_
  rw [startGroup_eq, startGroup_eq]
  refine Agrees.mono ?_ (state.flags.skip_suffix s)
  have skipped := extends_.skip state.flags
  generalize state.flags.skip s = u, state.flags.skip t = v at skipped
  cases skipped with
  | nil swallowed => exact .ok _ (.nil swallowed) List.suffix_rfl
  | closing => exact .ok _ .closing List.suffix_rfl
  | @cons c u v rest plain =>
      simp only [List.head?_cons, List.tail_cons, Option.some.injEq]
      split
      · exact (state.persists_startMarked rest).mono (List.suffix_cons c u)
      · exact .ok _ (rest.cons c plain) List.suffix_rfl

theorem persists_repeated (least : Nat) (most : Option Nat) :
    Persists Never (state.repeated least most) := by
  intro commented s t extends_
  have mark := sameTaken_laziness extends_
  unfold repeated
  generalize laziness s = x, laziness t = y at mark
  obtain ⟨taken, left, suffix⟩ := mark
  obtain ⟨isLazy, u⟩ := x
  obtain ⟨_, v⟩ := y
  cases taken
  dsimp only
  cases repeatLast state.flags least most isLazy state.level.members with
  | error e => exact .error e e
  | ok members => exact .ok _ left suffix

/-- The reading ends inside the closing, or the last member is a test in front of a brace that only
the closing follows. -/
def StepStalls (found : State) (rest : List Char) : Prop :=
  rest <:+ ['$'] ∨
    ∃ test text, found = state.push (.look test) 0 ∧ rest = '\x7b' :: text ∧
      state.flags.skip text = closing

theorem persists_step (c : Char) : Persists state.StepStalls (state.step c) := by
  have inside {reader : List Char → Except String (State × List Char)}
      (persists : Persists Inside reader) : Persists state.StepStalls reader :=
    fun _ _ _ extends_ => (persists extends_).weaken fun _ _ => .inl
  have never {reader : List Char → Except String (State × List Char)}
      (persists : Persists Never reader) : Persists state.StepStalls reader :=
    fun _ _ _ extends_ => (persists extends_).weaken fun _ _ => False.elim
  unfold step
  intro commented s t extends_
  dsimp only
  split
  case h_1 => exact inside state.persists_startGroup extends_
  case h_2 =>
    cases state.closeGroup with
    | error e => exact .error e e
    | ok closed => exact .ok closed extends_ List.suffix_rfl
  case h_4 =>
    refine (persists_charClass state.flags extends_).bind ?_ fun _ _ here _ _ _ _ => here.elim
    exact fun set => .pure (state.push (.ofSet set.value) set.depth)
  case h_5 | h_6 | h_7 => exact never (state.persists_repeated _ _) extends_
  case h_8 =>
    split
    · exact .error _ _
    · refine (persists_bounds state.flags extends_).bind ?_ fun _ _ here _ _ _ _ => here.elim
      intro counts _ rest more extends_
      exact (never (state.persists_repeated _ _) (extends_.skip state.flags)).mono
        (state.flags.skip_suffix rest)
  case h_9 =>
    refine (persists_escape state.flags extends_).bind ?_ ?_
    · intro found _ rest more extends_
      dsimp only
      cases state.pushEscape found with
      | error e => exact .error e e
      | ok pushed => exact .ok pushed extends_ List.suffix_rfl
    · rintro found rest (ends | ⟨test, text, rfl, rfl, stands⟩) pushed last read suffix
      · exact .inl (suffix.trans ends)
      · cases read
        exact .inr ⟨test, text, rfl, rfl, stands⟩
  case h_10 =>
    cases dot state.flags with
    | error e => exact .error e e
    | ok chars => exact .ok _ extends_ List.suffix_rfl
  case h_13 =>
    cases state.flags.literal c false with
    | error e => exact .error e e
    | ok chars => exact .ok _ extends_ List.suffix_rfl
  all_goals exact .ok _ extends_ List.suffix_rfl

end State

end Pattern
end WebDispatch
