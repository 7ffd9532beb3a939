import WebDispatch.Pattern.PathPattern
import WebDispatch.Proofs.Pattern.GroupedReading
import WebDispatch.Proofs.Pattern.Language
import WebDispatch.Proofs.Pattern.ProgramCode

/-!
# Patterns match whole paths

A pattern for paths is compiled in its anchored form, a text that is put together from the pattern
and what stands around it.  If the pattern does not close a group that it does not open, does not end
in a backslash that escapes the dollar sign behind it, and does not end in a comment, then the
anchored form is read as the pattern by itself between the two anchors, and a path matches if and
only if the pattern matches all of it.
-/

namespace WebDispatch

namespace Expression

/-- An expression between the ends of the text. -/
def anchored (e : Expression) : Expression := join [look .textStart, e, look .textEnd]

theorem matches_anchored {e : Expression} {text : Array Char} {start stop : Nat} :
    e.anchored.Matches text start stop ↔
      start = 0 ∧ stop = text.size ∧ e.Matches text 0 text.size := by
  rw [anchored, matches_join]
  simp only [MatchesAll, Matches, Look.holds, beq_iff_eq]
  constructor
  · rintro ⟨first, ⟨rfl, rfl⟩, last, matched, final, ⟨rfl, rfl⟩, rfl⟩
    exact ⟨rfl, rfl, matched⟩
  · rintro ⟨rfl, rfl, matched⟩
    exact ⟨0, ⟨rfl, rfl⟩, text.size, matched, text.size, ⟨rfl, rfl⟩, rfl⟩

/-- An expression between the ends of the text is found in a text if it matches all of it. -/
theorem isMatch_anchored (e : Expression) (text : String) :
    e.anchored.program.isMatch text = true ↔ e.MatchesWhole text := by
  rw [isMatch_program, MatchesWhole]
  simp only [matches_anchored, List.size_toArray]
  constructor
  · rintro ⟨start, -, stop, -, -, matched⟩
    exact matched
  · intro matched
    exact ⟨0, Nat.zero_le _, _, rfl, rfl, matched⟩

end Expression

theorem Program.isSome_captures (program : Program) (text : String) :
    (program.captures text).isSome = program.isMatch text := by
  rw [captures, isMatch, Option.isSome_map]

namespace Pattern

open State

/-- A pattern by itself is the written form of an expression. -/
def Denotes (source : List Char) (whole : Part Expression) : Prop :=
  ∃ state, readAll source.length .initial source = .ok state ∧ state.groups = [] ∧
    state.level.close = whole

/-- A pattern closes a group that it does not open. -/
def ClosesUnopened (source : List Char) : Prop :=
  readAll source.length .initial source = .error "unopened group"

/-- The reading of a pattern ends in a comment: what stands behind the pattern is part of it. -/
def EndsInComment (source : List Char) : Prop :=
  ∃ state, readAll source.length .initial source = .ok state ∧
    readAll (source.length + 2) .initial (source ++ closing) = .ok state

/-- The closing behind a pattern closes a group or fails. -/
theorem readAll_closing_ne {fuel : Nat} (enough : 2 ≤ fuel) (state : State) :
    readAll fuel state closing ≠ .ok state := by
  obtain ⟨fuel, rfl⟩ := Nat.exists_eq_add_of_le' enough
  obtain ⟨flags, groups, level, count, names⟩ := state
  rw [readAll_closing]
  cases groups with
  | nil => nofun
  | cons group groups =>
      intro same
      have groups_eq : groups = group :: groups := congrArg State.groups (Except.ok.inj same)
      exact List.cons_ne_self group groups groups_eq.symm

/-- A pattern that ends in a comment has a number sign. -/
theorem EndsInComment.mem {source : List Char} (ends : EndsInComment source) : '#' ∈ source := by
  obtain ⟨state, alone, behind⟩ := ends
  have outcome := readAll_outcome ('#' ∈ source) [] .initial (.append_closing id)
    (Nat.le_refl source.length) (Nat.le_refl (source.length + 2))
  generalize readAll source.length .initial source = x,
    readAll (source.length + 2) .initial (source ++ closing) = y,
    readAll (source.length + 2) (State.initial.within []) (source ++ closing) = z
    at outcome alone behind
  cases outcome with
  | unopened | error | open_ => cases alone
  | comment state swallowed => exact swallowed
  | closing own enough =>
      cases alone
      exact (readAll_closing_ne enough state behind).elim

/-- A pattern is valid if it is the written form of an expression that is neither too deep nor too
large. -/
theorem parse_eq_ok {source : String} {e : Expression} :
    parse source = .ok e ↔
      ∃ whole, Denotes source.toList whole ∧ whole.depth ≤ maxDepth ∧ whole.value.fits = true ∧
        whole.value = e := by
  unfold parse Denotes
  dsimp only
  cases readAll source.toList.length .initial source.toList with
  | error reason => simp [Bind.bind, Except.bind]
  | ok state =>
      by_cases closed : state.groups = []
      · by_cases deep : maxDepth < state.level.close.depth
        · simp [Bind.bind, Except.bind, closed, deep, Nat.not_le.2 deep]
        · cases small : state.level.close.value.fits <;>
            simp [Bind.bind, Except.bind, closed, deep, Nat.not_lt.1 deep, small, pure, Except.pure]
      · simp [Bind.bind, Except.bind, closed]

/-! ### The anchored form -/

/-- The anchored form of a pattern. -/
def anchoredForm (inner : List Char) : List Char := "^(?:".toList ++ (inner ++ closing)

/-- The group around a pattern in its anchored form. -/
def anchorGroup : Group := ⟨⟨[], [⟨⟨.look .textStart, 0⟩, true⟩]⟩, {}, none⟩

theorem readAll_opening (fuel : Nat) (s : List Char) :
    readAll (fuel + 2) .initial ("^(?:".toList ++ s) =
      readAll fuel (State.initial.within [anchorGroup]) s :=
  rfl

/-- The closing ends the group around a pattern that closes all of its own groups. -/
theorem closing_of_closed {fuel : Nat} (enough : 2 ≤ fuel) {state : State}
    (none : state.groups = []) :
    ∃ last, readAll fuel (state.within [anchorGroup]) closing = .ok last ∧ last.groups = [] ∧
      last.level.close = ⟨state.level.close.value.anchored, state.level.close.depth + 2⟩ := by
  obtain ⟨fuel, rfl⟩ := Nat.exists_eq_add_of_le' enough
  obtain ⟨flags, groups, level, count, names⟩ := state
  obtain rfl : groups = [] := none
  refine ⟨_, readAll_closing fuel _, rfl, ?_⟩
  have depth_eq : depthOver [0, depthOver [level.close.depth], 0] = level.close.depth + 2 := by
    simp [depthOver]
  exact congrArg (Part.mk level.close.value.anchored) depth_eq

/-- A group that the pattern leaves open is closed instead of the one around it. -/
theorem closing_of_open {fuel : Nat} (enough : 2 ≤ fuel) {state : State}
    (some : state.groups ≠ []) :
    ∃ last, readAll fuel (state.within [anchorGroup]) closing = .ok last ∧ last.groups ≠ [] := by
  obtain ⟨fuel, rfl⟩ := Nat.exists_eq_add_of_le' enough
  obtain ⟨flags, groups, level, count, names⟩ := state
  obtain ⟨group, groups, rfl⟩ := List.exists_cons_of_ne_nil some
  refine ⟨_, readAll_closing fuel _, ?_⟩
  exact List.append_ne_nil_of_right_ne_nil groups (List.cons_ne_nil anchorGroup [])

/-- The anchored form is read as the pattern by itself between the anchors. -/
theorem denotes_anchoredForm {inner : List Char} (balanced : ¬ ClosesUnopened inner)
    (ends : ¬ EndsInComment inner) {whole : Part Expression} :
    Denotes (anchoredForm inner) whole ↔
      ∃ own, Denotes inner own ∧ whole = ⟨own.value.anchored, own.depth + 2⟩ := by
  have length_eq : (anchoredForm inner).length = inner.length + 4 + 2 := by
    simp [anchoredForm, closing]
  have length_behind : (inner ++ closing).length = inner.length + 2 := List.length_append
  have outcome := readAll_outcome True [anchorGroup] .initial
    (.append_closing (s := inner) fun _ => trivial) (Nat.le_refl _)
    (Nat.add_le_add_left (show 2 ≤ 4 by decide) inner.length)
  have behind : readAll (inner.length + 4) .initial (inner ++ closing) =
      readAll (inner.length + 2) .initial (inner ++ closing) :=
    readAll_enough (by omega) (by omega)
  unfold Denotes
  rw [length_eq, anchoredForm, readAll_opening]
  unfold ClosesUnopened at balanced
  unfold EndsInComment at ends
  rw [← behind] at ends
  generalize readAll inner.length .initial inner = x,
    readAll (inner.length + 4) .initial (inner ++ closing) = y,
    readAll (inner.length + 4) (State.initial.within [anchorGroup]) (inner ++ closing) = z
    at outcome balanced ends ⊢
  cases outcome with
  | unopened => exact (balanced rfl).elim
  | error e f => simp
  | @open_ e y last stays =>
      have some : last.groups ≠ [] := by
        intro none
        rw [none, List.suffix_nil] at stays
        cases stays
      simp [some]
  | comment state => exact (ends ⟨state, rfl, rfl⟩).elim
  | @closing own fuel enough =>
      by_cases none : own.groups = []
      · obtain ⟨last, read, last_none, close_eq⟩ := closing_of_closed enough none
        simp [read, last_none, close_eq, none, eq_comm (a := whole)]
      · obtain ⟨last, read, some⟩ := closing_of_open enough none
        simp [read, some, none]

end Pattern

namespace PathPattern

open Pattern

/-- A pattern ends in a backslash that escapes what stands behind it. -/
def EscapesNext (pattern : List Char) : Prop :=
  (pattern.reverse.takeWhile (· == '\\')).length % 2 = 1

instance : DecidablePred EscapesNext :=
  fun pattern =>
    inferInstanceAs (Decidable ((pattern.reverse.takeWhile (· == '\\')).length % 2 = 1))

/-- What is put around a pattern for display is taken off again. -/
theorem stripAnchors_anchored {inner : List Char} (plain : ¬ EscapesNext inner) :
    stripAnchors ('^' :: inner ++ ['$']) = inner := by
  have even : (inner.reverse.takeWhile (· == '\\')).length % 2 = 0 :=
    Nat.mod_two_ne_one.1 plain
  simp [stripAnchors, stripEnd, even]

theorem compile_eq_ok {p : String} (plain : ¬ EscapesNext (stripAnchors p.toList))
    (pattern : PathPattern) :
    compile p = .ok pattern ↔
      stripAnchors p.toList ≠ [] ∧
        ∃ e, parse (String.ofList (anchoredForm (stripAnchors p.toList))) = .ok e ∧
          { source := String.ofList ('^' :: stripAnchors p.toList ++ ['$']), expression := e } =
            pattern := by
  unfold compile anchored
  dsimp only
  have inner_eq := stripAnchors_anchored plain
  generalize stripAnchors p.toList = inner at inner_eq
  cases inner with
  | nil => simp [Bind.bind, Except.bind]
  | cons c inner =>
      have text_eq : "^(?:" ++ String.ofList (c :: inner) ++ ")$" =
          String.ofList (anchoredForm (c :: inner)) := by
        rw [← String.toList_inj]
        simp [anchoredForm, closing]
      simp only [List.isEmpty_cons, Bool.false_eq_true, if_false, Bind.bind, Except.bind,
        String.toList_ofList, inner_eq, text_eq, ne_eq, reduceCtorEq, not_false_eq_true, true_and]
      cases parse (String.ofList (anchoredForm (c :: inner))) with
      | error reason => simp
      | ok e => simp [pure, Except.pure]

/-- A pattern is compiled exactly if it is not empty and by itself the written form of an expression,
and then exactly those paths match that the expression matches from the first character to the last.
The anchors count when the depth and the size of the expression are limited. -/
theorem compile_whole_path (p : String)
    (balanced : ¬ ClosesUnopened (stripAnchors p.toList))
    (plain : ¬ EscapesNext (stripAnchors p.toList))
    (ends : ¬ EndsInComment (stripAnchors p.toList)) :
    ((∃ pattern, compile p = .ok pattern) ↔
      stripAnchors p.toList ≠ [] ∧
        ∃ whole, Denotes (stripAnchors p.toList) whole ∧ whole.depth + 2 ≤ maxDepth ∧
          whole.value.anchored.fits = true) ∧
    ∀ pattern, compile p = .ok pattern →
      ∃ whole, Denotes (stripAnchors p.toList) whole ∧
        ∀ path, (pattern.isMatch path = true ↔ whole.value.MatchesWhole path) ∧
          ((pattern.captures path).isSome = true ↔ whole.value.MatchesWhole path) := by
  have compiled := compile_eq_ok plain
  simp only [parse_eq_ok, String.toList_ofList, denotes_anchoredForm balanced ends] at compiled
  constructor
  · simp only [compiled]
    constructor
    · rintro ⟨pattern, some, e, ⟨_, ⟨whole, denotes, rfl⟩, depth, fits, -⟩, -⟩
      exact ⟨some, whole, denotes, depth, fits⟩
    · rintro ⟨some, whole, denotes, depth, fits⟩
      exact ⟨_, some, _, ⟨_, ⟨whole, denotes, rfl⟩, depth, fits, rfl⟩, rfl⟩
  · intro pattern read
    obtain ⟨-, e, ⟨_, ⟨whole, denotes, rfl⟩, -, -, rfl⟩, rfl⟩ := (compiled pattern).1 read
    refine ⟨whole, denotes, fun path => ?_⟩
    have matched := whole.value.isMatch_anchored path
    exact ⟨matched, (Program.isSome_captures _ path).symm ▸ matched⟩

/-- Alternatives are anchored as a whole. -/
theorem compile_whole_path_alternatives :
    ∃ pattern, compile "/[a-z]+|/[0-9]+$" = .ok pattern ∧
      ∃ whole, Denotes "/[a-z]+|/[0-9]+".toList whole ∧
        ∀ path, (pattern.isMatch path = true ↔ whole.value.MatchesWhole path) ∧
          ((pattern.captures path).isSome = true ↔ whole.value.MatchesWhole path) := by
  have stripped : stripAnchors "/[a-z]+|/[0-9]+$".toList = "/[a-z]+|/[0-9]+".toList := by decide
  have read : (State.readAll "/[a-z]+|/[0-9]+".toList.length .initial
      "/[a-z]+|/[0-9]+".toList).toOption.isSome = true := by
    decide +kernel
  have compiles : (compile "/[a-z]+|/[0-9]+$").toOption.isSome = true := by decide +kernel
  have balanced : ¬ ClosesUnopened (stripAnchors "/[a-z]+|/[0-9]+$".toList) := by
    intro unopened
    rw [stripped] at unopened
    rw [unopened] at read
    cases read
  have plain : ¬ EscapesNext (stripAnchors "/[a-z]+|/[0-9]+$".toList) := by
    rw [stripped]
    decide
  have ends : ¬ EndsInComment (stripAnchors "/[a-z]+|/[0-9]+$".toList) := by
    rw [stripped]
    exact fun ends => absurd ends.mem (by decide)
  cases compiled : compile "/[a-z]+|/[0-9]+$" with
  | error failure =>
      rw [compiled] at compiles
      cases compiles
  | ok pattern =>
      refine ⟨pattern, rfl, ?_⟩
      rw [← stripped]
      exact (compile_whole_path "/[a-z]+|/[0-9]+$" balanced plain ends).2 pattern compiled

/-- A pattern that closes a group it does not open is compiled all the same, if what stands around
it makes up for that, and then a part of a path may match.  A pattern that ends in a backslash is
compiled with the dollar sign that is put behind it. -/
theorem compile_invalid :
    ((parse "a)|(?:b").toOption.isNone = true ∧
      (compile "a)|(?:b").toOption.any (·.isMatch "a/x") = true) ∧
    (parse "a\\").toOption.isNone = true ∧
      (compile "a\\").toOption.any (·.isMatch "a$") = true := by
  decide +kernel

end PathPattern
end WebDispatch
