import WebDispatch.Pattern.Expression

/-!
# What expressions match

Whether an expression matches the part of a text between two positions.  Tests look at the whole
text, so a match is one of positions in it.  Building sequences in normal form changes nothing about
what they match: `Expression.matches_join`.
-/

namespace WebDispatch

/-- A relation of positions, a number of times one after the other. -/
def Times (relation : Nat → Nat → Prop) : Nat → Nat → Nat → Prop
  | 0, start, stop => start = stop
  | count + 1, start, stop => ∃ middle, relation start middle ∧ Times relation count middle stop

theorem times_one {relation : Nat → Nat → Prop} {start stop : Nat} :
    Times relation 1 start stop ↔ relation start stop := by
  simp [Times]

theorem times_add {relation : Nat → Nat → Prop} (one two : Nat) {start stop : Nat} :
    Times relation (one + two) start stop ↔
      ∃ middle, Times relation one start middle ∧ Times relation two middle stop := by
  induction one generalizing start with
  | zero => simp [Times]
  | succ one ih =>
      simp only [Nat.succ_add, Times, ih]
      constructor
      · rintro ⟨next, first, middle, rest, last⟩
        exact ⟨middle, ⟨next, first, rest⟩, last⟩
      · rintro ⟨middle, ⟨next, first, rest⟩, last⟩
        exact ⟨next, first, middle, rest, last⟩

namespace Expression

mutual

/-- Whether an expression matches a text from one position to another. -/
def Matches (text : Array Char) : Expression → Nat → Nat → Prop
  | empty, start, stop => start = stop
  | literal expected, start, stop =>
      stop = start + expected.length ∧
        ∀ place < expected.length, text[start + place]? = expected[place]?
  | set chars, start, stop => stop = start + 1 ∧ text[start]?.any chars.contains = true
  | look test, start, stop => start = stop ∧ test.holds text start = true
  | repeated body least most _, start, stop =>
      ∃ more, (∀ bound ∈ most, more ≤ bound - least) ∧
        Times (body.Matches text) (least + more) start stop
  | group _ _ body, start, stop => body.Matches text start stop
  | sequence members, start, stop => MatchesAll text members start stop
  | choice alternatives, start, stop => MatchesAny text alternatives start stop

/-- Whether expressions match a text one after the other. -/
def MatchesAll (text : Array Char) : List Expression → Nat → Nat → Prop
  | [], start, stop => start = stop
  | e :: rest, start, stop =>
      ∃ middle, e.Matches text start middle ∧ MatchesAll text rest middle stop

/-- Whether one of some expressions matches a text. -/
def MatchesAny (text : Array Char) : List Expression → Nat → Nat → Prop
  | [], _, _ => False
  | e :: rest, start, stop => e.Matches text start stop ∨ MatchesAny text rest start stop

end

/-- Whether an expression matches a whole text. -/
def MatchesWhole (e : Expression) (text : String) : Prop :=
  e.Matches text.toList.toArray 0 text.toList.length

variable {text : Array Char} {start stop : Nat}

theorem matchesAll_append {front back : List Expression} :
    MatchesAll text (front ++ back) start stop ↔
      ∃ middle, MatchesAll text front start middle ∧ MatchesAll text back middle stop := by
  induction front generalizing start with
  | nil => simp [MatchesAll]
  | cons e rest ih =>
      simp only [List.cons_append, MatchesAll, ih]
      constructor
      · rintro ⟨next, first, middle, others, last⟩
        exact ⟨middle, ⟨next, first, others⟩, last⟩
      · rintro ⟨middle, ⟨next, first, others⟩, last⟩
        exact ⟨next, first, middle, others, last⟩

theorem matchesAll_members (e : Expression) :
    MatchesAll text e.members start stop ↔ e.Matches text start stop := by
  cases e <;> simp [members, MatchesAll, Matches]

/-- A text that consists of two texts is matched as the two are. -/
theorem matches_literal_append (front back : List Char) :
    (literal (front ++ back)).Matches text start stop ↔
      ∃ middle, (literal front).Matches text start middle ∧
        (literal back).Matches text middle stop := by
  simp only [Matches]
  constructor
  · rintro ⟨stop_eq, same⟩
    refine ⟨start + front.length, ⟨rfl, ?_⟩, ?_, ?_⟩
    · intro place inside
      rw [same place (by simp; omega), List.getElem?_append_left inside]
    · rw [stop_eq, List.length_append, Nat.add_assoc]
    · intro place inside
      rw [Nat.add_assoc, same (front.length + place) (by simp; omega),
        List.getElem?_append_right (by omega), Nat.add_sub_cancel_left]
  · rintro ⟨middle, ⟨rfl, same_front⟩, rfl, same_back⟩
    refine ⟨by simp; omega, ?_⟩
    intro place inside
    by_cases early : place < front.length
    · rw [same_front place early, List.getElem?_append_left early]
    · have late : start + place = start + front.length + (place - front.length) := by omega
      rw [List.length_append] at inside
      rw [late, same_back _ (by omega), List.getElem?_append_right (by omega)]

theorem matchesAll_glue (e : Expression) (rest : List Expression) :
    MatchesAll text (glue e rest) start stop ↔ MatchesAll text (e :: rest) start stop := by
  unfold glue
  split
  · next front back rest =>
      simp only [MatchesAll, matches_literal_append]
      constructor
      · rintro ⟨middle, ⟨between, first, second⟩, others⟩
        exact ⟨between, first, middle, second, others⟩
      · rintro ⟨between, first, middle, second, others⟩
        exact ⟨middle, ⟨between, first, second⟩, others⟩
  · rfl

theorem matchesAll_foldr_glue (expressions : List Expression) :
    MatchesAll text (expressions.foldr glue []) start stop ↔
      MatchesAll text expressions start stop := by
  induction expressions generalizing start with
  | nil => rfl
  | cons e rest ih =>
      rw [List.foldr_cons, matchesAll_glue]
      simp only [MatchesAll, ih]

theorem matchesAll_flatMap_members (expressions : List Expression) :
    MatchesAll text (expressions.flatMap members) start stop ↔
      MatchesAll text expressions start stop := by
  induction expressions generalizing start with
  | nil => rfl
  | cons e rest ih =>
      rw [List.flatMap_cons, matchesAll_append]
      simp only [MatchesAll, matchesAll_members, ih]

/-- The normal form of a sequence matches what its members match one after the other. -/
theorem matches_join (expressions : List Expression) :
    (join expressions).Matches text start stop ↔ MatchesAll text expressions start stop := by
  rw [← matchesAll_flatMap_members, ← matchesAll_foldr_glue, join]
  split
  · next nil_eq => simp [nil_eq, Matches, MatchesAll]
  · next e single_eq => simp [single_eq, MatchesAll]
  · rw [Matches]

end Expression
end WebDispatch
