import WebDispatch.Proofs.Pattern.Language
import WebDispatch.Proofs.Pattern.ProgramRuns

/-!
# Programs and what their expressions match

Instructions perform a relation of positions if a program that holds them comes from their start to
their end exactly between related positions.  The instructions of an expression perform what it
matches, `Expression.performs_code`, so a search finds a match exactly if the expression matches
some part of the text.

A loop can take any number of steps, so what instructions perform is said with the number of steps
to the end of the program, which gets smaller each time around.
-/

namespace WebDispatch

variable {text : Array Char} {program : Program}

/-! ### Instructions in a program -/

/-- A program holds some instructions from an address on. -/
def HeldAt (program : Program) (base : Nat) (code : List Instruction) : Prop :=
  ∀ index instruction, code[index]? = some instruction →
    program[base + index]? = some instruction

theorem heldAt_cons {base : Nat} {instruction : Instruction} {code : List Instruction} :
    HeldAt program base (instruction :: code) ↔
      program[base]? = some instruction ∧ HeldAt program (base + 1) code := by
  constructor
  · intro held
    refine ⟨held 0 instruction rfl, fun index other found => ?_⟩
    rw [Nat.add_assoc, Nat.add_comm 1]
    exact held (index + 1) other found
  · rintro ⟨first, held⟩ (_ | index) other found
    · obtain rfl : instruction = other := Option.some.inj found
      exact first
    · rw [← Nat.add_assoc, Nat.add_right_comm]
      exact held index other found

theorem heldAt_append {base : Nat} {front back : List Instruction} :
    HeldAt program base (front ++ back) ↔
      HeldAt program base front ∧ HeldAt program (base + front.length) back := by
  induction front generalizing base with
  | nil => simp [HeldAt]
  | cons instruction front ih =>
      rw [List.cons_append, heldAt_cons, heldAt_cons, ih, and_assoc, List.length_cons,
        Nat.add_assoc, Nat.add_comm 1]

/-- From an instruction on, a program accepts as it does from where the instruction leads to. -/
theorem Program.accepts_iff {steps address position : Nat} {instruction : Instruction}
    (here : program[address]? = some instruction) :
    program.Accepts text steps address position ↔
      ∃ fewer next after, steps = fewer + 1 ∧
        instruction.Leads text address position next after ∧
        program.Accepts text fewer next after := by
  constructor
  · intro accepted
    cases accepted with
    | done atEnd => simp [atEnd] at here
    | step found leads rest =>
        obtain rfl := Option.some.inj (here.symm.trans found)
        exact ⟨_, _, _, rfl, leads, rest⟩
  · rintro ⟨fewer, next, after, rfl, leads, rest⟩
    exact .step here leads rest

theorem Program.accepts_jump {steps address position : Nat} {distance : Int} (target : Nat)
    (here : program[address]? = some (.jump distance))
    (to_target : (address + distance).toNat = target) :
    program.Accepts text steps address position ↔
      ∃ fewer, steps = fewer + 1 ∧ program.Accepts text fewer target position := by
  simp [accepts_iff here, Instruction.Leads, to_target]

theorem Program.accepts_fork {steps address position : Nat} {distance : Int} {farFirst : Bool}
    (target : Nat) (here : program[address]? = some (.fork distance farFirst))
    (to_target : (address + distance).toNat = target) :
    program.Accepts text steps address position ↔
      ∃ fewer, steps = fewer + 1 ∧
        (program.Accepts text fewer (address + 1) position ∨
          program.Accepts text fewer target position) := by
  simp [accepts_iff here, Instruction.Leads, to_target, or_and_right, exists_or]

/-- Instructions come from their start to their end exactly between related positions. -/
structure Performs (text : Array Char) (code : List Instruction) (relation : Nat → Nat → Prop) :
    Prop where
  /-- A way from their start to the end of a program leads through their end. -/
  sound : ∀ {program : Program} {base steps start}, HeldAt program base code →
    program.Accepts text steps base start →
      ∃ stop, relation start stop ∧
        ∃ fewer ≤ steps, program.Accepts text fewer (base + code.length) stop
  /-- A way from their end to the end of a program is one from their start. -/
  complete : ∀ {program : Program} {base steps start stop}, HeldAt program base code →
    relation start stop → program.Accepts text steps (base + code.length) stop →
      ∃ more, program.Accepts text more base start

namespace Performs

variable {code front back : List Instruction} {relation first second : Nat → Nat → Prop}

theorem congr (performs : Performs text code first)
    (same : ∀ start stop, first start stop ↔ second start stop) : Performs text code second := by
  obtain rfl : first = second := by
    funext start stop
    exact propext (same start stop)
  exact performs

theorem nil : Performs text [] Eq where
  sound _ accepted := ⟨_, rfl, _, le_rfl, accepted⟩
  complete _ same accepted := same ▸ ⟨_, accepted⟩

/-- An instruction that only leads behind itself. -/
theorem single {instruction : Instruction}
    (leads : ∀ address start next stop,
      instruction.Leads text address start next stop ↔ next = address + 1 ∧ relation start stop) :
    Performs text [instruction] relation where
  sound held accepted := by
    obtain ⟨fewer, next, stop, rfl, led, rest⟩ :=
      (Program.accepts_iff (heldAt_cons.1 held).1).1 accepted
    obtain ⟨rfl, related⟩ := (leads _ _ _ _).1 led
    exact ⟨stop, related, fewer, by omega, rest⟩
  complete held related accepted :=
    ⟨_, .step (heldAt_cons.1 held).1 ((leads _ _ _ _).2 ⟨rfl, related⟩) accepted⟩

theorem append (one : Performs text front first) (two : Performs text back second) :
    Performs text (front ++ back) (Relation.Comp first second) where
  sound held accepted := by
    obtain ⟨held_front, held_back⟩ := heldAt_append.1 held
    obtain ⟨middle, start_middle, fewer, few, accepted⟩ := one.sound held_front accepted
    obtain ⟨stop, middle_stop, least, less, accepted⟩ := two.sound held_back accepted
    refine ⟨stop, ⟨middle, start_middle, middle_stop⟩, least, less.trans few, ?_⟩
    rwa [List.length_append, ← Nat.add_assoc]
  complete held := by
    rintro ⟨middle, start_middle, middle_stop⟩ accepted
    obtain ⟨held_front, held_back⟩ := heldAt_append.1 held
    rw [List.length_append, ← Nat.add_assoc] at accepted
    obtain ⟨more, accepted⟩ := two.complete held_back middle_stop accepted
    exact one.complete held_front start_middle accepted

/-! ### Repetitions and alternatives -/

theorem times (performs : Performs text code relation) (count : Nat) :
    Performs text (Expression.times code count) (Times relation count) := by
  induction count with
  | zero => exact nil
  | succ count ih => simpa [Expression.times] using! performs.append ih

theorem optionally (performs : Performs text code relation) (greedy : Bool) :
    Performs text (Expression.optionally code greedy)
      fun start stop => start = stop ∨ relation start stop where
  sound {program base steps start} held accepted := by
    obtain ⟨fork, held⟩ := heldAt_cons.1 held
    rw [Program.accepts_fork (base + code.length + 1) fork (by omega)] at accepted
    obtain ⟨fewer, rfl, behind | skipped⟩ := accepted
    · obtain ⟨stop, related, least, few, accepted⟩ := performs.sound held behind
      refine ⟨stop, .inr related, least, by omega, ?_⟩
      rwa [Expression.optionally, List.length_cons, Nat.add_comm _ 1, ← Nat.add_assoc]
    · exact ⟨start, .inl rfl, fewer, by omega, skipped⟩
  complete {program base steps start stop} held := by
    obtain ⟨fork, held⟩ := heldAt_cons.1 held
    rintro (rfl | related) accepted <;>
      rw [Expression.optionally, List.length_cons, ← Nat.add_assoc] at accepted
    · refine ⟨steps + 1, ?_⟩
      rw [Program.accepts_fork (base + code.length + 1) fork (by omega)]
      exact ⟨steps, rfl, .inr accepted⟩
    · rw [Nat.add_right_comm] at accepted
      obtain ⟨more, accepted⟩ := performs.complete held related accepted
      exact ⟨more + 1, (Program.accepts_fork _ fork rfl).2 ⟨more, rfl, .inl accepted⟩⟩

/-- Instructions and behind them a fork back to their start. -/
theorem onceOrMore (performs : Performs text code relation) (greedy : Bool) :
    Performs text (Expression.onceOrMore code greedy)
      fun start stop => ∃ more, Times relation (more + 1) start stop where
  sound {program base steps start} held accepted := by
    obtain ⟨held, fork⟩ := heldAt_append.1 held
    replace fork := (heldAt_cons.1 fork).1
    rw [Expression.onceOrMore, List.length_append, List.length_singleton]
    -- Each time around takes a step at least.
    induction steps using Nat.strong_induction_on generalizing start with
    | _ steps ih =>
        obtain ⟨middle, related, fewer, few, accepted⟩ := performs.sound held accepted
        rw [Program.accepts_fork base fork (by omega)] at accepted
        obtain ⟨least, rfl, behind | again⟩ := accepted
        · exact ⟨middle, ⟨0, times_one.2 related⟩, least, by omega, behind⟩
        · obtain ⟨stop, ⟨more, repeated⟩, last, less, accepted⟩ := ih least (by omega) again
          exact ⟨stop, ⟨more + 1, middle, related, repeated⟩, last, by omega, accepted⟩
  complete {program base steps start stop} held := by
    obtain ⟨held, fork⟩ := heldAt_append.1 held
    replace fork := (heldAt_cons.1 fork).1
    rintro ⟨more, repeated⟩ accepted
    rw [Expression.onceOrMore, List.length_append, List.length_singleton] at accepted
    induction more generalizing start with
    | zero =>
        exact performs.complete held (times_one.1 repeated)
          ((Program.accepts_fork base fork (by omega)).2 ⟨steps, rfl, .inl accepted⟩)
    | succ more ih =>
        obtain ⟨middle, related, repeated⟩ := repeated
        obtain ⟨again, accepted⟩ := ih repeated
        exact performs.complete held related
          ((Program.accepts_fork base fork (by omega)).2 ⟨again, rfl, .inr accepted⟩)

/-- Instructions between a fork past them and a jump back to it. -/
theorem anyTimes (performs : Performs text code relation) (greedy : Bool) :
    Performs text (Expression.anyTimes code greedy)
      fun start stop => ∃ more, Times relation more start stop where
  sound {program base steps start} held accepted := by
    obtain ⟨fork, held⟩ := heldAt_cons.1 held
    obtain ⟨held, jump⟩ := heldAt_append.1 held
    replace jump := (heldAt_cons.1 jump).1
    induction steps using Nat.strong_induction_on generalizing start with
    | _ steps ih =>
        rw [Program.accepts_fork (base + (code.length + 2)) fork (by omega)] at accepted
        obtain ⟨fewer, rfl, behind | skipped⟩ := accepted
        · obtain ⟨middle, related, least, few, accepted⟩ := performs.sound held behind
          rw [Program.accepts_jump base jump (by omega)] at accepted
          obtain ⟨last, rfl, again⟩ := accepted
          obtain ⟨stop, ⟨more, repeated⟩, left, less, accepted⟩ := ih last (by omega) again
          exact ⟨stop, ⟨more + 1, middle, related, repeated⟩, left, by omega, accepted⟩
        · refine ⟨start, ⟨0, rfl⟩, fewer, by omega, ?_⟩
          simpa [Expression.anyTimes] using skipped
  complete {program base steps start stop} held := by
    obtain ⟨fork, held⟩ := heldAt_cons.1 held
    obtain ⟨held, jump⟩ := heldAt_append.1 held
    replace jump := (heldAt_cons.1 jump).1
    rintro ⟨more, repeated⟩ accepted
    induction more generalizing start with
    | zero =>
        obtain rfl : start = stop := repeated
        refine ⟨steps + 1, ?_⟩
        rw [Program.accepts_fork (base + (code.length + 2)) fork (by omega)]
        exact ⟨steps, rfl, .inr (by simpa [Expression.anyTimes] using accepted)⟩
    | succ more ih =>
        obtain ⟨middle, related, repeated⟩ := repeated
        obtain ⟨again, accepted⟩ := ih repeated
        obtain ⟨most, accepted⟩ := performs.complete held related
          ((Program.accepts_jump base jump (by omega)).2 ⟨again, rfl, accepted⟩)
        exact ⟨most + 1, (Program.accepts_fork _ fork rfl).2 ⟨most, rfl, .inl accepted⟩⟩

theorem either (one : Performs text front first) (two : Performs text back second) :
    Performs text (Expression.either front back)
      fun start stop => first start stop ∨ second start stop where
  sound {program base steps start} held accepted := by
    obtain ⟨fork, held⟩ := heldAt_cons.1 held
    obtain ⟨held_front, held⟩ := heldAt_append.1 held
    obtain ⟨jump, held_back⟩ := heldAt_cons.1 held
    have stop_eq : base + (Expression.either front back).length =
        base + 1 + front.length + 1 + back.length := by
      simp only [Expression.either, List.cons_append, List.length_cons, List.length_append]
      omega
    rw [stop_eq]
    rw [Program.accepts_fork (base + 1 + front.length + 1) fork (by omega)] at accepted
    obtain ⟨fewer, rfl, behind | far⟩ := accepted
    · obtain ⟨stop, related, least, few, accepted⟩ := one.sound held_front behind
      rw [Program.accepts_jump (base + 1 + front.length + 1 + back.length) jump (by omega)]
        at accepted
      obtain ⟨last, rfl, accepted⟩ := accepted
      exact ⟨stop, .inl related, last, by omega, accepted⟩
    · obtain ⟨stop, related, least, few, accepted⟩ := two.sound held_back far
      exact ⟨stop, .inr related, least, by omega, accepted⟩
  complete {program base steps start stop} held := by
    obtain ⟨fork, held⟩ := heldAt_cons.1 held
    obtain ⟨held_front, held⟩ := heldAt_append.1 held
    obtain ⟨jump, held_back⟩ := heldAt_cons.1 held
    have stop_eq : base + (Expression.either front back).length =
        base + 1 + front.length + 1 + back.length := by
      simp only [Expression.either, List.cons_append, List.length_cons, List.length_append]
      omega
    rw [stop_eq]
    rintro (related | related) accepted
    · obtain ⟨more, accepted⟩ := one.complete held_front related
        ((Program.accepts_jump _ jump (by omega)).2 ⟨steps, rfl, accepted⟩)
      exact ⟨more + 1, (Program.accepts_fork _ fork rfl).2 ⟨more, rfl, .inl accepted⟩⟩
    · obtain ⟨more, accepted⟩ := two.complete held_back related accepted
      refine ⟨more + 1, ?_⟩
      rw [Program.accepts_fork (base + 1 + front.length + 1) fork (by omega)]
      exact ⟨more, rfl, .inr accepted⟩

end Performs

namespace Expression

theorem length_atMost (code : List Instruction) (greedy : Bool) (count : Nat) :
    (atMost code greedy count).length = count * (code.length + 1) := by
  simp [atMost, List.length_flatMap]

/-- To follow instructions at most once more is to follow them and what may come then, or nothing
of it. -/
theorem atMost_succ (code : List Instruction) (greedy : Bool) (count : Nat) :
    atMost code greedy (count + 1) =
      optionally (code ++ atMost code greedy count) greedy := by
  have distance : ((count + 1) * (code.length + 1) : Nat) =
      ((code ++ atMost code greedy count).length : Int) + 1 := by
    rw [List.length_append, length_atMost, Nat.succ_mul]
    omega
  have rest : atMost code greedy count = (List.range count).flatMap fun i =>
      .fork ((count + 1 - (i + 1)) * (code.length + 1) : Nat) (!greedy) :: code := by
    simp only [atMost, Nat.add_sub_add_right]
  rw [optionally, ← distance, rest, atMost, List.range_succ_eq_map, List.flatMap_cons,
    List.flatMap_map, Nat.sub_zero, List.cons_append]

end Expression

namespace Performs

variable {code : List Instruction} {relation : Nat → Nat → Prop}

theorem atMost (performs : Performs text code relation) (greedy : Bool) (count : Nat) :
    Performs text (Expression.atMost code greedy count)
      fun start stop => ∃ more ≤ count, Times relation more start stop := by
  induction count with
  | zero => exact nil.congr fun start stop => by simp [Times]
  | succ count ih =>
      rw [Expression.atMost_succ]
      refine ((performs.append ih).optionally greedy).congr fun start stop => ?_
      constructor
      · rintro (rfl | ⟨middle, related, more, few, repeated⟩)
        · exact ⟨0, Nat.zero_le _, rfl⟩
        · exact ⟨more + 1, Nat.succ_le_succ few, middle, related, repeated⟩
      · rintro ⟨_ | more, few, repeated⟩
        · exact .inl repeated
        · obtain ⟨middle, related, repeated⟩ := repeated
          exact .inr ⟨middle, related, more, Nat.le_of_succ_le_succ few, repeated⟩

theorem codeOfRepeated (performs : Performs text code relation) (takesSome : Bool) (least : Nat)
    (most : Option Nat) (greedy : Bool) :
    Performs text (Expression.codeOfRepeated code takesSome least most greedy) fun start stop =>
      ∃ more, (∀ bound ∈ most, more ≤ bound - least) ∧
        Times relation (least + more) start stop := by
  unfold Expression.codeOfRepeated
  split
  · split
    · exact (performs.anyTimes greedy).congr fun start stop => by simp
    · refine ((performs.onceOrMore greedy).optionally greedy).congr fun start stop => ?_
      simp only [Option.not_mem_none, false_implies, implies_true, true_and, Nat.zero_add]
      exact Nat.or_exists_add_one (p := fun more => Times relation more start stop)
  · next least =>
      refine ((performs.times least).append (performs.onceOrMore greedy)).congr
        fun start stop => ?_
      have once_more (more : Nat) : least + 1 + more = least + (more + 1) := by omega
      simp only [Option.not_mem_none, false_implies, implies_true, true_and, Relation.Comp,
        once_more, times_add least]
      grind
  · next bound =>
      refine ((performs.times least).append (performs.atMost greedy (bound - least))).congr
        fun start stop => ?_
      simp only [Option.mem_some_iff, forall_eq', Relation.Comp, times_add]
      grind

end Performs

namespace Expression

theorem contains_empty : CharSet.empty.contains = fun _ => false := rfl

theorem contains_single {c d : Char} : (CharSet.single c).contains d = true ↔ d = c := by
  simp only [CharSet.contains, CharSet.hasCode, CharSet.single, CharSet.range, List.any_cons,
    List.any_nil, Bool.or_false, Bool.and_eq_true, decide_eq_true_eq]
  rw [← Char.toNat_inj]
  omega

theorem matches_character {c : Char} {start stop : Nat} :
    (literal [c]).Matches text start stop ↔
      stop = start + 1 ∧ text[start]?.any (CharSet.single c).contains = true := by
  simp [Matches, Option.any_eq_true, contains_single]

theorem performs_literal : ∀ expected : List Char,
    Performs text (literal expected).code ((literal expected).Matches text)
  | [] => Performs.nil.congr fun start stop => by simp [Matches, eq_comm]
  | c :: rest => by
      have first : Performs text [.take (.single c)] ((literal [c]).Matches text) :=
        .single fun _ _ _ _ => by rw [matches_character]; rfl
      refine (first.append (performs_literal rest)).congr fun start stop => ?_
      exact (matches_literal_append [c] rest).symm

/-- The marks of a named group change nothing. -/
theorem performs_marked {code : List Instruction} {relation : Nat → Nat → Prop} (name : String)
    (performs : Performs text code relation) :
    Performs text (.opening name :: code ++ [.closing name]) relation := by
  have opening : Performs text [.opening name] Eq :=
    .single fun _ start _ stop => by simp only [Instruction.Leads, eq_comm (a := start)]
  have closing : Performs text [.closing name] Eq :=
    .single fun _ start _ stop => by simp only [Instruction.Leads, eq_comm (a := start)]
  refine ((opening.append performs).append closing).congr fun start stop => ?_
  simp [Relation.Comp]

mutual

/-- The instructions of an expression perform what it matches. -/
theorem performs_code : ∀ e : Expression, Performs text e.code (e.Matches text)
  | empty => .nil
  | literal expected => performs_literal expected
  | set chars => .single fun _ _ _ _ => by simp only [Instruction.Leads, Matches]
  | look test => .single fun _ start _ stop => by
      simp only [Instruction.Leads, Matches, eq_comm (a := start)]
  | repeated body least most greedy =>
      (performs_code body).codeOfRepeated body.takesSome least most greedy
  | group number none body => performs_code body
  | group number (some name) body => performs_marked name (performs_code body)
  | sequence members => performs_codeOfAll members
  | choice alternatives => performs_codeOfAny alternatives

theorem performs_codeOfAll :
    ∀ members : List Expression, Performs text (codeOfAll members) (MatchesAll text members)
  | [] => .nil
  | e :: rest => (performs_code e).append (performs_codeOfAll rest)

theorem performs_codeOfAny : ∀ alternatives : List Expression,
    Performs text (codeOfAny alternatives) (MatchesAny text alternatives)
  | [] => .single fun _ start _ _ => by
      simp [Instruction.Leads, MatchesAny, contains_empty]
  | [e] => (performs_code e).congr fun start stop => by simp [MatchesAny]
  | e :: next :: rest => (performs_code e).either (performs_codeOfAny (next :: rest))

end

/-- A program of an expression finds a match if and only if the expression matches some part of the
text. -/
theorem isMatch_program (e : Expression) (text : String) :
    e.program.isMatch text = true ↔
      ∃ start ≤ text.toList.length, ∃ stop, e.Matches text.toList.toArray start stop := by
  have held : HeldAt e.program 0 e.code := by
    intro index instruction found
    simpa [program] using found
  have performs : Performs text.toList.toArray e.code (e.Matches text.toList.toArray) :=
    performs_code e
  rw [Program.isMatch, Program.search_isSome_iff]
  refine exists_congr fun start => and_congr_right fun inside => ?_
  constructor
  · rintro ⟨steps, accepted⟩
    obtain ⟨stop, matched, -⟩ := performs.sound held accepted
    exact ⟨stop, matched⟩
  · rintro ⟨stop, matched⟩
    exact performs.complete held matched (.done (by simp [program]))

end Expression
end WebDispatch
