import Mathlib.Logic.Relation
import WebDispatch.Proofs.Pattern.ProgramCode

/-!
# What groups hold after a match

The thread that a search finds was led by the program from its start to its end, one instruction
after the other.  What some instructions do to the position and the groups of a thread on its way
through them is said as a relation, `Guides`, which is put together as the instructions are.  The
code of a sequence in normal form is that of its members: `Expression.code_join`.
-/

namespace WebDispatch

variable {program : Program} {text : Array Char}

namespace Program

/-- A program leads a thread to another one in a number of steps. -/
inductive Leads (program : Program) (text : Array Char) : Nat → Thread → Thread → Prop
  | done (thread : Thread) : Leads program text 0 thread thread
  | step {steps : Nat} {thread follower last : Thread} {instruction : Instruction}
      (here : program[thread.address]? = some instruction)
      (followed : follower ∈ thread.follow text instruction)
      (rest : Leads program text steps follower last) :
      Leads program text (steps + 1) thread last

/-- What a run finds is at the end of the program, and was led there from one of the threads that
the run was given. -/
theorem leads_of_run {fuel : Nat} {seen : NumberSet} {threads : List Thread} {found : Thread}
    (run_eq : program.run text fuel seen threads = some found) :
    program[found.address]? = none ∧
      ∃ thread ∈ threads, ∃ steps, program.Leads text steps thread found := by
  induction fuel generalizing seen threads with
  | zero => exact nomatch run_eq
  | succ fuel ih =>
      cases threads with
      | nil => exact nomatch run_eq
      | cons thread threads =>
          rw [run] at run_eq
          split at run_eq
          · obtain ⟨atEnd, other, listed, led⟩ := ih run_eq
            exact ⟨atEnd, other, List.mem_cons_of_mem _ listed, led⟩
          · split at run_eq
            · next atEnd =>
                obtain rfl := Option.some.inj run_eq
                exact ⟨atEnd, thread, List.mem_cons_self, 0, .done thread⟩
            · next instruction here =>
                obtain ⟨atEnd, other, listed, steps, led⟩ := ih run_eq
                obtain followed | listed := List.mem_append.1 listed
                · exact ⟨atEnd, thread, List.mem_cons_self, steps + 1, .step here followed led⟩
                · exact ⟨atEnd, other, List.mem_cons_of_mem _ listed, steps, led⟩

/-- From an instruction on, a thread that does not stay is led to one of those that follow. -/
theorem Leads.of_instruction {steps : Nat} {thread last : Thread} {instruction : Instruction}
    (led : program.Leads text steps thread last)
    (here : program[thread.address]? = some instruction)
    (atEnd : program[last.address]? = none) :
    ∃ fewer, steps = fewer + 1 ∧ ∃ follower ∈ thread.follow text instruction,
      program.Leads text fewer follower last := by
  cases led with
  | done => simp [here] at atEnd
  | @step fewer _ follower _ other found followed rest =>
      obtain rfl := Option.some.inj (here.symm.trans found)
      exact ⟨fewer, rfl, follower, followed, rest⟩

end Program

/-! ### What instructions do to threads -/

/-- Where a thread stands in the text, and what its groups are. -/
structure Marks where
  /-- The position in the text. -/
  position : Nat
  /-- Where the groups last started. -/
  opened : Dict Nat
  /-- The last text of each group. -/
  held : Dict (Nat × Nat)

/-- What a thread knows apart from its next instruction. -/
def Thread.marks (thread : Thread) : Marks := ⟨thread.position, thread.opened, thread.held⟩

/-- A thread that comes to the end of a program through some instructions gets related marks on its
way through them. -/
structure Guides (text : Array Char) (code : List Instruction) (relation : Marks → Marks → Prop) :
    Prop where
  /-- The way leads behind the instructions. -/
  behind : ∀ {program : Program} {steps : Nat} {thread last : Thread},
    HeldAt program thread.address code → program[last.address]? = none →
    program.Leads text steps thread last →
      ∃ middle : Thread, middle.address = thread.address + code.length ∧
        relation thread.marks middle.marks ∧
          ∃ fewer ≤ steps, program.Leads text fewer middle last

namespace Guides

variable {code front back : List Instruction} {first second relation : Marks → Marks → Prop}

theorem mono (guides : Guides text code first)
    (weaker : ∀ before after, first before after → second before after) :
    Guides text code second where
  behind held atEnd led := by
    obtain ⟨middle, stands, related, rest⟩ := guides.behind held atEnd led
    exact ⟨middle, stands, weaker _ _ related, rest⟩

theorem nil : Guides text [] Eq where
  behind {_ steps thread _} _ _ led := ⟨thread, rfl, rfl, steps, le_rfl, led⟩

/-- An instruction that only leads behind itself. -/
theorem single {instruction : Instruction}
    (leads : ∀ thread : Thread, ∀ follower ∈ thread.follow text instruction,
      follower.address = thread.address + 1 ∧ relation thread.marks follower.marks) :
    Guides text [instruction] relation where
  behind {_ _ thread _} held atEnd led := by
    obtain ⟨fewer, rfl, follower, followed, rest⟩ := led.of_instruction (heldAt_cons.1 held).1 atEnd
    obtain ⟨stands, related⟩ := leads thread follower followed
    exact ⟨follower, stands, related, fewer, Nat.le_succ fewer, rest⟩

theorem append (one : Guides text front first) (two : Guides text back second) :
    Guides text (front ++ back) (Relation.Comp first second) where
  behind {program _ thread _} held atEnd led := by
    obtain ⟨held_front, held_back⟩ := heldAt_append.1 held
    obtain ⟨middle, stands, before_middle, fewer, few, led⟩ := one.behind held_front atEnd led
    rw [← stands] at held_back
    obtain ⟨stop, at_stop, middle_after, least, less, led⟩ := two.behind held_back atEnd led
    refine ⟨stop, ?_, ⟨_, before_middle, middle_after⟩, least, less.trans few, led⟩
    rw [at_stop, stands, List.length_append, Nat.add_assoc]

/-- Instructions and behind them a fork back to their start. -/
theorem onceOrMore (guides : Guides text code relation) (greedy : Bool) :
    Guides text (Expression.onceOrMore code greedy) (Relation.TransGen relation) where
  behind {program steps thread last} held atEnd led := by
    obtain ⟨held_code, fork⟩ := heldAt_append.1 held
    replace fork := (heldAt_cons.1 fork).1
    have length_eq : (Expression.onceOrMore code greedy).length = code.length + 1 := by
      simp [Expression.onceOrMore]
    rw [length_eq]
    -- Each time around takes a step at least.
    clear held
    induction steps using Nat.strong_induction_on generalizing thread with
    | _ steps ih =>
        obtain ⟨middle, stands, related, fewer, few, led⟩ := guides.behind held_code atEnd led
        rw [← stands] at fork
        obtain ⟨least, rfl, follower, followed, led⟩ := led.of_instruction fork atEnd
        obtain rfl | rfl : follower = middle.next ∨ follower = middle.far (-code.length) := by
          cases greedy <;> simpa [Thread.follow, or_comm] using followed
        · refine ⟨middle.next, ?_, .single related, least, by omega, led⟩
          simp [Thread.next, stands, Nat.add_assoc]
        · have again : (middle.far (-code.length)).address = thread.address := by
            simp only [Thread.far, stands]
            omega
          rw [stands, ← again] at fork
          rw [← again] at held_code
          obtain ⟨stop, at_stop, repeated, last, less, led⟩ :=
            ih least (by omega) led held_code fork
          exact ⟨stop, again ▸ at_stop, .head related repeated, last, by omega, led⟩

end Guides

/-! ### Taking text -/

/-- The position moves behind a piece of text that stands there. -/
def Marks.Takes (text piece : List Char) (before after : Marks) : Prop :=
  piece <+: text.drop before.position ∧
    after = { before with position := before.position + piece.length }

/-- Two pieces stand one behind the other as one piece. -/
theorem prefix_drop_append {text one two : List Char} {position : Nat}
    (first : one <+: text.drop position)
    (second : two <+: text.drop (position + one.length)) : one ++ two <+: text.drop position := by
  obtain ⟨rest, text_eq⟩ := first
  have behind : text.drop (position + one.length) = rest := by
    rw [← List.drop_drop, ← text_eq, List.drop_left]
  rw [← text_eq]
  exact (List.prefix_append_right_inj one).mpr (behind ▸ second)

theorem Marks.Takes.append {text one two : List Char} {before middle after : Marks}
    (first : Takes text one before middle) (second : Takes text two middle after) :
    Takes text (one ++ two) before after := by
  obtain ⟨stands, rfl⟩ := first
  obtain ⟨stands_behind, rfl⟩ := second
  exact ⟨prefix_drop_append stands stands_behind, by simp [Nat.add_assoc]⟩

theorem guides_take (text : List Char) (set : CharSet) :
    Guides text.toArray [.take set] fun before after =>
      ∃ c, set.contains c = true ∧ Marks.Takes text [c] before after := by
  refine Guides.single fun thread follower followed => ?_
  simp only [Thread.follow] at followed
  split at followed
  · next found =>
      obtain rfl : follower = _ := by simpa using followed
      rw [List.getElem?_toArray, Option.any_eq_true] at found
      obtain ⟨c, at_position, inside⟩ := found
      refine ⟨rfl, c, inside, ?_, rfl⟩
      obtain ⟨within, rfl⟩ := List.getElem?_eq_some_iff.mp at_position
      rw [Thread.marks, List.drop_eq_getElem_cons within]
      exact ⟨_, rfl⟩
  · cases followed

/-- A character of a set once or more often takes a piece of such characters. -/
theorem guides_onceOrMore_take (text : List Char) (set : CharSet) (greedy : Bool) :
    Guides text.toArray (Expression.onceOrMore [.take set] greedy) fun before after =>
      ∃ piece ≠ [], (∀ c ∈ piece, set.contains c = true) ∧
        Marks.Takes text piece before after := by
  refine ((guides_take text set).onceOrMore greedy).mono fun before after repeated => ?_
  induction repeated with
  | single taken =>
      obtain ⟨c, inside, taken⟩ := taken
      exact ⟨[c], List.cons_ne_nil c [], by simpa using inside, taken⟩
  | tail _ taken ih =>
      obtain ⟨piece, -, inside, taken_before⟩ := ih
      obtain ⟨c, c_inside, taken⟩ := taken
      refine ⟨piece ++ [c], by simp, ?_, taken_before.append taken⟩
      simpa [or_imp, forall_and] using ⟨inside, c_inside⟩

/-! ### Groups -/

/-- A group starts at the position. -/
def Marks.open_ (marks : Marks) (name : String) : Marks :=
  { marks with opened := marks.opened.insert name marks.position }

/-- A group ends at the position. -/
def Marks.close (marks : Marks) (name : String) : Marks :=
  { marks with
    held := marks.held.insert name
      ((marks.opened.get? name).getD marks.position, marks.position) }

theorem guides_group {code : List Instruction} {relation : Marks → Marks → Prop}
    (guides : Guides text code relation) (name : String) :
    Guides text (.opening name :: code ++ [.closing name]) fun before after =>
      ∃ inner, relation (before.open_ name) inner ∧ after = inner.close name := by
  have opening : Guides text [.opening name] fun before after => after = before.open_ name :=
    .single fun thread follower followed => by
      obtain rfl : follower = _ := List.mem_singleton.mp followed
      exact ⟨rfl, rfl⟩
  have closing : Guides text [.closing name] fun before after => after = before.close name :=
    .single fun thread follower followed => by
      obtain rfl : follower = _ := List.mem_singleton.mp followed
      exact ⟨rfl, rfl⟩
  refine ((opening.append guides).append closing).mono fun before after => ?_
  rintro ⟨inner, ⟨_, rfl, related⟩, rfl⟩
  exact ⟨inner, related, rfl⟩

/-- A test is passed where it holds. -/
theorem guides_look (test : Look) :
    Guides text [.look test] fun before after =>
      after = before ∧ test.holds text before.position = true := by
  refine .single fun thread follower followed => ?_
  simp only [Thread.follow] at followed
  split at followed
  · next holds =>
      obtain rfl : follower = _ := List.mem_singleton.mp followed
      exact ⟨rfl, rfl, holds⟩
  · cases followed

/-! ### Whole programs -/

/-- What the groups hold after a search is what the code of the program related to its start. -/
theorem Program.captures_of_guides {code : List Instruction} {relation : Marks → Marks → Prop}
    {path : String} (guides : Guides path.toList.toArray code relation) {captured : Dict String}
    (found : Program.captures code.toArray path = some captured) :
    ∃ start after, relation ⟨start, .empty, .empty⟩ after ∧
      captured = .ofList (after.held.entries.map fun (name, start, stop) =>
        (name, String.ofList ((path.toList.drop start).take (stop - start)))) := by
  obtain ⟨last, run_eq, rfl⟩ := Option.map_eq_some_iff.mp found
  obtain ⟨atEnd, thread, listed, steps, led⟩ := leads_of_run run_eq
  obtain ⟨start, -, rfl⟩ := List.mem_map.mp listed
  have held : HeldAt code.toArray 0 code := by
    intro index instruction found
    simpa using found
  obtain ⟨middle, stands, related, fewer, -, led⟩ := guides.behind held atEnd led
  -- Behind the code, the program has no instruction that could lead on.
  have same : middle = last := by
    cases led with
    | done => rfl
    | step here => simp [stands] at here
  exact ⟨start, middle.marks, related, same ▸ rfl⟩

namespace Expression

theorem code_members (e : Expression) : codeOfAll e.members = e.code := by
  cases e <;> simp [members, codeOfAll, code]

theorem codeOfAll_append (front back : List Expression) :
    codeOfAll (front ++ back) = codeOfAll front ++ codeOfAll back := by
  induction front with
  | nil => rfl
  | cons e rest ih => rw [List.cons_append, codeOfAll, codeOfAll, ih, List.append_assoc]

theorem codeOfAll_glue (e : Expression) (rest : List Expression) :
    codeOfAll (glue e rest) = e.code ++ codeOfAll rest := by
  unfold glue
  split
  · simp [codeOfAll, code]
  · rw [codeOfAll]

/-- The code of a sequence in normal form is that of its members one after the other. -/
theorem code_join (expressions : List Expression) :
    (join expressions).code = codeOfAll expressions := by
  have glued (flat : List Expression) : codeOfAll (flat.foldr glue []) = codeOfAll flat := by
    induction flat with
    | nil => rfl
    | cons e rest ih => rw [List.foldr_cons, codeOfAll_glue, ih, codeOfAll]
  have flattened : codeOfAll (expressions.flatMap members) = codeOfAll expressions := by
    induction expressions with
    | nil => rfl
    | cons e rest ih => rw [List.flatMap_cons, codeOfAll_append, code_members, ih, codeOfAll]
  rw [← flattened, ← glued, join]
  split
  · next nil_eq => rw [nil_eq, code, codeOfAll]
  · next e single_eq => rw [single_eq, codeOfAll, codeOfAll, List.append_nil]
  · rw [code]

end Expression
end WebDispatch
