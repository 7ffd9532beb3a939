import Mathlib.Data.Finset.Card
import Mathlib.Data.Finset.Range
import WebDispatch.Pattern.Program

/-!
# Runs of programs

A program accepts from a place if some way through its instructions leads to its end.  The run of a
program leaves out the places that it has tried already, and still finds such a way if there is one:
when it finds none, the places that it tried are closed under the instructions, and no way leaves
them.  So a search finds a match exactly if the program accepts from its start at some position:
`Program.search_isSome_iff`.
-/

namespace WebDispatch

/-- One instruction leads from a place, an address and a position, to another. -/
def Instruction.Leads (text : Array Char) (address position : Nat) :
    Instruction → Nat → Nat → Prop
  | take chars, next, after =>
      next = address + 1 ∧ after = position + 1 ∧ text[position]?.any chars.contains = true
  | look test, next, after =>
      next = address + 1 ∧ after = position ∧ test.holds text position = true
  | opening _, next, after | closing _, next, after => next = address + 1 ∧ after = position
  | jump distance, next, after => next = (address + distance).toNat ∧ after = position
  | fork distance _, next, after =>
      (next = address + 1 ∨ next = (address + distance).toNat) ∧ after = position

variable {text : Array Char}

/-- The threads after an instruction stand where it leads to. -/
theorem Thread.exists_mem_follow {thread : Thread} {instruction : Instruction} {next after : Nat} :
    (∃ follower ∈ thread.follow text instruction,
        follower.address = next ∧ follower.position = after) ↔
      instruction.Leads text thread.address thread.position next after := by
  cases instruction with
  | take chars =>
      simp only [follow, Instruction.Leads]
      split
      · next found => simp [found, Thread.next, eq_comm]
      · next missing => simp [missing]
  | look test =>
      simp only [follow, Instruction.Leads]
      split
      · next holds => simp [holds, Thread.next, eq_comm]
      · next fails => simp [fails]
  | opening name | closing name => simp [follow, Instruction.Leads, Thread.next, eq_comm]
  | jump distance => simp [follow, Instruction.Leads, Thread.far, eq_comm]
  | fork distance farFirst =>
      simp only [follow, Instruction.Leads]
      cases farFirst <;> simp [Thread.next, Thread.far] <;> grind

namespace Program

/-- A program comes to its end from a place in a number of steps. -/
inductive Accepts (program : Program) (text : Array Char) : Nat → Nat → Nat → Prop
  | done {address position : Nat} (atEnd : program[address]? = none) :
      Accepts program text 0 address position
  | step {steps address position next after : Nat} {instruction : Instruction}
      (here : program[address]? = some instruction)
      (leads : instruction.Leads text address position next after)
      (rest : Accepts program text steps next after) :
      Accepts program text (steps + 1) address position

variable {program : Program}

/-! ### What a run finds is accepted -/

/-- A thread that a run finds comes from one of the threads that it was given. -/
theorem accepts_of_run {fuel : Nat} {seen : NumberSet} {threads : List Thread} {found : Thread}
    (run_eq : program.run text fuel seen threads = some found) :
    ∃ thread ∈ threads, ∃ steps, program.Accepts text steps thread.address thread.position := by
  induction fuel generalizing seen threads with
  | zero => simp [run] at run_eq
  | succ fuel ih =>
      cases threads with
      | nil => simp [run] at run_eq
      | cons thread threads =>
          rw [run] at run_eq
          split at run_eq
          · obtain ⟨other, listed, accepted⟩ := ih run_eq
            exact ⟨other, List.mem_cons_of_mem _ listed, accepted⟩
          · split at run_eq
            · next atEnd => exact ⟨thread, List.mem_cons_self, 0, .done atEnd⟩
            · next instruction here =>
                obtain ⟨other, listed, steps, accepted⟩ := ih run_eq
                obtain followed | listed := List.mem_append.1 listed
                · have leads := Thread.exists_mem_follow.1 ⟨other, followed, rfl, rfl⟩
                  exact ⟨thread, List.mem_cons_self, steps + 1, .step here leads accepted⟩
                · exact ⟨other, List.mem_cons_of_mem _ listed, steps, accepted⟩

/-! ### What is accepted is found -/

/-- Places that no way to the end leaves: there is an instruction at each, and it leads only to
places among them. -/
structure Closed (program : Program) (text : Array Char) (places : Nat → Nat → Prop) : Prop where
  /-- The program does not end at a place. -/
  runs : ∀ {address position}, places address position → program[address]? ≠ none
  /-- What an instruction leads to is a place. -/
  leads : ∀ {address position next after instruction}, places address position →
    program[address]? = some instruction → instruction.Leads text address position next after →
    places next after

theorem Closed.not_accepts {places : Nat → Nat → Prop} (closed : Closed program text places)
    {steps address position : Nat} (accepted : program.Accepts text steps address position) :
    ¬ places address position := by
  induction accepted with
  | done atEnd => exact fun inside => closed.runs inside atEnd
  | step here leads _ ih => exact fun inside => ih (closed.leads inside here leads)

/-- The number of a place. -/
abbrev number (text : Array Char) (address position : Nat) : Nat :=
  address * (text.size + 1) + position

/-- The number of places where there is an instruction. -/
abbrev places (program : Program) (text : Array Char) : Nat := program.size * (text.size + 1)

/-- Whether a place was tried. -/
def Tried (text : Array Char) (seen : NumberSet) (address position : Nat) : Prop :=
  position ≤ text.size ∧ seen.contains (number text address position) = true

/-- How many places were not tried yet. -/
def untried (program : Program) (text : Array Char) (seen : NumberSet) : Nat :=
  ((Finset.range (program.places text)).filter (seen.contains · = false)).card

/-- What holds between two steps of a run. -/
structure Ready (program : Program) (text : Array Char) (seen : NumberSet)
    (threads : List Thread) : Prop where
  /-- Every place can be remembered. -/
  holds : ∀ place < program.places text, seen.Holds place
  /-- There is an instruction where a place was tried. -/
  runs : ∀ {address position}, Tried text seen address position → program[address]? ≠ none
  /-- The instruction at a place that was tried leads to such places or to the threads. -/
  leads : ∀ {address position next after instruction}, Tried text seen address position →
    program[address]? = some instruction → instruction.Leads text address position next after →
    Tried text seen next after ∨
      ∃ thread ∈ threads, thread.address = next ∧ thread.position = after
  /-- The threads stand in the text. -/
  inside : ∀ thread ∈ threads, thread.position ≤ text.size

theorem number_inj {a i b j : Nat} (first : i ≤ text.size) (second : j ≤ text.size)
    (same : number text a i = number text b j) : a = b ∧ i = j := by
  have div (c k : Nat) (inside : k ≤ text.size) : number text c k / (text.size + 1) = c := by
    rw [number, Nat.mul_comm, Nat.mul_add_div (by omega), Nat.div_eq_of_lt (by omega), Nat.add_zero]
  have addresses : a = b := by rw [← div a i first, same, div b j second]
  subst addresses
  exact ⟨rfl, Nat.add_left_cancel same⟩

theorem number_lt {address position : Nat} (inside : position ≤ text.size)
    (runs : address < program.size) : number text address position < program.places text := by
  have small : number text address position < (address + 1) * (text.size + 1) := by
    rw [number, Nat.succ_mul]
    omega
  exact Nat.lt_of_lt_of_le small (Nat.mul_le_mul_right _ runs)

theorem tried_insert {seen : NumberSet} {address position : Nat} (inside : position ≤ text.size)
    (holds : seen.Holds (number text address position)) (next after : Nat) :
    Tried text (seen.insert (number text address position)) next after ↔
      (next = address ∧ after = position) ∨ Tried text seen next after := by
  simp only [Tried, NumberSet.contains_insert holds, Bool.or_eq_true, beq_iff_eq]
  constructor
  · rintro ⟨stands, same | tried⟩
    · obtain ⟨rfl, rfl⟩ := number_inj inside stands same
      exact .inl ⟨rfl, rfl⟩
    · exact .inr ⟨stands, tried⟩
  · rintro (⟨rfl, rfl⟩ | ⟨stands, tried⟩)
    · exact ⟨inside, .inl rfl⟩
    · exact ⟨stands, .inr tried⟩

/-- To try a place takes one from those that were not tried. -/
theorem untried_insert {seen : NumberSet} {place : Nat} (below : place < program.places text)
    (holds : seen.Holds place) (fresh : seen.contains place = false) :
    program.untried text (seen.insert place) + 1 = program.untried text seen := by
  have erased : (Finset.range (program.places text)).filter
      ((seen.insert place).contains · = false) =
        ((Finset.range (program.places text)).filter (seen.contains · = false)).erase place := by
    ext other
    simp only [Finset.mem_filter, Finset.mem_range, Finset.mem_erase,
      NumberSet.contains_insert holds, Bool.or_eq_false_iff, beq_eq_false_iff_ne]
    constructor
    · exact fun ⟨small, differs, missing⟩ => ⟨differs.symm, small, missing⟩
    · exact fun ⟨differs, small, missing⟩ => ⟨small, differs.symm, missing⟩
  rw [untried, erased]
  exact Finset.card_erase_add_one (by simp [below, fresh])

/-- The threads after an instruction stand in the text. -/
theorem inside_of_leads {instruction : Instruction} {address position next after : Nat}
    (inside : position ≤ text.size)
    (leads : instruction.Leads text address position next after) : after ≤ text.size := by
  cases instruction with
  | take chars =>
      obtain ⟨-, rfl, taken⟩ := leads
      by_contra outside
      simp [Array.getElem?_eq_none (show text.size ≤ position by omega)] at taken
  | look test => exact leads.2.1 ▸ inside
  | opening name | closing name | jump distance | fork distance farFirst => exact leads.2 ▸ inside

theorem length_follow_le (text : Array Char) (thread : Thread) (instruction : Instruction) :
    (thread.follow text instruction).length ≤ 2 := by
  cases instruction <;> simp only [Thread.follow] <;> (try split) <;> simp

variable {seen : NumberSet} {thread : Thread} {threads : List Thread}

/-- A thread at a place that was tried can be left out. -/
theorem Ready.skip (ready : Ready program text seen (thread :: threads))
    (tried : Tried text seen thread.address thread.position) :
    Ready program text seen threads where
  holds := ready.holds
  runs := ready.runs
  leads there here leads := by
    obtain tried | ⟨other, listed, rfl, rfl⟩ := ready.leads there here leads
    · exact .inl tried
    · obtain rfl | listed := List.mem_cons.1 listed
      · exact .inl tried
      · exact .inr ⟨other, listed, rfl, rfl⟩
  inside other listed := ready.inside other (List.mem_cons_of_mem _ listed)

/-- To follow the instruction of a thread at a new place keeps everything in order. -/
theorem Ready.follow {instruction : Instruction}
    (ready : Ready program text seen (thread :: threads))
    (here : program[thread.address]? = some instruction) :
    Ready program text (seen.insert (place text thread))
      (thread.follow text instruction ++ threads) := by
  have inside := ready.inside thread List.mem_cons_self
  have runs : thread.address < program.size := (Array.getElem?_eq_some_iff.1 here).1
  have tried := tried_insert inside (ready.holds _ (number_lt inside runs))
  refine ⟨fun other small => NumberSet.holds_insert (ready.holds other small), ?_, ?_, ?_⟩
  · intro address position there
    obtain ⟨rfl, rfl⟩ | there := (tried _ _).1 there
    · simp [here]
    · exact ready.runs there
  · intro address position next after other there found leads
    obtain ⟨rfl, rfl⟩ | there := (tried _ _).1 there
    · obtain rfl : instruction = other := Option.some.inj (here.symm.trans found)
      obtain ⟨follower, followed, stands⟩ := Thread.exists_mem_follow.2 leads
      exact .inr ⟨follower, List.mem_append_left _ followed, stands⟩
    · obtain before | ⟨other, listed, rfl, rfl⟩ := ready.leads there found leads
      · exact .inl ((tried _ _).2 (.inr before))
      · obtain rfl | listed := List.mem_cons.1 listed
        · exact .inl ((tried _ _).2 (.inl ⟨rfl, rfl⟩))
        · exact .inr ⟨other, List.mem_append_right _ listed, rfl, rfl⟩
  · intro other listed
    obtain followed | listed := List.mem_append.1 listed
    · exact inside_of_leads inside (Thread.exists_mem_follow.1 ⟨other, followed, rfl, rfl⟩)
    · exact ready.inside other (List.mem_cons_of_mem _ listed)

/-- If a run finds nothing, no way leaves the places that it tried, and the threads that it was
given stand at such places. -/
theorem exists_closed_of_run_eq_none {fuel : Nat} (ready : Ready program text seen threads)
    (enough : 2 * program.untried text seen + threads.length + 1 ≤ fuel)
    (run_eq : program.run text fuel seen threads = none) :
    ∃ places, Closed program text places ∧
      (∀ {address position}, Tried text seen address position → places address position) ∧
      ∀ thread ∈ threads, places thread.address thread.position := by
  induction fuel generalizing seen threads with
  | zero => omega
  | succ fuel ih =>
      cases threads with
      | nil =>
          refine ⟨Tried text seen, ⟨ready.runs, ?_⟩, id, by simp⟩
          intro address position next after instruction there here leads
          simpa using ready.leads there here leads
      | cons thread threads =>
          have inside := ready.inside thread List.mem_cons_self
          rw [run] at run_eq
          rw [List.length_cons] at enough
          split at run_eq
          · next known =>
              have tried : Tried text seen thread.address thread.position := ⟨inside, known⟩
              obtain ⟨places, closed, keeps, lists⟩ := ih (ready.skip tried) (by omega) run_eq
              exact ⟨places, closed, keeps, List.forall_mem_cons.2 ⟨keeps tried, lists⟩⟩
          · next fresh =>
              split at run_eq
              · cases run_eq
              · next instruction here =>
                  have below := number_lt inside (Array.getElem?_eq_some_iff.1 here).1
                  have holds := ready.holds _ below
                  have fewer := untried_insert below holds (Bool.eq_false_iff.2 fresh)
                  have few := length_follow_le text thread instruction
                  obtain ⟨places, closed, keeps, lists⟩ := ih (ready.follow here)
                    (by rw [List.length_append]; simp only [place, number] at *; omega) run_eq
                  refine ⟨places, closed, fun there => keeps ?_, ?_⟩
                  · exact (tried_insert inside holds _ _).2 (.inr there)
                  · refine List.forall_mem_cons.2 ⟨keeps ?_, fun other listed => ?_⟩
                    · exact (tried_insert inside holds _ _).2 (.inl ⟨rfl, rfl⟩)
                    · exact lists other (List.mem_append_right _ listed)

theorem untried_le (program : Program) (text : Array Char) (seen : NumberSet) :
    program.untried text seen ≤ program.places text :=
  (Finset.card_filter_le _ _).trans_eq (Finset.card_range _)

/-- Before a run nothing was tried, so only the threads have to stand in the text. -/
theorem ready_below (inside : ∀ thread ∈ threads, thread.position ≤ text.size) :
    Ready program text (.below (program.places text)) threads := by
  have nothing {address position : Nat} :
      ¬ Tried text (.below (program.places text)) address position := by
    simp [Tried, NumberSet.contains_below]
  exact ⟨fun place => NumberSet.holds_below, fun there => (nothing there).elim,
    fun there => (nothing there).elim, inside⟩

/-- A search finds a match if and only if the program accepts from its start somewhere in the
text. -/
theorem search_isSome_iff (program : Program) (text : String) :
    (program.search text).isSome = true ↔
      ∃ start ≤ text.toList.length, ∃ steps,
        program.Accepts text.toList.toArray steps 0 start := by
  constructor
  · intro found
    obtain ⟨last, run_eq⟩ := Option.isSome_iff_exists.1 found
    obtain ⟨thread, listed, steps, accepted⟩ := accepts_of_run run_eq
    obtain ⟨start, small, rfl⟩ := List.mem_map.1 listed
    exact ⟨start, Nat.lt_succ_iff.1 (List.mem_range.1 small), steps, accepted⟩
  · rintro ⟨start, inside, steps, accepted⟩
    by_contra missing
    have run_eq := Option.not_isSome_iff_eq_none.1 missing
    have few := untried_le program text.toList.toArray
      (.below (program.places text.toList.toArray))
    obtain ⟨places, closed, -, lists⟩ := exists_closed_of_run_eq_none
      (ready_below (by
        intro thread listed
        obtain ⟨other, small, rfl⟩ := List.mem_map.1 listed
        exact Nat.lt_succ_iff.1 (List.mem_range.1 small)))
      (by simp only [List.length_map, List.length_range, places] at *; omega) run_eq
    refine closed.not_accepts accepted (lists ⟨0, start, .empty, .empty⟩ ?_)
    exact List.mem_map.2 ⟨start, List.mem_range.2 (Nat.lt_succ_iff.2 inside), rfl⟩

end Program
end WebDispatch
