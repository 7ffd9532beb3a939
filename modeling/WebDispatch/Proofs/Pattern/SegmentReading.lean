import WebDispatch.Proofs.Pattern.Captures
import WebDispatch.Proofs.Pattern.WholePath

/-!
# Patterns of characters and variables

Some patterns consist of characters that stand for themselves and of named groups that take all
characters up to a slash.  Reading the pattern adds these elements to the level that is open, one
after the other, and numbers the groups: `State.read_elements`.  So the program of such a pattern is
known instruction by instruction: `code_of_denotes`.
-/

namespace WebDispatch
namespace Pattern

/-- A part of a pattern. -/
inductive Element where
  /-- A character that stands for itself, with or without a backslash. -/
  | literal (c : Char) (escaped : Bool)
  /-- A named group for the characters up to the next slash. -/
  | named (name : List Char)
  deriving DecidableEq

namespace Element

/-- The characters that do not stand for themselves without a backslash. -/
def special : List Char := ['(', ')', '|', '[', '?', '*', '+', '\x7b', '\\', '.', '^', '$']

/-- The written form of an element. -/
def write : Element → List Char
  | literal c escaped => if escaped then ['\\', c] else [c]
  | named name => "(?P<".toList ++ (name ++ ">[^/]+)".toList)

/-- Whether an element can be written: a backslash stands only before characters that have no
meaning behind one. -/
def WellFormed : Element → Prop
  | literal c escaped => if escaped then isEscapable c = true else c ∉ special
  | named name => '>' ∉ name

instance : DecidablePred WellFormed
  | literal c escaped => inferInstanceAs (Decidable (if escaped then isEscapable c = true else _))
  | named name => inferInstanceAs (Decidable ('>' ∉ name))

/-- The name of a variable. -/
def name? : Element → Option String
  | literal _ _ => none
  | named name => some (String.ofList name)

/-- All characters but the slash. -/
def notSlash : CharSet := (CharSet.single '/').compl

/-- What a variable matches. -/
def upToSlash : Expression := .repeated (.set notSlash) 1 none true

/-- The instructions of an element. -/
def code : Element → List Instruction
  | literal c _ => [.take (.single c)]
  | named name =>
      .opening (String.ofList name) :: Expression.onceOrMore [.take notSlash] true ++
        [.closing (String.ofList name)]

end Element

namespace State

/-- Read a text to its end. -/
def read (state : State) (s : List Char) : Except String State := readAll s.length state s

/-- A text is read element by element. -/
theorem read_cons {state : State} (plain : state.flags = {}) (c : Char) (rest : List Char) :
    state.read (c :: rest) = state.step c rest >>= fun (next, rest) => next.read rest := by
  unfold read
  have skipped : state.flags.skip (c :: rest) = c :: rest := by rw [plain]; rfl
  rw [List.length_cons, readAll_eq, skipped]
  dsimp only
  cases step_eq : state.step c rest with
  | error reason => rfl
  | ok found => exact readAll_enough ((state.persists_step c).suffix step_eq).length_le le_rfl

/-- The instructions of what was read. -/
def code (state : State) : List Instruction :=
  Expression.codeOfAll (state.level.members.reverse.map (·.part.value))

/-- No flags were set, and no alternatives are open. -/
structure Plain (state : State) : Prop where
  /-- Nothing is skipped, and characters match themselves. -/
  flags : state.flags = {}
  /-- What is read belongs to one sequence. -/
  alternatives : state.level.alternatives = []

theorem code_push (state : State) (e : Expression) (depth : Nat) :
    (state.push e depth).code = state.code ++ e.code := by
  simp [code, push, Expression.codeOfAll_append, Expression.codeOfAll]

theorem code_ofSet_single (c : Char) :
    (Expression.ofSet (.single c)).code = [.take (.single c)] := by
  simp [Expression.ofSet, CharSet.single, CharSet.single?, CharSet.range, Expression.code]

theorem step_plain {state : State} (plain : state.flags = {}) {c : Char}
    (outside : c ∉ Element.special) (rest : List Char) :
    state.step c rest = .ok (state.push (.ofSet (.single c)) 0, rest) := by
  simp only [Element.special, List.mem_cons, not_or] at outside
  unfold step
  dsimp only
  split
  case h_13 => rw [plain]; rfl
  all_goals simp at outside

theorem escape_escapable {c : Char} (escapable : isEscapable c = true) (flags : Flags)
    (rest : List Char) :
    escape flags (c :: rest) = .ok (.literal c false, rest) := by
  unfold escape
  dsimp only
  split
  all_goals first
    | exact absurd escapable (by decide)
    | exact if_pos escapable

theorem step_escaped {state : State} (plain : state.flags = {}) {c : Char}
    (escapable : isEscapable c = true) (rest : List Char) :
    state.step '\\' (c :: rest) = .ok (state.push (.ofSet (.single c)) 0, rest) := by
  have step_eq : state.step '\\' (c :: rest) =
      escape state.flags (c :: rest) >>= fun found =>
        state.pushEscape found.1 >>= fun next => .ok (next, found.2) := rfl
  rw [step_eq, escape_escapable escapable]
  obtain ⟨flags, groups, level, count, names⟩ := state
  obtain rfl : flags = {} := plain
  rfl

/-- Where the group of a variable is open. -/
def openVariable (state : State) (name : List Char) : State :=
  { state.openCounted (some (String.ofList name)) with
    names := String.ofList name :: state.names }

theorem step_variable {state : State} (plain : state.flags = {}) {name : List Char}
    (closes : '>' ∉ name) {rest : List Char} {found : State × List Char}
    (step_eq : state.step '(' ('?' :: 'P' :: '<' :: (name ++ '>' :: rest)) = .ok found) :
    found = (state.openVariable name, rest) ∧ String.ofList name ∉ state.names := by
  obtain ⟨flags, groups, level, count, names⟩ := state
  obtain rfl : flags = {} := plain
  replace step_eq : openNamed ⟨{}, groups, level, count, names⟩ (name ++ '>' :: rest) = .ok found :=
    step_eq
  unfold openNamed groupName at step_eq
  rw [Text.cutAt?_append rest closes] at step_eq
  cases name with
  | nil => exact nomatch step_eq
  | cons first more =>
      dsimp only at step_eq
      split at step_eq
      · simp only [pure, Except.pure, Bind.bind, Except.bind] at step_eq
        split at step_eq
        · exact nomatch step_eq
        · next fresh =>
            obtain rfl := Except.ok.inj step_eq
            exact ⟨rfl, by simpa using fresh⟩
      · exact nomatch step_eq

/-- Behind the group of a variable. -/
def closeVariable (state : State) (name : List Char) : State :=
  { state.push (.group (state.count + 1) (some (String.ofList name)) Element.upToSlash) 3 with
    count := state.count + 1, names := String.ofList name :: state.names }

theorem read_body {state : State} (plain : state.Plain) (name rest : List Char) :
    (state.openVariable name).read ("[^/]+)".toList ++ rest) =
      (state.closeVariable name).read rest := by
  obtain ⟨flags, groups, level, count, names⟩ := state
  obtain ⟨rfl, -⟩ := plain
  let inside : State := openVariable ⟨{}, groups, level, count, names⟩ name
  have class_read : inside.read ("[^/]+)".toList ++ rest) =
      (inside.push (.ofSet Element.notSlash) 1).read ("+)".toList ++ rest) :=
    read_cons rfl '[' _
  have repeated_read : (inside.push (.ofSet Element.notSlash) 1).read ("+)".toList ++ rest) =
      (inside.push Element.upToSlash 2).read (')' :: rest) :=
    read_cons rfl '+' _
  have closed_read : (inside.push Element.upToSlash 2).read (')' :: rest) =
      (closeVariable ⟨{}, groups, level, count, names⟩ name).read rest :=
    read_cons rfl ')' _
  exact class_read.trans (repeated_read.trans closed_read)

/-- What becomes of a state while a text is read. -/
structure Gains (state next : State) (code : List Instruction) (names : List String) : Prop where
  /-- The text ends between elements. -/
  plain : next.Plain
  /-- The open groups stay. -/
  groups_eq : next.groups = state.groups
  /-- The instructions of the text are put behind those so far. -/
  code_eq : next.code = state.code ++ code
  /-- The names in the text are added. -/
  names_eq : next.names = names.reverse ++ state.names
  /-- No name is given twice. -/
  nodup : state.names.Nodup → next.names.Nodup

theorem gains_push {state : State} (plain : state.Plain) {c : Char} :
    Gains state (state.push (.ofSet (.single c)) 0) [.take (.single c)] [] where
  plain := ⟨plain.flags, plain.alternatives⟩
  groups_eq := rfl
  code_eq := by rw [code_push, code_ofSet_single]
  names_eq := rfl
  nodup := id

theorem Gains.trans {state middle last : State} {one two : List Instruction}
    {names more : List String} (first : Gains state middle one names)
    (second : Gains middle last two more) :
    Gains state last (one ++ two) (names ++ more) where
  plain := second.plain
  groups_eq := second.groups_eq.trans first.groups_eq
  code_eq := by rw [second.code_eq, first.code_eq, List.append_assoc]
  names_eq := by rw [second.names_eq, first.names_eq, List.reverse_append, List.append_assoc]
  nodup := second.nodup ∘ first.nodup

theorem gains_closeVariable {state : State} (plain : state.Plain) {name : List Char}
    (fresh : String.ofList name ∉ state.names) :
    Gains state (state.closeVariable name) (Element.named name).code [String.ofList name] where
  plain := ⟨plain.flags, plain.alternatives⟩
  groups_eq := rfl
  code_eq := code_push state _ 3
  names_eq := rfl
  nodup distinct := List.nodup_cons.mpr ⟨fresh, distinct⟩

/-- An element is read to its end. -/
theorem read_element {element : Element} (wellFormed : element.WellFormed) {state last : State}
    (plain : state.Plain) {rest : List Char}
    (read : state.read (element.write ++ rest) = .ok last) :
    ∃ next, Gains state next element.code element.name?.toList ∧ next.read rest = .ok last := by
  cases element with
  | literal c escaped =>
      have pushed := gains_push plain (c := c)
      refine ⟨_, pushed, ?_⟩
      cases escaped with
      | false =>
          have outside : c ∉ Element.special := wellFormed
          have read_eq := read_cons plain.flags c rest
          rw [step_plain plain.flags outside] at read_eq
          exact read_eq.symm.trans read
      | true =>
          have escapable : isEscapable c = true := wellFormed
          have read_eq := read_cons plain.flags '\\' (c :: rest)
          rw [step_escaped plain.flags escapable] at read_eq
          exact read_eq.symm.trans read
  | named name =>
      have closes : '>' ∉ name := wellFormed
      have text_eq : (Element.named name).write ++ rest =
          '(' :: '?' :: 'P' :: '<' :: (name ++ '>' :: ("[^/]+)".toList ++ rest)) := by
        simp [Element.write]
      rw [text_eq, read_cons plain.flags] at read
      cases step_eq : state.step '('
          ('?' :: 'P' :: '<' :: (name ++ '>' :: ("[^/]+)".toList ++ rest))) with
      | error reason =>
          rw [step_eq] at read
          exact nomatch read
      | ok found =>
          rw [step_eq] at read
          obtain ⟨rfl, fresh⟩ := step_variable plain.flags closes step_eq
          exact ⟨_, gains_closeVariable plain fresh, (read_body plain name rest).symm.trans read⟩

theorem read_elements {elements : List Element} (wellFormed : ∀ e ∈ elements, e.WellFormed)
    {state last : State} (plain : state.Plain) {rest : List Char}
    (read : state.read (elements.flatMap Element.write ++ rest) = .ok last) :
    ∃ next, Gains state next (elements.flatMap Element.code)
      (elements.filterMap Element.name?) ∧ next.read rest = .ok last := by
  induction elements generalizing state with
  | nil =>
      have nothing : Gains state state [] [] := ⟨plain, rfl, (List.append_nil _).symm, rfl, id⟩
      exact ⟨state, nothing, read⟩
  | cons element others ih =>
      obtain ⟨first, wellFormed⟩ := List.forall_mem_cons.mp wellFormed
      rw [List.flatMap_cons, List.append_assoc] at read
      obtain ⟨middle, gained, read⟩ := read_element first plain read
      obtain ⟨next, gained_rest, read⟩ := ih wellFormed gained.plain read
      have names_eq : (element :: others).filterMap Element.name? =
          element.name?.toList ++ others.filterMap Element.name? := by
        cases name_eq : element.name? <;> simp [name_eq]
      rw [names_eq, List.flatMap_cons]
      exact ⟨next, gained.trans gained_rest, read⟩

theorem code_sequence (members : List Member) :
    (sequence members).value.code =
      Expression.codeOfAll (members.reverse.map (·.part.value)) := by
  match members with
  | [] => simp [sequence, Expression.code, Expression.codeOfAll]
  | [member] => simp [sequence, Expression.codeOfAll]
  | _ :: _ :: _ => exact Expression.code_join _

/-- What was read is closed as an expression with its instructions. -/
theorem code_close {state : State} (alternatives : state.level.alternatives = []) :
    state.level.close.value.code = state.code := by
  rw [Level.close, alternatives, alternation]
  exact code_sequence state.level.members

/-- The closing closes the group around a pattern, and a test follows it. -/
theorem read_closing {state last : State} (groups_eq : state.groups = [anchorGroup])
    (read : state.read closing = .ok last) :
    last.level.alternatives = [] ∧
      last.code = .look .textStart :: state.level.close.value.code ++ [.look .textEnd] := by
  have closed := (readAll_closing 0 state).symm.trans read
  obtain ⟨flags, groups, level, count, names⟩ := state
  obtain rfl : groups = [anchorGroup] := groups_eq
  obtain rfl := Except.ok.inj closed
  refine ⟨rfl, ?_⟩
  rw [code_push, code_push]
  rfl

end State

/-! ### Whole patterns -/

/-- The instructions of elements between the ends of a text. -/
def anchoredCode (elements : List Element) : List Instruction :=
  .look .textStart :: elements.flatMap Element.code ++ [.look .textEnd]

/-- The anchored form of elements is read as their instructions between the tests of its anchors. -/
theorem code_of_denotes {elements : List Element} (wellFormed : ∀ e ∈ elements, e.WellFormed)
    {whole : Part Expression}
    (denotes : Denotes (anchoredForm (elements.flatMap Element.write)) whole) :
    whole.value.code = anchoredCode elements ∧ (elements.filterMap Element.name?).Nodup := by
  obtain ⟨last, read_eq, -, rfl⟩ := denotes
  have length_eq : (anchoredForm (elements.flatMap Element.write)).length =
      (elements.flatMap Element.write ++ closing).length + 2 + 2 := by
    simp [anchoredForm, closing]
  rw [length_eq, anchoredForm, readAll_opening,
    State.readAll_enough (Nat.le_add_right _ 2) le_rfl] at read_eq
  obtain ⟨next, gained, read⟩ := State.read_elements wellFormed ⟨rfl, rfl⟩ read_eq
  obtain ⟨alternatives, code_eq⟩ := State.read_closing gained.groups_eq read
  constructor
  · rw [State.code_close alternatives, code_eq, State.code_close gained.plain.alternatives,
      gained.code_eq]
    rfl
  · have distinct := gained.nodup List.nodup_nil
    rw [gained.names_eq] at distinct
    exact List.nodup_reverse.mp (by simpa [State.initial, State.within] using distinct)

end Pattern
end WebDispatch
