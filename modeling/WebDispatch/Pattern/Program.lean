import WebDispatch.Dict
import WebDispatch.NumberSet
import WebDispatch.Pattern.Expression

/-!
# Programs that match expressions

An expression is matched by a program, a list of instructions that are followed one after the other.
A fork starts two threads at once.  Threads are run in the order in which the expression prefers
them, and of two that come to the same instruction at the same position only the first goes on,
since the second could not find anything new.
-/

namespace WebDispatch

/-- An instruction.  After it, the one behind it follows, or the one at a distance from it. -/
inductive Instruction where
  /-- Take a character of a set. -/
  | take (chars : CharSet)
  /-- Go on only where a test holds. -/
  | look (test : Look)
  /-- A group starts. -/
  | opening (name : String)
  /-- A group ends. -/
  | closing (name : String)
  /-- Go on at a distance. -/
  | jump (distance : Int)
  /-- Go on behind and at a distance; `farFirst` if the distant thread is preferred. -/
  | fork (distance : Int) (farFirst : Bool)

/-- A program.  A match is found at its end. -/
abbrev Program := Array Instruction

namespace Expression

/-! ### The program of an expression -/

/-- Follow some instructions or skip them. -/
def optionally (code : List Instruction) (greedy : Bool) : List Instruction :=
  .fork (code.length + 1) (!greedy) :: code

/-- Follow some instructions once or more often. -/
def onceOrMore (code : List Instruction) (greedy : Bool) : List Instruction :=
  code ++ [.fork (-code.length) greedy]

/-- Follow some instructions any number of times. -/
def anyTimes (code : List Instruction) (greedy : Bool) : List Instruction :=
  .fork (code.length + 2) (!greedy) :: code ++ [.jump (-(code.length + 1))]

/-- Follow some instructions a number of times. -/
def times (code : List Instruction) (count : Nat) : List Instruction :=
  (List.replicate count code).flatten

/-- Follow some instructions at most a number of times.  Each time may be the last. -/
def atMost (code : List Instruction) (greedy : Bool) (count : Nat) : List Instruction :=
  let length := code.length + 1
  (List.range count).flatMap fun i => .fork ((count - i) * length : Nat) (!greedy) :: code

/-- Follow some instructions between `least` and `most` times.  Without an upper bound, instructions
that may take no character are not followed again where they took none. -/
def codeOfRepeated (code : List Instruction) (takesSome : Bool) (least : Nat) (most : Option Nat)
    (greedy : Bool) : List Instruction :=
  match least, most with
  | 0, none =>
      if takesSome then anyTimes code greedy else optionally (onceOrMore code greedy) greedy
  | least + 1, none => times code least ++ onceOrMore code greedy
  | least, some most => times code least ++ atMost code greedy (most - least)

/-- Follow the first instructions or else the second ones. -/
def either (first second : List Instruction) : List Instruction :=
  .fork (first.length + 2) false :: first ++ .jump (second.length + 1) :: second

mutual

/-- The instructions that match an expression. -/
def code : Expression → List Instruction
  | empty => []
  | literal text => text.map fun c => .take (.single c)
  | set chars => [.take chars]
  | look test => [.look test]
  | repeated body least most greedy => codeOfRepeated body.code body.takesSome least most greedy
  | group _ none body => body.code
  | group _ (some name) body => .opening name :: body.code ++ [.closing name]
  | sequence members => codeOfAll members
  | choice alternatives => codeOfAny alternatives

/-- The instructions that match expressions one after the other. -/
def codeOfAll : List Expression → List Instruction
  | [] => []
  | e :: rest => e.code ++ codeOfAll rest

/-- The instructions that match one of some expressions. -/
def codeOfAny : List Expression → List Instruction
  | [] => [.take .empty]
  | [e] => e.code
  | e :: rest => either e.code (codeOfAny rest)

end

/-- The program that matches an expression. -/
def program (e : Expression) : Program := e.code.toArray

end Expression

/-! ### Running a program -/

/-- Where the run of a program stands. -/
structure Thread where
  /-- The number of the next instruction. -/
  address : Nat
  /-- The position in the text. -/
  position : Nat
  /-- Where the groups last started. -/
  opened : Dict Nat := .empty
  /-- The last text of each group, from one position to another. -/
  held : Dict (Nat × Nat) := .empty

namespace Thread

/-- Go on behind an instruction. -/
def next (thread : Thread) : Thread := { thread with address := thread.address + 1 }

/-- Go on at a distance from an instruction. -/
def far (thread : Thread) (distance : Int) : Thread :=
  { thread with address := (thread.address + distance).toNat }

/-- The threads after an instruction, the preferred one first. -/
def follow (thread : Thread) (text : Array Char) : Instruction → List Thread
  | .take chars =>
      if text[thread.position]?.any chars.contains then
        [{ thread.next with position := thread.position + 1 }]
      else []
  | .look test => if test.holds text thread.position then [thread.next] else []
  | .opening name => [{ thread.next with opened := thread.opened.insert name thread.position }]
  | .closing name =>
      let start := (thread.opened.get? name).getD thread.position
      [{ thread.next with held := thread.held.insert name (start, thread.position) }]
  | .jump distance => [thread.far distance]
  | .fork distance farFirst =>
      if farFirst then [thread.far distance, thread.next] else [thread.next, thread.far distance]

end Thread

namespace Program

/-- The number of a place in a run: an instruction at a position. -/
def place (text : Array Char) (thread : Thread) : Nat :=
  thread.address * (text.size + 1) + thread.position

/-- The first thread that comes to the end of a program.  `seen` holds the places that were tried,
and `fuel` bounds the threads. -/
def run (program : Program) (text : Array Char) : Nat → NumberSet → List Thread → Option Thread
  | 0, _, _ => none
  | _ + 1, _, [] => none
  | fuel + 1, seen, thread :: threads =>
      if seen.contains (place text thread) then run program text fuel seen threads
      else
        match program[thread.address]? with
        | none => some thread
        | some instruction =>
            run program text fuel (seen.insert (place text thread))
              (thread.follow text instruction ++ threads)

/-- The thread that matches at the first position where one does.  No instruction is followed twice
at one position, and at most two threads go on from it. -/
def search (program : Program) (text : String) : Option Thread :=
  let text := text.toList.toArray
  let places := program.size * (text.size + 1)
  let starts := (List.range (text.size + 1)).map fun position => { address := 0, position }
  program.run text (2 * places + text.size + 2) (.below places) starts

/-- Whether a program finds a match in a text. -/
def isMatch (program : Program) (text : String) : Bool := (program.search text).isSome

/-- What the groups of the first match hold. -/
def captures (program : Program) (text : String) : Option (Dict String) :=
  (program.search text).map fun thread =>
    .ofList (thread.held.entries.map fun (name, start, stop) =>
      (name, String.ofList ((text.toList.drop start).take (stop - start))))

end Program
end WebDispatch
