import Std.Data.HashMap
import WebDispatch.Pattern.Expression
import WebDispatch.Text.ByteRange

/-!
# The size of expressions

An expression counts as too large if an automaton over bytes for it takes more room than allowed, in
either direction: forwards, where it also marks groups, or backwards.  A state takes a fixed room,
and so does each entry of its list of followers, if it has one.

Only what counts for the room is kept of an automaton: how many states it has, and whether the last
state of a part is a branch, since then what follows is one more entry of its list.  A repeated part
is built as often as it may be repeated.  The states for a set of characters are shared where their
followers are the same, as far as a memory of limited size knows them.
-/

namespace WebDispatch

/-- The part of an automaton that is built so far. -/
structure Extent where
  /-- The number of states. -/
  states : Nat
  /-- The room of their lists, in bytes. -/
  lists : Nat

namespace Extent

/-- The room of a state, in bytes. -/
def stateRoom : Nat := 32

/-- The room of a follower in the list of a branch. -/
def branchRoom : Nat := 4

/-- The room of a follower for a range of bytes. -/
def rangeRoom : Nat := 8

/-- The greatest room of an automaton. -/
def maxRoom : Nat := 10485760

/-- The room of an automaton. -/
def room (extent : Extent) : Nat := extent.states * stateRoom + extent.lists

end Extent

/-- Building an automaton, which fails where it becomes too large. -/
abbrev Build := StateT Extent Option

namespace Build

open Extent (branchRoom rangeRoom)

/-- Add states and entries of lists. -/
def grow (states lists : Nat) : Build Unit := fun extent =>
  let grown : Extent := ⟨extent.states + states, extent.lists + lists⟩
  if grown.room ≤ Extent.maxRoom then some ((), grown) else none

/-- Add one state, and say its number. -/
def state (lists : Nat) : Build Nat := do
  let extent ← get
  grow 1 lists
  return extent.states

/-- Let something follow a part that ends in a branch or not. -/
def link (branch : Bool) : Build Unit := grow 0 (if branch then branchRoom else 0)

/-! ### Sets of characters -/

/-- The states that are known by what follows them.  Each has a slot, which is the last one's that
came there. -/
structure Memory where
  /-- The number of slots. -/
  size : Nat
  /-- The followers and the number of the state in a slot. -/
  slots : Std.HashMap Nat (List Nat × Nat) := ∅

/-- The slot of a state. -/
def Memory.slot (memory : Memory) (followers : List Nat) : Nat :=
  let hash : UInt64 := followers.foldl (fun h n => (h ^^^ n.toUInt64) * 1099511628211)
    14695981039346656037
  hash.toNat % memory.size

/-- The state that is known to have some followers. -/
def Memory.find? (memory : Memory) (followers : List Nat) : Option Nat :=
  match memory.slots[memory.slot followers]? with
  | some (known, number) => if known = followers then some number else none
  | none => none

/-- Remember a state. -/
def Memory.insert (memory : Memory) (followers : List Nat) (number : Nat) : Memory :=
  { memory with slots := memory.slots.insert (memory.slot followers) (followers, number) }

/-- The state with some followers, which is added if it is not known. -/
def shared (memory : Memory) (followers : List Nat) (lists : Nat) : Build (Nat × Memory) :=
  match memory.find? followers with
  | some number => return (number, memory)
  | none => do
      let number ← state lists
      return (number, memory.insert followers number)

/-- A state that is not finished. -/
structure Draft where
  /-- First byte, last byte and follower of each range that has one. -/
  followers : List Nat
  /-- The range that has no follower yet. -/
  pending : Option Text.ByteRange

/-- Give the pending range its follower. -/
def Draft.close (draft : Draft) (follower : Nat) : List Nat :=
  match draft.pending with
  | none => draft.followers
  | some (first, last) => draft.followers ++ [first.toNat, last.toNat, follower]

/-- Finish some drafts, the last one first, each of which is followed by the one after it. -/
def finish (memory : Memory) (follower : Nat) : Nat → List Draft → Build (List Draft × Memory)
  | 0, draft :: drafts => return (⟨draft.close follower, none⟩ :: drafts, memory)
  | count + 1, draft :: drafts => do
      let followers := draft.close follower
      let (number, memory) ← shared memory followers (followers.length / 3 * rangeRoom)
      finish memory number count drafts
  | _, [] => return ([], memory)

/-- How many drafts wait for the ranges that a sequence starts with. -/
def commonLength : List Draft → List Text.ByteRange → Nat
  | draft :: drafts, range :: ranges =>
      if draft.pending = some range then commonLength drafts ranges + 1 else 0
  | _, _ => 0

/-- Add the drafts for the end of a sequence. -/
def extend (ranges : List Text.ByteRange) : List Draft → List Draft
  | draft :: drafts =>
      let more := (ranges.drop 1).map fun range => ⟨[], some range⟩
      more.reverse ++ ⟨draft.followers, ranges.head?⟩ :: drafts
  | [] => []

/-- Add the states for sequences of byte ranges in order, which all lead to one state. -/
def sequences (target : Nat) : Memory → List Draft → List (List Text.ByteRange) → Build Unit
  | memory, drafts, [] => do
      let (drafts, memory) ← finish memory target (drafts.length - 1) drafts
      let followers := drafts.flatMap (·.followers)
      let _ ← shared memory followers (followers.length / 3 * rangeRoom)
  | memory, drafts, ranges :: rest => do
      let common := commonLength drafts.reverse ranges
      let (drafts, memory) ← finish memory target (drafts.length - 1 - common) drafts
      sequences target memory (extend (ranges.drop common) drafts) rest

/-- Add the states for a sequence of byte ranges backwards, up to the state `follower`. -/
def backwardSequence (memory : Memory) (follower : Nat) :
    List Text.ByteRange → Build Memory
  | [] => do
      link true
      return memory
  | (first, last) :: ranges => do
      let (number, memory) ← shared memory [follower, first.toNat, last.toNat] 0
      backwardSequence memory number ranges

/-- Add the states for sequences of byte ranges backwards. -/
def backwardSequences (target : Nat) : Memory → List (List Text.ByteRange) → Build Unit
  | _, [] => return ()
  | memory, ranges :: rest => do
      let memory ← backwardSequence memory target ranges
      backwardSequences target memory rest

/-- The encodings of the characters of a set. -/
def encodings (chars : CharSet) : List (List Text.ByteRange) :=
  chars.ranges.flatMap fun (first, last) => Text.byteRanges first last

/-- Add the states for a set of characters. -/
def set (backward : Bool) (chars : CharSet) : Build Unit := do
  if chars.isAscii then grow 2 (chars.ranges.length * rangeRoom)
  else if backward then
    grow 1 0
    let target ← state 0
    backwardSequences target { size := 1000 } (encodings chars)
  else
    let target ← state 0
    sequences target { size := 10000 } [⟨[], none⟩] (encodings chars)

/-! ### Repetitions -/

/-- Add copies of a part, one after the other. -/
def copies (part : Build Bool) : Nat → Build Bool
  | 0 => do
      grow 1 0
      return false
  | 1 => part
  | count + 1 => do
      link (← part)
      copies part count

/-- Add copies of a part behind something, each of which may be left out with those after it. -/
def optionals (part : Build Bool) (branch : Bool) : Nat → Build Unit
  | 0 => link branch
  | count + 1 => do
      grow 1 0
      let next ← part
      link branch
      grow 0 (2 * branchRoom)
      optionals part next count

/-- Add a part that is repeated. -/
def repetition (part : Build Bool) (takesSome : Bool) (least : Nat) (most : Option Nat) :
    Build Bool := do
  match least, most with
  | 0, none =>
      if takesSome then
        grow 1 0
        link (← part)
        grow 0 branchRoom
        return true
      else
        link (← part)
        grow 3 (4 * branchRoom)
        return false
  | least, none =>
      link (← copies part least)
      grow 1 branchRoom
      return true
  | 0, some 1 =>
      grow 1 0
      link (← part)
      grow 1 (2 * branchRoom)
      return false
  | least, some most =>
      let branch ← copies part least
      if least = most then return branch
      grow 1 0
      optionals part branch (most - least)
      return false

/-! ### Texts to choose from -/

/-- The texts to choose from, by their bytes.  A text that ends at a state stands between the texts
that go on there, by the order of the choice. -/
inductive Trie where
  /-- The followers by byte of one group after the other, the last one first, which are divided by
  the ends of texts. -/
  | node (active : List (UInt8 × Trie)) (closed : List (List (UInt8 × Trie)))

namespace Trie

/-- No text goes on. -/
def leaf : Trie := node [] []

/-- Whether no text goes on. -/
def isLeaf : Trie → Bool
  | node active closed => active.isEmpty && closed.all List.isEmpty

/-- Change the follower by a byte. -/
def modify (byte : UInt8) (change : Trie → Trie) : List (UInt8 × Trie) → List (UInt8 × Trie)
  | [] => [(byte, change leaf)]
  | (b, t) :: rest => if b = byte then (b, change t) :: rest else (b, t) :: modify byte change rest

/-- Add a text. -/
def insert : List UInt8 → Trie → Trie
  | [], node active closed =>
      if (node active closed).isLeaf && !closed.isEmpty then node active closed
      else node [] (active :: closed)
  | byte :: bytes, node active closed => node (modify byte (insert bytes) active) closed

mutual

/-- The states and lists of a tree. -/
def extent : Trie → Extent
  | node active closed =>
      let (inner, groups) := groupExtent active
      let (more, others) := groupsExtent closed
      if groups + others = 0 then ⟨0, 0⟩
      else ⟨inner.states + more.states + 1,
        inner.lists + more.lists + (groups + others + closed.length) * branchRoom⟩

/-- The states and lists of followers that are tried at once, and whether there are any. -/
def groupExtent (group : List (UInt8 × Trie)) : Extent × Nat :=
  let inner := followersExtent group
  let count := group.length
  if count = 0 then (⟨0, 0⟩, 0)
  else (⟨inner.states + 1, inner.lists + if count = 1 then 0 else count * rangeRoom⟩, 1)

/-- The states and lists of groups, and how many of them are not empty. -/
def groupsExtent : List (List (UInt8 × Trie)) → Extent × Nat
  | [] => (⟨0, 0⟩, 0)
  | group :: rest =>
      let (first, count) := groupExtent group
      let (others, counts) := groupsExtent rest
      (⟨first.states + others.states, first.lists + others.lists⟩, count + counts)

/-- The states and lists behind followers. -/
def followersExtent : List (UInt8 × Trie) → Extent
  | [] => ⟨0, 0⟩
  | (_, t) :: rest =>
      let first := t.extent
      let others := followersExtent rest
      ⟨first.states + others.states, first.lists + others.lists⟩

end

end Trie
end Build

namespace Expression

open Extent (branchRoom rangeRoom)

/-- The bytes of a text. -/
def bytes (text : List Char) : List UInt8 := text.flatMap String.utf8EncodeChar

/-- The text that is all an expression matches. -/
def literal? : Expression → Option (List Char)
  | literal text => some text
  | _ => none

mutual

/-- Add the states for an expression, and say whether the last one is a branch. -/
def build (backward : Bool) : Expression → Build Bool
  | empty => do
      Build.grow 1 0
      return false
  | literal text => do
      Build.grow (bytes text).length 0
      return false
  | set chars => do
      Build.set backward chars
      return false
  | look _ => do
      Build.grow 1 0
      return false
  | repeated body least most _ =>
      Build.repetition (body.build backward) body.takesSome least most
  | group _ _ body => do
      if backward then body.build backward
      else
        Build.grow 1 0
        Build.link (← body.build backward)
        Build.grow 1 0
        return false
  | sequence members => if backward then buildBackwards members else buildAll members
  | choice alternatives =>
      match alternatives.mapM literal? with
      | some texts => do
          let ordered := texts.map fun text =>
            if backward then (bytes text).reverse else bytes text
          let extent := (ordered.foldl (fun t text => t.insert text) Build.Trie.leaf).extent
          Build.grow (extent.states + 1) extent.lists
          return false
      | none => do
          buildAny backward alternatives 0
          return false

/-- Add the states for expressions that follow each other. -/
def buildAll : List Expression → Build Bool
  | [] => do
      Build.grow 1 0
      return false
  | [e] => e.build false
  | e :: rest => do
      Build.link (← e.build false)
      buildAll rest

/-- Add the states for expressions that follow each other backwards. -/
def buildBackwards : List Expression → Build Bool
  | [] => do
      Build.grow 1 0
      return false
  | [e] => e.build true
  | e :: rest => do
      Build.link (← buildBackwards rest)
      e.build true

/-- Add the states for alternatives, of which some are there already.  The branch between them is
added with the second one. -/
def buildAny (backward : Bool) : List Expression → Nat → Build Unit
  | [], _ => return ()
  | e :: rest, before => do
      Build.link (← e.build backward)
      Build.grow (if before = 1 then 2 else 0) branchRoom
      buildAny backward rest (before + 1)

end

mutual

/-- Whether every match is known to hold a test at its start, or at its end. -/
def isAnchored (backward : Bool) (test : Look) : Expression → Bool
  | look t => t == test
  | repeated body least _ _ => least != 0 && body.isAnchored backward test
  | group _ _ body => body.isAnchored backward test
  | sequence members =>
      if backward then endAnchored test members else startAnchored test members
  | choice alternatives => allAnchored backward test alternatives
  | _ => false

/-- Whether a test is known to hold before the first character of a sequence. -/
def startAnchored (test : Look) : List Expression → Bool
  | [] => false
  | e :: rest => e.isAnchored false test || (e.takesNone && startAnchored test rest)

/-- Whether a test is known to hold after the last character of a sequence. -/
def endAnchored (test : Look) : List Expression → Bool
  | [] => false
  | e :: rest => endAnchored test rest || (rest.all takesNone && e.isAnchored true test)

/-- Whether a test is known to hold in every alternative. -/
def allAnchored (backward : Bool) (test : Look) : List Expression → Bool
  | [] => true
  | e :: rest => e.isAnchored backward test && allAnchored backward test rest

end

/-- Build the automaton for an expression.  If a match may start anywhere, a loop over all bytes
comes first. -/
def buildWhole (backward : Bool) (e : Expression) : Build Unit := do
  let anchored := e.isAnchored backward (if backward then .textEnd else .textStart)
  if anchored then Build.grow 1 0 else Build.grow 3 (rangeRoom + 2 * branchRoom)
  if backward then Build.link (← e.build backward)
  else
    let _ ← (group 0 none e).build backward
  Build.grow 1 0

/-- Whether an expression is not too large. -/
def fits (e : Expression) : Bool :=
  ((e.buildWhole false).run ⟨0, 0⟩).isSome && ((e.buildWhole true).run ⟨0, 0⟩).isSome

end Expression
end WebDispatch
