import WebDispatch.Pattern.CharClass
import WebDispatch.Pattern.Repetition
import WebDispatch.Pattern.Size
import WebDispatch.Unicode.Current

/-!
# Reading regular expressions

The written form of regular expressions.  It is read from left to right with a stack of open groups;
flags that are set inside a group hold until the group ends.

Nesting is limited: the depth of an expression counts groups, repetitions, classes, and sequences
and alternatives of more than one member.  So is the size.
-/

namespace WebDispatch
namespace Pattern

/-- A member of a sequence. -/
structure Member where
  /-- The member. -/
  part : Part Expression
  /-- Whether a repetition may follow. -/
  repeatable : Bool

/-- Alternatives that are being read. -/
structure Level where
  /-- The finished alternatives, the last one first. -/
  alternatives : List (Part Expression)
  /-- The members of the current alternative, the last one first. -/
  members : List Member

/-- An open group. -/
structure Group where
  /-- What stands around the group. -/
  outer : Level
  /-- The flags to return to. -/
  flags : Flags
  /-- The number and the name of a group that is counted. -/
  label : Option (Nat × Option String)

/-- The members in order as one expression. -/
def sequence (members : List Member) : Part Expression :=
  match members with
  | [] => ⟨.empty, 0⟩
  | [m] => m.part
  | members =>
      ⟨.join (members.reverse.map (·.part.value)), depthOver (members.map (·.part.depth))⟩

/-- The alternatives in order as one expression. -/
def alternation (alternatives : List (Part Expression)) : Part Expression :=
  match alternatives with
  | [p] => p
  | alternatives =>
      ⟨.anyOf (alternatives.reverse.map (·.value)), depthOver (alternatives.map (·.depth))⟩

/-- Everything on a level as one expression. -/
def Level.close (level : Level) : Part Expression :=
  alternation (sequence level.members :: level.alternatives)

/-- Repeat the last member of a sequence. -/
def repeatLast (flags : Flags) (least : Nat) (most : Option Nat) (isLazy : Bool) :
    List Member → Except String (List Member)
  | member :: members =>
      if member.repeatable then
        let greedy := isLazy == flags.swapGreed
        let value := Expression.repetition member.part.value least most greedy
        .ok (⟨⟨value, depthOver [member.part.depth]⟩, true⟩ :: members)
      else .error "repetition operator missing expression"
  | [] => .error "repetition operator missing expression"

/-- Whether a character may stand in the name of a group. -/
def isNameChar (first : Bool) (c : Char) : Bool :=
  c == '_' || (if first then Unicode.Current.isAlphabetic c
    else c == '.' || c == '[' || c == ']' || Unicode.Current.isAlphanumeric c)

/-- The name of a group up to its closing angle bracket. -/
def groupName (s : List Char) : Except String (String × List Char) := do
  match Text.cutAt? '>' s with
  | none => .error "unclosed capture group name"
  | some (name, rest) =>
      match name with
      | [] => .error "empty capture group name"
      | first :: more =>
          if isNameChar true first && more.all (isNameChar false) then
            return (String.ofList name, rest)
          else .error "invalid capture group character"

/-- Flags up to the colon or parenthesis that ends them, which is not read.  `given` are the letters
read so far. -/
def groupFlags (flags : Flags) (on : Bool) (given : List Char) :
    List Char → Except String ((Flags × Bool) × List Char)
  | [] => .error "expected flag but got end of regex"
  | c :: rest =>
      if c = ':' ∨ c = ')' then
        if given.head? = some '-' then .error "dangling flag negation operator"
        else .ok ((flags, given.isEmpty), c :: rest)
      else if given.contains c then
        .error (if c = '-' then "flag negation operator repeated" else "duplicate flag")
      else if c = '-' then groupFlags flags false (c :: given) rest
      else do groupFlags (← flags.set c on) on (c :: given) rest

/-- Where the reading of a pattern stands. -/
structure State where
  /-- The flags in force. -/
  flags : Flags
  /-- The open groups, the innermost first. -/
  groups : List Group
  /-- The alternatives of the innermost group. -/
  level : Level
  /-- How many groups are counted so far. -/
  count : Nat
  /-- The names of groups so far. -/
  names : List String

namespace State

/-- The start of every pattern. -/
def initial : State := ⟨{}, [], ⟨[], []⟩, 0, []⟩

/-- Append a member to the current sequence. -/
def push (state : State) (expression : Expression) (depth : Nat) : State :=
  let member : Member := ⟨⟨expression, depth⟩, true⟩
  { state with level := { state.level with members := member :: state.level.members } }

/-- Open a group. -/
def openGroup (state : State) (flags : Flags) (label : Option (Nat × Option String)) : State :=
  { state with
    flags, groups := ⟨state.level, state.flags, label⟩ :: state.groups, level := ⟨[], []⟩ }

/-- Open a group that is counted. -/
def openCounted (state : State) (name : Option String) : State :=
  { state.openGroup state.flags (some (state.count + 1, name)) with count := state.count + 1 }

/-- Open a group that is remembered under a name. -/
def openNamed (state : State) (s : List Char) : Except String (State × List Char) := do
  let (name, rest) ← groupName s
  if state.names.contains name then .error "duplicate capture group name"
  else return ({ state.openCounted (some name) with names := name :: state.names }, rest)

/-- Read what follows an opening parenthesis up to the start of the group's content. -/
def startGroup (state : State) (s : List Char) : Except String (State × List Char) := do
  match state.flags.skip s with
  | '?' :: rest =>
      match rest with
      | '=' :: _ | '!' :: _ | '<' :: '=' :: _ | '<' :: '!' :: _ =>
          .error "look-around, including look-ahead and look-behind, is not supported"
      | 'P' :: '<' :: rest => state.openNamed rest
      | '<' :: rest => state.openNamed rest
      | rest => do
          let ((flags, noFlags), rest) ← groupFlags state.flags true [] rest
          match rest with
          | ')' :: rest =>
              if noFlags then .error "repetition operator missing expression"
              else
                let mark : Member := ⟨⟨.empty, 0⟩, false⟩
                let level := { state.level with members := mark :: state.level.members }
                return ({ state with flags, level }, rest)
          | rest => return (state.openGroup flags none, rest.drop 1)
  | rest => return (state.openCounted none, rest)

/-- Close the innermost group. -/
def closeGroup (state : State) : Except String State :=
  match state.groups with
  | [] => .error "unopened group"
  | group :: groups =>
      let body := state.level.close
      let expression := match group.label with
        | some (number, name) => .group number name body.value
        | none => body.value
      .ok ({ state with flags := group.flags, groups, level := group.outer }.push expression
        (depthOver [body.depth]))

/-- Start the next alternative. -/
def nextAlternative (state : State) : State :=
  { state with
    level := ⟨sequence state.level.members :: state.level.alternatives, []⟩ }

/-- Repeat the last member. -/
def repeated (state : State) (least : Nat) (most : Option Nat) (s : List Char) :
    Except String (State × List Char) := do
  let (isLazy, rest) := laziness s
  let members ← repeatLast state.flags least most isLazy state.level.members
  return ({ state with level := { state.level with members } }, rest)

/-- Append what an escape stands for. -/
def pushEscape (state : State) : Escape → Except String State
  | .literal c byte => do return state.push (.ofSet (← state.flags.literal c byte)) 0
  | .set s => .ok (state.push (.ofSet s) 0)
  | .look test => .ok (state.push (.look test) 0)

/-- The test that a circumflex stands for. -/
def startLook (flags : Flags) : Look :=
  if flags.multiLine then .lineStart flags.crlf else .textStart

/-- The test that a dollar sign stands for. -/
def endLook (flags : Flags) : Look :=
  if flags.multiLine then .lineEnd flags.crlf else .textEnd

/-- The set that the dot matches. -/
def dot (flags : Flags) : Except String CharSet :=
  if !flags.unicode then .error "pattern can match invalid UTF-8"
  else if flags.dotAll then .ok .any
  else if flags.crlf then .ok (CharSet.union (.single '\r') (.single '\n')).compl
  else .ok (CharSet.single '\n').compl

/-- Read one element of a pattern. -/
def step (state : State) (c : Char) (rest : List Char) : Except String (State × List Char) := do
  let flags := state.flags
  match c with
  | '(' => state.startGroup rest
  | ')' => return (← state.closeGroup, rest)
  | '|' => return (state.nextAlternative, rest)
  | '[' => do
      let (set, rest) ← charClass flags (c :: rest)
      return (state.push (.ofSet set.value) set.depth, rest)
  | '?' => state.repeated 0 (some 1) rest
  | '*' => state.repeated 0 none rest
  | '+' => state.repeated 1 none rest
  | '\x7b' => do
      if state.level.members.head?.all (!·.repeatable) then
        .error "repetition operator missing expression"
      else
        let ((least, most), rest) ← bounds flags rest
        state.repeated least most (flags.skip rest)
  | '\\' => do
      let (found, rest) ← escape flags rest
      return (← state.pushEscape found, rest)
  | '.' => return (state.push (.ofSet (← dot flags)) 0, rest)
  | '^' => return (state.push (.look (startLook flags)) 0, rest)
  | '$' => return (state.push (.look (endLook flags)) 0, rest)
  | c => return (state.push (.ofSet (← flags.literal c false)) 0, rest)

/-- Read a pattern to its end.  Every element takes at least one character. -/
def readAll : Nat → State → List Char → Except String State
  | 0, state, _ => .ok state
  | fuel + 1, state, s =>
      match state.flags.skip s with
      | [] => .ok state
      | c :: rest => do
          let (state, rest) ← state.step c rest
          readAll fuel state rest

end State

/-- How deep a pattern may nest. -/
def maxDepth : Nat := 250

/-- The expression that a text is the written form of. -/
def parse (source : String) : Except String Expression := do
  let chars := source.toList
  let state ← State.readAll chars.length .initial chars
  if !state.groups.isEmpty then .error "unclosed group" else
  let whole := state.level.close
  if whole.depth > maxDepth then .error "exceeds the maximum number of nested parentheses/brackets"
  else if !whole.value.fits then .error "Compiled regex exceeds size limit"
  else return whole.value

end Pattern
end WebDispatch
