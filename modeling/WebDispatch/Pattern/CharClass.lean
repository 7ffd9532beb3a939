import WebDispatch.Pattern.Escape

/-!
# Character classes

Classes in brackets, with ranges, named ASCII classes, nested brackets and set operations.  They are
read from left to right with a stack of open brackets and operations.
-/

namespace WebDispatch
namespace Pattern

/-- A part of a pattern with its nesting depth. -/
structure Part (α : Type) where
  /-- The part. -/
  value : α
  /-- How deep it nests. -/
  depth : Nat

/-- The nesting depth of a node over its parts. -/
def depthOver (depths : List Nat) : Nat := depths.foldl max 0 + 1

/-- An operation between two sets of a class. -/
inductive SetOperation where
  | intersection | difference | symmetricDifference

/-- The result of a set operation. -/
def SetOperation.apply : SetOperation → CharSet → CharSet → CharSet
  | intersection => .inter
  | difference => .diff
  | symmetricDifference => .symmDiff

/-- What is open inside a class. -/
inductive ClassFrame where
  /-- A bracket, with the items around it, the last one first. -/
  | bracket (items : List (Part CharSet)) (negated : Bool)
  /-- A set operation after its left side. -/
  | operation (kind : SetOperation) (left : Part CharSet)

/-- The items of a class, the last one first, as one set. -/
def unionOf (items : List (Part CharSet)) : Part CharSet :=
  match items with
  | [] => ⟨.empty, 0⟩
  | [p] => p
  | items =>
      ⟨.unions (items.map (·.value)), depthOver (items.map (·.depth))⟩

/-- Close a set operation if one is open. -/
def closeOperation (flags : Flags) (right : Part CharSet) :
    List ClassFrame → Part CharSet × List ClassFrame
  | .operation kind left :: frames =>
      (⟨kind.apply (flags.fold left.value) (flags.fold right.value),
        depthOver [left.depth, right.depth]⟩, frames)
  | frames => (right, frames)

/-- One item of a class that is no bracket: a character or an escaped class. -/
def classItem (flags : Flags) : List Char → Except String (Escape × List Char)
  | [] => .error "unclosed character class"
  | '\\' :: rest => escape flags rest
  | c :: rest => .ok (.literal c false, rest)

/-- The character that follows the current one, looking past what does not count. -/
def Flags.peek (flags : Flags) (s : List Char) : Option Char :=
  if flags.verbose then
    match s.dropWhile Text.isBlank with
    | '#' :: rest => (rest.dropWhile Text.isBlank).head?
    | rest => rest.head?
  else s.head?

/-- An item of a class or a range between two characters. -/
def classRange (flags : Flags) (s : List Char) : Except String (CharSet × List Char) := do
  let (first, rest) ← classItem flags s
  let rest := flags.skip rest
  match rest with
  | [] => .error "unclosed character class"
  | c :: more =>
      let isRange := c == '-' && flags.peek more != some ']' && flags.peek more != some '-'
      if !isRange then
        match first with
        | .literal c byte => return (← flags.classRange (c, byte) (c, byte), rest)
        | .set s => return (s, rest)
        | .look _ => .error "invalid escape sequence found in character class"
      else
        let more := flags.skip more
        if more.isEmpty then .error "unclosed character class" else
        let (last, rest) ← classItem flags more
        match first, last with
        | .literal a byteA, .literal b byteB =>
            if a ≤ b then return (← flags.classRange (a, byteA) (b, byteB), rest)
            else .error "invalid character class range"
        | _, _ => .error "invalid range boundary"

/-- The start of a class after its bracket: whether it is negated, and the hyphens and the closing
bracket that stand for themselves there. -/
def classStart (flags : Flags) (s : List Char) :
    Except String ((Bool × List (Part CharSet)) × List Char) := do
  let s := flags.skip s
  let (negated, s) := match s with
    | '^' :: rest => (true, flags.skip rest)
    | s => (false, s)
  let hyphens := leading s.length s
  let items := List.replicate hyphens.1 (⟨.single '-', 0⟩ : Part CharSet)
  match hyphens.2 with
  | [] => .error "unclosed character class"
  | ']' :: rest =>
      if items.isEmpty then
        let rest := flags.skip rest
        if rest.isEmpty then .error "unclosed character class"
        else return ((negated, [⟨.single ']', 0⟩]), rest)
      else return ((negated, items), ']' :: rest)
  | rest => return ((negated, items), rest)
where
  /-- The number of hyphens in front, and the rest. -/
  leading : Nat → List Char → Nat × List Char
    | fuel + 1, '-' :: rest =>
        let (n, rest) := leading fuel (flags.skip rest)
        (n + 1, rest)
    | _, s => (0, s)

/-- A named class of ASCII characters after its opening bracket, if one stands there. -/
def asciiClass? (s : List Char) : Option (CharSet × Bool × List Char) :=
  match s with
  | ':' :: rest =>
      let (negated, rest) := match rest with
        | '^' :: rest => (true, rest)
        | rest => (false, rest)
      match Text.cutAt? ':' rest with
      | some (name, ']' :: rest) => (CharSet.ascii? (String.ofList name)).map (·, negated, rest)
      | _ => none
  | _ => none

/-- Read a class with the brackets and operations of `frames` open; `items` are the items of the
innermost bracket so far, the last one first. -/
def classLoop (flags : Flags) :
    Nat → List ClassFrame → List (Part CharSet) → List Char →
      Except String (Part CharSet × List Char)
  | 0, _, _, _ => .error "unclosed character class"
  | fuel + 1, frames, items, s =>
      let operate (kind : SetOperation) (rest : List Char) :=
        let (left, frames) := closeOperation flags (unionOf items) frames
        classLoop flags fuel (.operation kind left :: frames) [] rest
      let item (s : List Char) := do
        let (set, rest) ← classRange flags s
        classLoop flags fuel frames (⟨set, 0⟩ :: items) rest
      match flags.skip s with
      | [] => .error "unclosed character class"
      | '[' :: rest =>
          match if frames.isEmpty then none else asciiClass? rest with
          | some (set, negated, rest) => do
              let set ← flags.foldAndNegate negated set
              classLoop flags fuel frames (⟨set, 0⟩ :: items) rest
          | none => do
              let ((negated, inner), rest) ← classStart flags rest
              classLoop flags fuel (.bracket items negated :: frames) inner rest
      | ']' :: rest => do
          let (set, frames) := closeOperation flags (unionOf items) frames
          match frames with
          | .bracket outer negated :: frames =>
              let closed : Part CharSet :=
                ⟨← flags.foldAndNegate negated set.value, depthOver [set.depth]⟩
              match frames with
              | [] => return (closed, rest)
              | frames => classLoop flags fuel frames (closed :: outer) rest
          | _ => .error "unclosed character class"
      | '&' :: '&' :: rest => operate .intersection rest
      | '-' :: '-' :: rest => operate .difference rest
      | '~' :: '~' :: rest => operate .symmetricDifference rest
      | s => item s

/-- A class from its opening bracket on. -/
def charClass (flags : Flags) (s : List Char) : Except String (Part CharSet × List Char) :=
  classLoop flags (s.length + 1) [] [] s

end Pattern
end WebDispatch
