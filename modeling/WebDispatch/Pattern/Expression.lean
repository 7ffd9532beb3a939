import WebDispatch.Pattern.Look

/-!
# Regular expressions

Expressions over characters with greedy and lazy repetition, tests of the position in the text, and
groups.  Of several ways to match, an expression prefers the one that takes the earlier branch at
the first choice where they differ.

The functions `ofSet`, `repetition`, `join` and `anyOf` build expressions in a normal form.  In it,
texts that follow each other are one text, sequences and choices do not stand directly inside each
other, a choice between characters is a set, and what all alternatives start with stands in front of
the choice.
-/

namespace WebDispatch

/-- A regular expression. -/
inductive Expression where
  /-- Matches nothing but the empty text. -/
  | empty
  /-- Matches a text. -/
  | literal (text : List Char)
  /-- Matches one character of a set. -/
  | set (chars : CharSet)
  /-- Matches the empty text where a test holds. -/
  | look (test : Look)
  /-- Matches an expression between `least` and `most` times, and prefers many times if it is
  greedy and few times otherwise. -/
  | repeated (body : Expression) (least : Nat) (most : Option Nat) (greedy : Bool)
  /-- Matches an expression and, if the group has a name, remembers what it matched.  Groups are
  numbered from left to right. -/
  | group (number : Nat) (name : Option String) (body : Expression)
  /-- Matches expressions one after the other. -/
  | sequence (members : List Expression)
  /-- Matches one of some expressions, and prefers the earlier ones. -/
  | choice (alternatives : List Expression)

namespace Expression

/-! ### Length -/

mutual

/-- The least number of characters of a match; none for an expression with a part that nothing
matches. -/
def minLength : Expression → Option Nat
  | empty => some 0
  | literal text => some text.length
  | set chars => if chars.ranges.isEmpty then none else some 1
  | look _ => some 0
  | repeated body least _ _ => body.minLength.map (· * least)
  | group _ _ body => body.minLength
  | sequence members => minTotal members
  | choice alternatives => minOfAll alternatives

/-- The least number of characters of matches that follow each other. -/
def minTotal : List Expression → Option Nat
  | [] => some 0
  | e :: rest => do return (← e.minLength) + (← minTotal rest)

/-- The least number of characters of a match of some alternative. -/
def minOfAll : List Expression → Option Nat
  | [] => none
  | [e] => e.minLength
  | e :: rest => do return min (← e.minLength) (← minOfAll rest)

end

mutual

/-- The greatest number of characters of a match, if there is one. -/
def maxLength : Expression → Option Nat
  | empty => some 0
  | literal text => some text.length
  | set chars => if chars.ranges.isEmpty then none else some 1
  | look _ => some 0
  | repeated body _ most _ => do return (← body.maxLength) * (← most)
  | group _ _ body => body.maxLength
  | sequence members => maxTotal members
  | choice alternatives => maxOfAll alternatives

/-- The greatest number of characters of matches that follow each other. -/
def maxTotal : List Expression → Option Nat
  | [] => some 0
  | e :: rest => do return (← e.maxLength) + (← maxTotal rest)

/-- The greatest number of characters of a match of some alternative. -/
def maxOfAll : List Expression → Option Nat
  | [] => none
  | [e] => e.maxLength
  | e :: rest => do return max (← e.maxLength) (← maxOfAll rest)

end

/-- Whether all matches are known to take a character. -/
def takesSome (e : Expression) : Bool := e.minLength.any (0 < ·)

/-- Whether all matches are empty. -/
def takesNone (e : Expression) : Bool := e.maxLength == some 0

/-! ### Equality -/

mutual

/-- Whether two expressions are the same. -/
def same : Expression → Expression → Bool
  | empty, empty => true
  | literal s, literal t => s == t
  | set s, set t => s == t
  | look s, look t => s == t
  | repeated a l m g, repeated b l' m' g' => l == l' && m == m' && g == g' && a.same b
  | group n _ a, group n' _ b => n == n' && a.same b
  | sequence as, sequence bs => sameAll as bs
  | choice as, choice bs => sameAll as bs
  | _, _ => false

/-- Whether two lists of expressions are the same. -/
def sameAll : List Expression → List Expression → Bool
  | [], [] => true
  | a :: as, b :: bs => a.same b && sameAll as bs
  | _, _ => false

end

/-! ### Normal forms -/

/-- Matches one character of a set. -/
def ofSet (chars : CharSet) : Expression :=
  match chars.single? with
  | some c => literal [c]
  | none => set chars

/-- Repeats an expression.  There is no need to match the empty text more than once. -/
def repetition (body : Expression) (least : Nat) (most : Option Nat) (greedy : Bool) :
    Expression :=
  let (least, most) :=
    if body.takesNone then (min least 1, some (min (most.getD 1) 1)) else (least, most)
  if least = 0 ∧ most = some 0 then empty
  else if least = 1 ∧ most = some 1 then body
  else repeated body least most greedy

/-- The members of an expression that is a sequence. -/
def members : Expression → List Expression
  | empty => []
  | sequence members => members
  | e => [e]

/-- Put an expression in front of others, and join texts. -/
def glue : Expression → List Expression → List Expression
  | literal s, literal t :: rest => literal (s ++ t) :: rest
  | e, rest => e :: rest

/-- Matches expressions one after the other. -/
def join (expressions : List Expression) : Expression :=
  match (expressions.flatMap members).foldr glue [] with
  | [] => empty
  | [e] => e
  | members => sequence members

/-- The alternatives of an expression that is a choice. -/
def alternatives : Expression → List Expression
  | choice alternatives => alternatives
  | e => [e]

/-- The character that is all an expression matches. -/
def character? : Expression → Option Char
  | literal [c] => some c
  | _ => none

/-- The set of an expression that matches one character of it. -/
def set? : Expression → Option CharSet
  | set chars => some chars
  | _ => none

/-- Matches one of some expressions that are no choices. -/
def choose (alternatives : List Expression) : Expression :=
  match alternatives with
  | [] => set .empty
  | [e] => e
  | alternatives =>
      match alternatives.mapM character? with
      | some characters => ofSet (.unions (characters.map .single))
      | none =>
          match alternatives.mapM set? with
          | some sets => ofSet (.unions sets)
          | none => choice alternatives

/-- What two lists of expressions start with. -/
def commonStart : List Expression → List Expression → List Expression
  | a :: as, b :: bs => if a.same b then a :: commonStart as bs else []
  | _, _ => []

/-- The members of an expression that is a sequence of two or more. -/
def members? : Expression → Option (List Expression)
  | sequence members => some members
  | _ => none

/-- Matches one of some expressions. -/
def anyOf (expressions : List Expression) : Expression :=
  let flat := expressions.flatMap alternatives
  match flat.mapM members? with
  | some (first :: second :: rest) =>
      match (second :: rest).foldl commonStart first with
      | [] => choose flat
      | start =>
          let rests := (first :: second :: rest).map fun members => join (members.drop start.length)
          join (start ++ [choose (rests.flatMap alternatives)])
  | _ => choose flat

end Expression
end WebDispatch
