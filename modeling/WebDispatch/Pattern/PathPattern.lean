import WebDispatch.Failure
import WebDispatch.Pattern.Program
import WebDispatch.Pattern.Reader

/-!
# Path patterns

A pattern for paths is a regular expression that is matched between anchors.  One anchor on each
side may be written; a dollar sign after an odd number of backslashes is a literal one.
-/

namespace WebDispatch

/-- A compiled pattern for paths. -/
structure PathPattern where
  /-- The pattern between its anchors. -/
  source : String
  /-- What is searched for in a path. -/
  expression : Expression
  /-- What searches for it. -/
  program : Program := expression.program
  /-- The program is that of the expression. -/
  program_eq : program = expression.program := by rfl

namespace PathPattern

/-- A pattern without the dollar sign at its end, unless that is escaped. -/
def stripEnd (pattern : List Char) : List Char :=
  match pattern.reverse with
  | '$' :: back =>
      if (back.takeWhile (· == '\\')).length % 2 = 0 then back.reverse else pattern
  | _ => pattern

/-- A pattern without its anchors, one on each side. -/
def stripAnchors (pattern : List Char) : List Char :=
  match pattern with
  | '^' :: rest => stripEnd rest
  | pattern => stripEnd pattern

/-- The anchored form of a pattern, which must not be empty between its anchors. -/
def anchored (pattern : String) : Except Failure String :=
  let inner := stripAnchors pattern.toList
  if inner.isEmpty then .error (.pattern .empty)
  else .ok (String.ofList ('^' :: inner ++ ['$']))

/-- Compile a pattern.  The anchors are put around it as a whole, also where it has
alternatives. -/
def compile (pattern : String) : Except Failure PathPattern := do
  let source ← anchored pattern
  let inner := String.ofList (stripAnchors source.toList)
  match Pattern.parse ("^(?:" ++ inner ++ ")$") with
  | .ok expression => return { source, expression }
  | .error reason => .error (.pattern (.expression source reason))

/-- The description of a pattern in diagnostics. -/
def describe (pattern : PathPattern) : String :=
  "PathPattern(" ++ Text.quote pattern.source ++ ")"

/-- Whether a path matches. -/
def isMatch (pattern : PathPattern) (path : String) : Bool :=
  pattern.program.isMatch path

/-- The variables of a path that matches: what its named groups hold. -/
def captures (pattern : PathPattern) (path : String) : Option (Dict String) :=
  pattern.program.captures path

/-- How specific a pattern is: the number of slashes in it. -/
def specificity (pattern : PathPattern) : Nat :=
  pattern.source.toList.count '/'

end PathPattern
end WebDispatch
