import WebDispatch.Http.Context
import WebDispatch.Text.Percent

/-!
# Matrix variables

Segments of a path may carry parameters after semicolons, as in `/cars;color=red,blue/list`.  Paths
are matched without them.
-/

namespace WebDispatch
namespace Matrix

/-- The key and the values of one parameter; empty values do not count. -/
def parameter (text : List Char) : String × List String :=
  let (key, values) := Text.cutAt '=' text
  (Text.percentDecode (String.ofList key),
    ((values.splitOn ',').filter fun value => !value.isEmpty).map fun value =>
      Text.percentDecode (String.ofList value))

/-- The name of a segment and its parameters, which are not empty. -/
def segment (text : List Char) : List Char × List (List Char) :=
  match text.splitOn ';' with
  | [] => ([], [])
  | name :: parameters => (name, parameters.filter fun parameter => !parameter.isEmpty)

/-- Append the values of a parameter to those that a segment name has under its key. -/
def add (matrix : MatrixVariables) (name : String) (text : List Char) : MatrixVariables :=
  let (key, values) := parameter text
  let known := (matrix.get? name).getD Dict.empty
  matrix.insert name (known.insert key ((known.get? key).getD [] ++ values))

/-- The segments of a path, each with its parameters. -/
def segments (path : String) : List (List Char × List (List Char)) :=
  (path.toList.splitOn '/').map segment

/-- The path without matrix variables. -/
def lookupPath (path : String) : String :=
  String.ofList (['/'].intercalate ((segments path).map Prod.fst))

/-- The matrix variables of a path, by the names of its segments. -/
def ofPath (path : String) : MatrixVariables :=
  (segments path).foldl (fun found (name, parameters) =>
    parameters.foldl (fun found parameter => add found (String.ofList name) parameter) found)
    Dict.empty

/-- The matrix variables, also under the path variables whose values are segment names; a path
variable goes before a segment of that name. -/
def byPathVariable (captured : Dict String) (matrix : MatrixVariables) : MatrixVariables :=
  let captured := captured.entries.foldl (fun found (name, value) =>
    match matrix.get? value with
    | some values => found.insert name values
    | none => found) Dict.empty
  matrix.entries.foldl (fun found (name, values) => found.insertNew name values) captured

end Matrix
end WebDispatch
