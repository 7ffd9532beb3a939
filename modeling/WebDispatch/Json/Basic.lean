/-!
# JSON values

A value as programs use it: numbers are evaluated, and the members of an object stand in the order
in which they are written.  Values that are read from a text have their members sorted by key and
distinct.
-/

namespace WebDispatch

/-- A JSON value. -/
inductive Json where
  | null
  | bool (value : Bool)
  /-- A number written without fraction and exponent that fits 64 bits. -/
  | int (value : Int)
  /-- Any other number. -/
  | float (value : Float)
  | string (value : String)
  | array (items : List Json)
  /-- The members in the order in which they are written. -/
  | object (members : List (String × Json))
  deriving Inhabited

namespace Json

/-- Give a key a value in a sorted list of members. -/
def insert (key : String) (value : Json) : List (String × Json) → List (String × Json)
  | [] => [(key, value)]
  | member :: rest =>
      if key < member.1 then (key, value) :: member :: rest
      else if key = member.1 then (key, value) :: rest
      else member :: insert key value rest

/-- The object with the given members; of two equal keys the later wins. -/
def ofMembers (members : List (String × Json)) : Json :=
  object (members.foldl (fun sorted (key, value) => insert key value sorted) [])

/-- The value under a key of an object. -/
def get? (key : String) : Json → Option Json
  | object members => members.lookup key
  | _ => none

end Json
end WebDispatch
