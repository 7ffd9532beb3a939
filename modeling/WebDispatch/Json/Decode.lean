import WebDispatch.Json.Basic
import WebDispatch.Json.Node

/-!
# Reading values from JSON texts

Which value a text stands for, and how a program reads a text as a type of its own: as any value, as
nothing, as text, as an integer, as a record with named fields or as a dictionary of texts.  What no
part of a program asks for has to follow the grammar and nothing else.
-/

namespace WebDispatch
namespace Json

namespace Numeral

/-- One more than the greatest number of 64 bits. -/
def limit : Nat := 0x10000000000000000

/-- Append digits to a number as long as it fits 64 bits; the number and the digits left over. -/
def absorb (significand : Nat) : List Nat → Nat × List Nat
  | [] => (significand, [])
  | d :: rest =>
      if significand * 10 + d < limit then absorb (significand * 10 + d) rest
      else (significand, d :: rest)

/-- The double `significand * 10 ^ exponent`, multiplied or divided in steps of at most `1e308`;
nothing if it is too large. -/
def scale : Nat → Float → Int → Option Float
  | 0, x, _ => some x
  | fuel + 1, x, exponent =>
      if exponent.natAbs ≤ 308 then
        let factor := Float.ofScientific 1 false exponent.natAbs
        if 0 ≤ exponent then
          let scaled := x * factor
          if scaled.isInf then none else some scaled
        else some (x / factor)
      else if x == 0 then some x
      else if 0 ≤ exponent then none
      else scale fuel (x / Float.ofScientific 1 false 308) (exponent + 308)

/-- The exponent as written; a size beyond 32 bits is cut there. -/
def writtenExponent (numeral : Numeral) : Int :=
  match numeral.exponent with
  | none => 0
  | some (negative, digits) =>
      let size : Nat := digits.foldl (fun n d => min (n * 10 + d) 0x80000000) 0
      if negative then -(size : Int) else size

/-- The number as a double; nothing if it is too large. -/
def toFloat? (numeral : Numeral) : Option Float :=
  let (significand, dropped) := absorb 0 numeral.whole
  let (significand, ignored) := absorb significand numeral.fraction
  let kept := numeral.fraction.length - ignored.length
  let exponent := (dropped.length : Int) - (kept : Int) + numeral.writtenExponent
  let magnitude := scale 5000 (UInt64.ofNat significand).toFloat exponent
  magnitude.map fun x => if numeral.negative then -x else x

/-- The value of a number: an integer if it is written as one and fits 64 bits. -/
def toJson? (numeral : Numeral) : Option Json :=
  let magnitude := numeral.whole.foldl (fun n d => n * 10 + d) 0
  if numeral.fraction.isEmpty ∧ numeral.exponent.isNone ∧ magnitude < limit ∧
      (numeral.negative → 0 < magnitude ∧ magnitude ≤ 0x8000000000000000) then
    some (.int (if numeral.negative then -magnitude else magnitude))
  else numeral.toFloat?.map .float

/-- The integer that a number is written as, if it fits 32 bits with sign. -/
def toInt32? (numeral : Numeral) : Option Int :=
  match numeral.toJson? with
  | some (.int value) => if -0x80000000 ≤ value ∧ value < 0x80000000 then some value else none
  | _ => none

end Numeral

namespace Node

mutual

/-- The value of a node whose arrays and objects nest at most `depth` deep; nothing if a string is
ill-formed or a number too large. -/
def toJson? (depth : Nat) : Node → Option Json
  | null => some .null
  | bool value => some (.bool value)
  | number numeral => numeral.toJson?
  | string text => text.map .string
  | array items =>
      match depth with
      | 0 => none
      | depth + 1 => (itemValues? depth items).map .array
  | object members =>
      match depth with
      | 0 => none
      | depth + 1 => (memberValues? depth members).map Json.ofMembers

/-- The values of the items of an array. -/
def itemValues? (depth : Nat) : List Node → Option (List Json)
  | [] => some []
  | item :: rest => do
      let value ← toJson? depth item
      return value :: (← itemValues? depth rest)

/-- The keys and values of the members of an object. -/
def memberValues? (depth : Nat) : List (Option String × Node) → Option (List (String × Json))
  | [] => some []
  | (key, node) :: rest => do
      let key ← key
      let value ← toJson? depth node
      return (key, value) :: (← memberValues? depth rest)

end

/-- How deep arrays and objects may nest. -/
def maxDepth : Nat := 127

/-- Any value. -/
def any? (node : Node) : Option Json := node.toJson? maxDepth

/-- Nothing, written as `null`. -/
def unit? : Node → Option Unit
  | null => some ()
  | _ => none

/-- A text. -/
def text? : Node → Option String
  | string value => value
  | _ => none

/-- An integer of 32 bits with sign. -/
def int32? : Node → Option Int
  | number numeral => numeral.toInt32?
  | _ => none

/-- A value that may be `null`. -/
def optional? {α : Type} (read : Node → Option α) : Node → Option (Option α)
  | null => some none
  | node => (read node).map some

/-- The only value of a list of the values under one key; nothing if there are several. -/
def atMostOne? {α : Type} : List α → Option (Option α)
  | [] => some none
  | [x] => some (some x)
  | _ => none

/-- The fields of a record: from an object, where a field may be missing but not repeated and other
members are ignored, or from an array with exactly one item for each field. -/
def record? (fields : List String) : Node → Option (List (Option Node))
  | object members => do
      let members ← members.mapM fun (key, node) => key.map (·, node)
      fields.mapM fun field =>
        atMostOne? ((members.filter (·.1 == field)).map Prod.snd)
  | array items => if items.length = fields.length then some (items.map some) else none
  | _ => none

/-- A dictionary of texts; of two equal keys the later wins. -/
def texts? : Node → Option (List (String × String))
  | object members => members.mapM fun (key, node) => do return (← key, ← node.text?)
  | _ => none

end Node

/-- Read a whole byte sequence as a type. -/
def decode {α : Type} (read : Node → Option α) (bytes : List UInt8) : Except Failure α :=
  match Node.parse bytes with
  | .error fault => .error (fault.toFailure bytes)
  | .ok node =>
      match read node with
      | none => .error (Fault.toFailure ⟨"invalid value", 0⟩ bytes)
      | some value => .ok value

/-- The value that a whole byte sequence is the text of. -/
def parse (bytes : List UInt8) : Except Failure Json := decode Node.any? bytes

end Json
end WebDispatch
