import WebDispatch.Decimal.Shortest
import WebDispatch.Json.Basic
import WebDispatch.Text.Quoted

/-!
# The text of a JSON value

The compact text without blanks.  A number that is not an integer is written with the fewest digits
that read back: positionally, with a digit after the point, from `1e-5` up to below `1e16`, and with
a signed exponent otherwise.
-/

namespace WebDispatch
namespace Json

/-- The escape of a character inside a string. -/
def escapeChar (c : Char) : List Char :=
  if c = '"' then ['\\', '"']
  else if c = '\\' then ['\\', '\\']
  else if c = '\x08' then ['\\', 'b']
  else if c = '\x0c' then ['\\', 'f']
  else if c = '\n' then ['\\', 'n']
  else if c = '\r' then ['\\', 'r']
  else if c = '\t' then ['\\', 't']
  else if c.toNat < 0x20 then
    ['\\', 'u', '0', '0', Text.hexDigit (c.toNat / 16), Text.hexDigit (c.toNat % 16)]
  else [c]

/-- A string between quotes. -/
def quoteString (s : String) : String :=
  String.ofList ('"' :: s.toList.flatMap escapeChar ++ ['"'])

/-- The text of a decimal: positional where the point falls near the digits. -/
def decimalText (d : Decimal.Scaled) : String :=
  let digits := (Nat.repr d.digits).toList
  let count : Int := digits.length
  let point := count + d.exponent
  let zeros (n : Int) := List.replicate n.toNat '0'
  let exponent := (if point < 1 then "-" else "+") ++ toString (point - 1).natAbs
  String.ofList <|
    if 0 ≤ d.exponent ∧ point ≤ 16 then digits ++ zeros d.exponent ++ ['.', '0']
    else if 0 < point ∧ point ≤ 16 then
      digits.take point.toNat ++ '.' :: digits.drop point.toNat
    else if -5 < point ∧ point ≤ 0 then ['0', '.'] ++ zeros (-point) ++ digits
    else
      match digits with
      | [first] => first :: 'e' :: exponent.toList
      | first :: rest => first :: '.' :: rest ++ 'e' :: exponent.toList
      | [] => []

/-- The text of a finite number. -/
def floatText (x : Float) : String :=
  let bits := x.toBits
  let magnitude := bits &&& 0x7FFFFFFFFFFFFFFF
  let sign := if bits = magnitude then "" else "-"
  if magnitude = 0 then sign ++ "0.0"
  else if magnitude ≥ 0x7FF0000000000000 then "null"
  else sign ++ decimalText (Decimal.shortestOfBits magnitude)

mutual

/-- The compact text of a value. -/
def render : Json → String
  | null => "null"
  | bool true => "true"
  | bool false => "false"
  | int value => toString value
  | float value => floatText value
  | string value => quoteString value
  | array items => "[" ++ ",".intercalate (renderItems items) ++ "]"
  | object members => "\x7b" ++ ",".intercalate (renderMembers members) ++ "\x7d"

/-- The texts of the items of an array. -/
def renderItems : List Json → List String
  | [] => []
  | item :: rest => render item :: renderItems rest

/-- The texts of the members of an object. -/
def renderMembers : List (String × Json) → List String
  | [] => []
  | (key, value) :: rest => (quoteString key ++ ":" ++ render value) :: renderMembers rest

end

end Json
end WebDispatch
