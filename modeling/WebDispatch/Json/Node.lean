import WebDispatch.Failure
import WebDispatch.Text.Utf8

/-!
# JSON texts as written

A node is a JSON text before its parts are judged: a number is kept as its digits, a string may turn
out to be ill-formed, and the members of an object stand in their order with repetitions.  Reading a
node decides only whether the text follows the grammar; what a part means is decided by the reading
of the part that a program asks for.
-/

namespace WebDispatch
namespace Json

/-- A number as written. -/
structure Numeral where
  /-- Whether a minus sign stands in front. -/
  negative : Bool
  /-- The digits before the point. -/
  whole : List Nat
  /-- The digits after the point, none if there is no point. -/
  fraction : List Nat
  /-- Whether the exponent is negative, and its digits. -/
  exponent : Option (Bool × List Nat)

/-- A JSON text by its grammar. -/
inductive Node where
  | null
  | bool (value : Bool)
  | number (numeral : Numeral)
  /-- A string; nothing if it is not well-formed Unicode. -/
  | string (value : Option String)
  | array (items : List Node)
  | object (members : List (Option String × Node))
  deriving Inhabited

/-- Why a text is no JSON, with the number of bytes that were left. -/
structure Fault where
  /-- The reason. -/
  reason : String
  /-- The number of bytes from the fault on. -/
  left : Nat

namespace Node

/-- Stop at the bytes that are left. -/
def stop {α : Type} (reason : String) (rest : List UInt8) : Except Fault α :=
  .error ⟨reason, rest.length⟩

/-- Whether a byte is a blank of JSON. -/
def isBlankByte (b : UInt8) : Bool :=
  b == 0x20 || b == 0x0A || b == 0x0D || b == 0x09

/-- Skip blanks. -/
def skip (s : List UInt8) : List UInt8 := s.dropWhile isBlankByte

/-- Whether a byte is a decimal digit. -/
def isDigitByte (b : UInt8) : Bool := 0x30 ≤ b && b ≤ 0x39

/-- The digits at the front, and the rest. -/
def digits (s : List UInt8) : List Nat × List UInt8 :=
  ((s.takeWhile isDigitByte).map fun b => b.toNat - 0x30, s.dropWhile isDigitByte)

/-- At least one digit. -/
def someDigits (s : List UInt8) : Except Fault (List Nat × List UInt8) :=
  match digits s with
  | ([], rest) => stop "invalid number" rest
  | found => .ok found

/-- The fraction of a number, if a point follows. -/
def fraction : List UInt8 → Except Fault (List Nat × List UInt8)
  | 0x2E :: rest => someDigits rest
  | rest => .ok ([], rest)

/-- The exponent of a number, if one follows. -/
def exponent : List UInt8 → Except Fault (Option (Bool × List Nat) × List UInt8)
  | b :: rest =>
      if b = 0x65 ∨ b = 0x45 then do
        let (negative, rest) := match rest with
          | 0x2B :: rest => (false, rest)
          | 0x2D :: rest => (true, rest)
          | rest => (false, rest)
        let (found, rest) ← someDigits rest
        return (some (negative, found), rest)
      else .ok (none, b :: rest)
  | [] => .ok (none, [])

/-- The digits before the point: a zero stands alone. -/
def whole (s : List UInt8) : Except Fault (List Nat × List UInt8) :=
  match s with
  | 0x30 :: rest =>
      if rest.head?.any isDigitByte then stop "invalid number" rest else .ok ([0], rest)
  | s => someDigits s

/-- A number. -/
def numeral (s : List UInt8) : Except Fault (Numeral × List UInt8) := do
  let (negative, s) := match s with
    | 0x2D :: rest => (true, rest)
    | s => (false, s)
  let (whole, s) ← whole s
  let (fraction, s) ← fraction s
  let (exponent, s) ← exponent s
  return (⟨negative, whole, fraction, exponent⟩, s)

/-- One unit of a string: a byte of its UTF-8 form, or an escaped sixteen-bit unit. -/
inductive StringUnit where
  | byte (b : UInt8)
  | escaped (unit : Nat)

/-- The value of a hexadecimal digit. -/
def hexDigit? (b : UInt8) : Option Nat :=
  if 0x30 ≤ b ∧ b ≤ 0x39 then some (b.toNat - 0x30)
  else if 0x41 ≤ b ∧ b ≤ 0x46 then some (b.toNat - 0x37)
  else if 0x61 ≤ b ∧ b ≤ 0x66 then some (b.toNat - 0x57)
  else none

/-- The value of four hexadecimal digits. -/
def hexUnit? (a b c d : UInt8) : Option Nat := do
  return (← hexDigit? a) * 4096 + (← hexDigit? b) * 256 + (← hexDigit? c) * 16 + (← hexDigit? d)

/-- What a letter after a backslash stands for. -/
def shortEscape? (b : UInt8) : Option UInt8 :=
  if b = 0x22 ∨ b = 0x5C ∨ b = 0x2F then some b
  else if b = 0x62 then some 0x08
  else if b = 0x66 then some 0x0C
  else if b = 0x6E then some 0x0A
  else if b = 0x72 then some 0x0D
  else if b = 0x74 then some 0x09
  else none

/-- The units of a string up to its closing quote. -/
def stringUnits : List UInt8 → Except Fault (List StringUnit × List UInt8)
  | [] => stop "EOF while parsing a string" []
  | 0x22 :: rest => .ok ([], rest)
  | 0x5C :: 0x75 :: a :: b :: c :: d :: rest =>
      match hexUnit? a b c d with
      | none => stop "invalid escape" rest
      | some unit => do
          let (units, rest) ← stringUnits rest
          return (.escaped unit :: units, rest)
  | 0x5C :: b :: rest =>
      match shortEscape? b with
      | none => stop "invalid escape" rest
      | some unit => do
          let (units, rest) ← stringUnits rest
          return (.byte unit :: units, rest)
  | b :: rest =>
      if b < 0x20 ∨ b = 0x5C then
        stop "control character (\\u0000-\\u001F) found while parsing a string" rest
      else do
        let (units, rest) ← stringUnits rest
        return (.byte b :: units, rest)

/-- The UTF-8 form of a code point. -/
def encodePoint (code : Nat) : List UInt8 := String.utf8EncodeChar (Char.ofNat code)

/-- The bytes of a string: two escaped surrogates make one character, and one alone makes the string
ill-formed. -/
def unitBytes? : List StringUnit → Option (List UInt8)
  | [] => some []
  | .byte b :: rest => (unitBytes? rest).map (b :: ·)
  | .escaped unit :: rest =>
      if 0xDC00 ≤ unit ∧ unit ≤ 0xDFFF then none
      else if 0xD800 ≤ unit ∧ unit ≤ 0xDBFF then
        match rest with
        | .escaped low :: rest =>
            if 0xDC00 ≤ low ∧ low ≤ 0xDFFF then
              (unitBytes? rest).map
                (encodePoint ((unit - 0xD800) * 1024 + (low - 0xDC00) + 0x10000) ++ ·)
            else none
        | _ => none
      else (unitBytes? rest).map (encodePoint unit ++ ·)

/-- A string after its opening quote. -/
def stringBody (s : List UInt8) : Except Fault (Option String × List UInt8) := do
  let (units, rest) ← stringUnits s
  return (unitBytes? units >>= Text.decode?, rest)

/-- A given word. -/
def word (expected : List UInt8) (node : Node) (s : List UInt8) :
    Except Fault (Node × List UInt8) :=
  if expected.isPrefixOf s then .ok (node, s.drop expected.length)
  else stop "expected ident" s

mutual

/-- A value after blanks. -/
def value : Nat → List UInt8 → Except Fault (Node × List UInt8)
  | 0, s => stop "recursion limit exceeded" s
  | fuel + 1, s =>
      match s with
      | [] => stop "EOF while parsing a value" []
      | 0x6E :: _ => word [0x6E, 0x75, 0x6C, 0x6C] .null s
      | 0x74 :: _ => word [0x74, 0x72, 0x75, 0x65] (.bool true) s
      | 0x66 :: _ => word [0x66, 0x61, 0x6C, 0x73, 0x65] (.bool false) s
      | 0x22 :: rest => do
          let (text, rest) ← stringBody rest
          return (.string text, rest)
      | 0x5B :: rest =>
          match skip rest with
          | 0x5D :: rest => .ok (.array [], rest)
          | rest => do
              let (items, rest) ← items fuel rest
              return (.array items, rest)
      | 0x7B :: rest =>
          match skip rest with
          | 0x7D :: rest => .ok (.object [], rest)
          | rest => do
              let (members, rest) ← members fuel rest
              return (.object members, rest)
      | b :: _ =>
          if b = 0x2D ∨ isDigitByte b then do
            let (found, rest) ← numeral s
            return (.number found, rest)
          else stop "expected value" s

/-- The items of an array, at least one, up to its closing bracket. -/
def items : Nat → List UInt8 → Except Fault (List Node × List UInt8)
  | 0, s => stop "recursion limit exceeded" s
  | fuel + 1, s => do
      let (item, rest) ← value fuel s
      match skip rest with
      | 0x5D :: rest => return ([item], rest)
      | 0x2C :: rest => do
          let (more, rest) ← items fuel (skip rest)
          return (item :: more, rest)
      | rest => stop "expected `,` or `]`" rest

/-- The members of an object, at least one, up to its closing brace. -/
def members : Nat → List UInt8 → Except Fault (List (Option String × Node) × List UInt8)
  | 0, s => stop "recursion limit exceeded" s
  | fuel + 1, s =>
      match s with
      | 0x22 :: rest => do
          let (key, rest) ← stringBody rest
          match skip rest with
          | 0x3A :: rest => do
              let (found, rest) ← value fuel (skip rest)
              match skip rest with
              | 0x7D :: rest => return ([(key, found)], rest)
              | 0x2C :: rest => do
                  let (more, rest) ← members fuel (skip rest)
                  return ((key, found) :: more, rest)
              | rest => stop "expected `,` or `\x7d`" rest
          | rest => stop "expected `:`" rest
      | s => stop "key must be a string" s

end

/-- The node that a whole byte sequence is the text of. -/
def parse (bytes : List UInt8) : Except Fault Node := do
  let (found, rest) ← value (2 * bytes.length + 2) (skip bytes)
  match skip rest with
  | [] => return found
  | rest => stop "trailing characters" rest

/-- A position in a byte sequence as line and column, both counted from one. -/
def position (bytes : List UInt8) : Nat × Nat :=
  let advance (place : Nat × Nat) (b : UInt8) : Nat × Nat :=
    if b = 0x0A then (place.1 + 1, 1) else (place.1, place.2 + 1)
  bytes.foldl advance (1, 1)

end Node

/-- What a refused text means for the request whose body it is. -/
def Fault.toFailure (fault : Fault) (bytes : List UInt8) : Failure :=
  let (line, column) := Node.position (bytes.take (bytes.length - fault.left))
  .body (.json fault.reason line column)

end Json
end WebDispatch
