import WebDispatch.Pattern.Flags

/-!
# Counts of repetitions

The bounds of a counted repetition, as they are written between braces.
-/

namespace WebDispatch
namespace Pattern

/-- The greatest count of a repetition. -/
def maxCount : Nat := 0xFFFFFFFF

/-- Decimal digits, without what does not count. -/
def countDigits (flags : Flags) : Nat → List Char → List Nat × List Char
  | 0, s => ([], s)
  | fuel + 1, s =>
      match s with
      | [] => ([], [])
      | c :: rest =>
          if c.isDigit then
            let (digits, rest) := countDigits flags fuel (flags.skip rest)
            ((c.toNat - 48) :: digits, rest)
          else ([], s)

/-- Blanks, and under the flags in force comments. -/
def countBlanks (flags : Flags) : Nat → List Char → List Char
  | 0, s => s
  | fuel + 1, s =>
      match s with
      | [] => []
      | c :: rest => if Text.isBlank c then countBlanks flags fuel (flags.skip rest) else s

/-- A count with blanks around it; nothing if no digit stands there. -/
def count (flags : Flags) (s : List Char) : Except String (Option Nat × List Char) := do
  let (digits, rest) := countDigits flags s.length (s.dropWhile Text.isBlank)
  let rest := countBlanks flags rest.length rest
  if digits.isEmpty then return (none, rest) else
  let value := digits.foldl (fun n d => min (n * 10 + d) (maxCount + 1)) 0
  if value ≤ maxCount then return (some value, rest) else .error "decimal literal invalid"

/-- A count that has to be there. -/
def needCount : Option Nat → Except String Nat
  | some n => .ok n
  | none => .error "repetition quantifier expects a valid decimal"

/-- The bounds of a repetition after the opening brace. -/
def bounds (flags : Flags) (s : List Char) : Except String ((Nat × Option Nat) × List Char) := do
  let s := flags.skip s
  if s.isEmpty then .error "unclosed counted repetition" else
  let (least, rest) ← count flags s
  let ((least, most), rest) ← match rest with
    | [] => .error "unclosed counted repetition"
    | ',' :: rest =>
        match flags.skip rest with
        | [] => .error "unclosed counted repetition"
        | '\x7d' :: rest => do
            let least ← needCount least
            .ok ((least, none), '\x7d' :: rest)
        | rest => do
            let least ← needCount least
            let (most, rest) ← count flags rest
            let most ← needCount most
            .ok ((least, some most), rest)
    | rest => do
        let least ← needCount least
        .ok ((least, some least), rest)
  match rest with
  | '\x7d' :: rest =>
      if most.all (least ≤ ·) then return ((least, most), rest)
      else .error "invalid repetition count range, the start must be <= the end"
  | _ => .error "unclosed counted repetition"

/-- Whether a repetition is lazy, and the characters after its mark. -/
def laziness (s : List Char) : Bool × List Char :=
  match s with
  | '?' :: rest => (true, rest)
  | s => (false, s)

end Pattern
end WebDispatch
