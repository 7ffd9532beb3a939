import WebDispatch.Pattern.Flags
import WebDispatch.Pattern.Look
import WebDispatch.Pattern.Property

/-!
# Escapes

What a backslash and the characters after it stand for: a character, a set of characters, or a test
of the position.
-/

namespace WebDispatch
namespace Pattern

/-- What a backslash and the characters after it stand for. -/
inductive Escape where
  /-- A character; `byte` if it is written as two hexadecimal digits. -/
  | literal (c : Char) (byte : Bool)
  | set (s : CharSet)
  | look (test : Look)

/-- The value of a hexadecimal digit. -/
def hexValue? (c : Char) : Option Nat :=
  if '0' ≤ c ∧ c ≤ '9' then some (c.toNat - 48)
  else if 'a' ≤ c ∧ c ≤ 'f' then some (c.toNat - 87)
  else if 'A' ≤ c ∧ c ≤ 'F' then some (c.toNat - 55)
  else none

/-- The character with a code point. -/
def charOf (code : Nat) : Except String Char :=
  if code.isValidChar then .ok (Char.ofNat code) else .error "invalid hexadecimal character"

/-- A number of hexadecimal digits. -/
def hexDigits (flags : Flags) : Nat → Nat → List Char → Except String (Nat × List Char)
  | 0, value, s => .ok (value, s)
  | n + 1, value, s =>
      match s with
      | [] => .error "incomplete escape sequence"
      | c :: rest =>
          match hexValue? c with
          | none => .error "invalid hexadecimal digit"
          | some d => hexDigits flags n (value * 16 + d) (flags.skip rest)

/-- Hexadecimal digits up to a closing brace.  The skipped characters are bounded by `fuel`. -/
def hexBraced (flags : Flags) : Nat → Option Nat → List Char → Except String (Nat × List Char)
  | 0, _, _ => .error "incomplete escape sequence"
  | fuel + 1, value, s =>
      match s with
      | [] => .error "incomplete escape sequence"
      | '\x7d' :: rest =>
          match value with
          | none => .error "hexadecimal literal empty"
          | some value => .ok (value, flags.skip rest)
      | c :: rest =>
          match hexValue? c with
          | none => .error "invalid hexadecimal digit"
          | some d =>
              let value := min (value.getD 0 * 16 + d) 0x100000000
              hexBraced flags fuel (some value) (flags.skip rest)

/-- A character by its code point, after the letter that says how many digits follow. -/
def hexEscape (flags : Flags) (kind : Char) (s : List Char) :
    Except String (Escape × List Char) := do
  match flags.skip s with
  | [] => .error "incomplete escape sequence"
  | '\x7b' :: rest =>
      let rest := flags.skip rest
      let (code, rest) ← hexBraced flags (rest.length + 1) none rest
      return (.literal (← charOf code) false, rest)
  | s =>
      let count := if kind = 'x' then 2 else if kind = 'u' then 4 else 8
      let (code, rest) ← hexDigits flags count 0 s
      return (.literal (← charOf code) (kind == 'x'), rest)

/-- The text up to a closing brace, without what does not count. -/
def bracedName (flags : Flags) : Nat → List Char → Except String (List Char × List Char)
  | 0, _ => .error "incomplete escape sequence"
  | fuel + 1, s =>
      match s with
      | [] => .error "incomplete escape sequence"
      | '\x7d' :: rest => .ok ([], rest)
      | c :: rest => do
          let (name, rest) ← bracedName flags fuel (flags.skip rest)
          return (c :: name, rest)

/-- The property that a name in braces means, and whether the name negates it. -/
def namedProperty? (name : List Char) : Option (CharSet × Bool) :=
  let split (front back : List Char) :=
    valueProperty? (String.ofList front) (String.ofList back)
  let plain := (property? (String.ofList name)).map (·, false)
  let byEqual :=
    match Text.cutAt? ':' name with
    | some (front, back) => (split front back).map (·, false)
    | none =>
        match Text.cutAt? '=' name with
        | some (front, back) => (split front back).map (·, false)
        | none => plain
  match Text.cutAt? '=' name with
  | some (front, back) =>
      if front.getLast? = some '!' then (split front.dropLast back).map (·, true) else byEqual
  | none => byEqual

/-- A class by property, after the letter that starts it. -/
def propertyEscape (flags : Flags) (negated : Bool) (s : List Char) :
    Except String (Escape × List Char) := do
  let (found, rest) ← match flags.skip s with
    | [] => .error "incomplete escape sequence"
    | '\x7b' :: rest => do
        let rest := flags.skip rest
        let (name, rest) ← bracedName flags (rest.length + 1) rest
        .ok (namedProperty? name, rest)
    | '\\' :: _ => .error "invalid Unicode character class"
    | c :: rest =>
        .ok ((property? (String.singleton c)).map (·, false), flags.skip rest)
  if !flags.unicode then .error "Unicode not allowed here" else
  match found with
  | none => .error "Unicode property not found"
  | some (s, inverse) => return (.set (← flags.foldAndNegate (negated != inverse) s), rest)

/-- The class that a letter stands for. -/
def letterClass (flags : Flags) (letter : Char) : Except String CharSet :=
  let base : CharSet :=
    match letter.toLower with
    | 'd' => if flags.unicode then Unicode.digit else .asciiDigit
    | 's' => if flags.unicode then Unicode.blank else .asciiBlank
    | _ => if flags.unicode then Unicode.word else .asciiWord
  if letter.isUpper then flags.complement base else .ok base

/-- The characters of the names of word tests. -/
def isTestNameChar (c : Char) : Bool := c.isAlpha || c == '-'

/-- The name of a word test, without what does not count. -/
def testName (flags : Flags) : Nat → List Char → List Char × List Char
  | 0, s => ([], s)
  | fuel + 1, s =>
      match s with
      | [] => ([], [])
      | c :: rest =>
          if isTestNameChar c then
            let (name, rest) := testName flags fuel (flags.skip rest)
            (c :: name, rest)
          else ([], s)

/-- The word test after its letter: a name in braces may follow, but a brace may also start a
counted repetition. -/
def boundaryEscape (flags : Flags) (s : List Char) : Except String (Escape × List Char) := do
  let plain := (.look (.boundary !flags.unicode), s)
  match s with
  | '\x7b' :: rest =>
      let rest := flags.skip rest
      if rest.isEmpty then
        .error "found either the beginning of a special word boundary or a bounded repetition"
      else if !rest.head?.any isTestNameChar then return plain
      else
        let (name, rest) := testName flags rest.length rest
        match rest with
        | '\x7d' :: rest =>
            match String.ofList name with
            | "start" => return (.look (.wordStart !flags.unicode), rest)
            | "end" => return (.look (.wordEnd !flags.unicode), rest)
            | "start-half" => return (.look (.wordStartHalf !flags.unicode), rest)
            | "end-half" => return (.look (.wordEndHalf !flags.unicode), rest)
            | _ => .error "unrecognized special word boundary assertion"
        | _ =>
            .error ("special word boundary assertion is either unclosed or contains " ++
              "an invalid character")
  | _ => return plain

/-- Whether a backslash in front of a character makes it stand for itself. -/
def isEscapable (c : Char) : Bool :=
  c.toNat < 128 && !c.isAlphanum && c != '<' && c != '>'

/-- What the characters after a backslash stand for. -/
def escape (flags : Flags) : List Char → Except String (Escape × List Char)
  | [] => .error "incomplete escape sequence"
  | c :: rest =>
      match c with
      | 'x' | 'u' | 'U' => hexEscape flags c rest
      | 'p' => propertyEscape flags false rest
      | 'P' => propertyEscape flags true rest
      | 'd' | 's' | 'w' | 'D' | 'S' | 'W' => do return (.set (← letterClass flags c), rest)
      | 'a' => .ok (.literal '\x07' false, rest)
      | 'f' => .ok (.literal '\x0c' false, rest)
      | 't' => .ok (.literal '\t' false, rest)
      | 'n' => .ok (.literal '\n' false, rest)
      | 'r' => .ok (.literal '\r' false, rest)
      | 'v' => .ok (.literal '\x0b' false, rest)
      | 'A' => .ok (.look .textStart, rest)
      | 'z' => .ok (.look .textEnd, rest)
      | 'b' => boundaryEscape flags rest
      | 'B' => .ok (.look (.noBoundary !flags.unicode), rest)
      | '<' => .ok (.look (.wordStart !flags.unicode), rest)
      | '>' => .ok (.look (.wordEnd !flags.unicode), rest)
      | c =>
          if isEscapable c then .ok (.literal c false, rest)
          else .error "unrecognized escape sequence"

end Pattern
end WebDispatch
