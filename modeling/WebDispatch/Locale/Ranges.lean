import WebDispatch.Decimal.Nearest
import WebDispatch.Locale.Tag
import WebDispatch.RunSort

/-!
# Language ranges

The items of an `Accept-Language` header in the order of preference.  A quality is a
single-precision number between zero and one, or no number at all.
-/

namespace WebDispatch

/-- The quality of a language range. -/
inductive Quality where
  /-- The quality is written as no number. -/
  | nan
  /-- The number with a bit pattern; bit patterns are ordered as the numbers are. -/
  | ofBits (bits : Nat)
  deriving DecidableEq, Repr

namespace Quality

/-- The greatest quality. -/
def one : Quality := ofBits Decimal.oneBits

/-- Whether one quality is less than another; no number compares with `nan`. -/
def less : Quality → Quality → Bool
  | ofBits a, ofBits b => a < b
  | _, _ => false

/-- Whether a quality is zero. -/
def isZero (quality : Quality) : Bool := quality == ofBits 0

/-- The digits in front of a text as a number, how many there are, and the rest. -/
def takeDigits (s : List Char) : Nat × Nat × List Char :=
  let digits := s.takeWhile Char.isDigit
  (digits.foldl (fun n c => n * 10 + (c.toNat - 48)) 0, digits.length, s.dropWhile Char.isDigit)

/-- An exponent that makes up the rest of a number. -/
def exponent? : List Char → Option Int
  | [] => some 0
  | c :: rest =>
      if c = 'e' ∨ c = 'E' then
        let (negative, rest) := match rest with
          | '+' :: rest => (false, rest)
          | '-' :: rest => (true, rest)
          | rest => (false, rest)
        match takeDigits rest with
        | (_, 0, _) => none
        | (size, _, []) =>
            let size := min size 0x100000
            some (if negative then -(size : Int) else size)
        | _ => none
      else none

/-- The quality that an unsigned decimal means, cut off at one. -/
def ofDecimal? (s : List Char) : Option Quality := do
  let (whole, wholeCount, rest) := takeDigits s
  let (fraction, fractionCount, rest) := match rest with
    | '.' :: rest => takeDigits rest
    | rest => (0, 0, rest)
  if wholeCount = 0 ∧ fractionCount = 0 then none
  else
    let exponent ← exponent? rest
    let digits := whole * Nat.pow 10 fractionCount + fraction
    return ofBits (Decimal.nearestBitsUpToOne digits (exponent - fractionCount))

/-- The quality that a word for something other than a finite number means. -/
def ofWord? (s : List Char) : Option Quality :=
  let lowered := String.ofList (s.map Char.toLower)
  if lowered = "nan" then some nan
  else if lowered = "inf" ∨ lowered = "infinity" then some one
  else none

/-- The quality that a text means, cut off at zero and one. -/
def parse? (s : List Char) : Option Quality :=
  let (negative, body) := match s with
    | '+' :: rest => (false, rest)
    | '-' :: rest => (true, rest)
    | s => (false, s)
  match ofDecimal? body <|> ofWord? body with
  | some (ofBits bits) => some (ofBits (if negative then 0 else bits))
  | other => other

end Quality

/-- One accepted language. -/
structure LanguageRange where
  /-- The language. -/
  locale : Locale
  /-- How welcome it is. -/
  quality : Quality
  deriving DecidableEq

namespace LanguageRange

/-- The quality that a list of parameters gives; nothing if one is not readable.  The last quality
counts, and all of them have to be readable. -/
def qualityOf : Quality → List (List Char) → Option Quality
  | quality, [] => some quality
  | quality, parameter :: rest =>
      match Text.cutAt? '=' parameter with
      | some (key, value) =>
          if Text.trim Text.isBlank key = ['q'] then do
            qualityOf (← Quality.parse? (Text.trim Text.isBlank value)) rest
          else qualityOf quality rest
      | none => qualityOf quality rest

/-- The range that one item of a header stands for.  An item for any language, of quality zero, or
that is not readable, stands for none. -/
def ofItem? (item : List Char) : Option LanguageRange :=
  match item.splitOn ';' with
  | [] => none
  | tag :: parameters =>
      let tag := Text.trim Text.isBlank tag
      if tag.isEmpty ∨ tag = ['*'] then none
      else
        match qualityOf .one parameters with
        | none => none
        | some quality =>
            if quality.isZero then none
            else
              match Locale.ofSubtags (Locale.subtags tag) with
              | .ok locale => some ⟨locale, quality⟩
              | .error _ => none

/-- Whether a range is preferred to another one. -/
def preferred (range other : LanguageRange) : Bool := other.quality.less range.quality

/-- Sort ranges by falling quality; ranges of equal quality keep their order.  Where all qualities
are numbers, this says what the result is.  Otherwise short lists are sorted by insertion, and long
ones by runs. -/
def byPreference (ranges : List LanguageRange) : List LanguageRange :=
  if ranges.length ≤ 20 ∨ ranges.all (·.quality != .nan) then
    RunSort.insertAll preferred [] ranges
  else RunSort.sort preferred ranges

/-- The ranges of an `Accept-Language` header in the order of preference. -/
def parseHeader (header : String) : List LanguageRange :=
  byPreference ((header.toList.splitOn ',').filterMap ofItem?)

end LanguageRange
end WebDispatch
