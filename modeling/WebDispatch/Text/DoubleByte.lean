import WebDispatch.Text.DoubleByte.Japanese
import WebDispatch.Text.DoubleByte.Korean
import WebDispatch.Text.DoubleByte.Simplified
import WebDispatch.Text.DoubleByte.Traditional
import WebDispatch.Text.Utf8

/-!
# Character sets of several bytes

The character sets of East Asia.  A byte that starts a character names a row of a table, and the
next one a place in the row.  Where no character stands, U+FFFD is read, and the second byte is read
again if it is ASCII.
-/

namespace WebDispatch
namespace DoubleByte

open Text (replacement)

/-! ### Tables -/

/-- The characters of a table by place; the replacement character stands where there is none. -/
def toArray (size : Nat) (runs : List (Nat × String)) : Array Char :=
  runs.foldl (fun table (place, text) =>
    (text.toList.foldl (fun (table, place) c => (table.setIfInBounds place c, place + 1))
      (table, place)).1) (Array.replicate size replacement)

/-- The character at a place, if there is one. -/
def characterAt? (table : Array Char) (place : Nat) : Option Char :=
  let c := table.getD place replacement
  if c = replacement then none else some c

/-- The character whose code point lies as far behind that of a run as its place does. -/
def inRuns? (runs : List (Nat × Nat × Nat)) (place : Nat) : Option Char :=
  (runs.find? fun (first, _, count) => first ≤ place && place < first + count).map
    fun (first, code, _) => Char.ofNat (code + (place - first))

/-! ### Reading -/

/-- How a character set is read: from a state, with a byte and those after it, the characters that
they start with, the next state, and the bytes that are left. -/
abbrev Reader (σ : Type) := σ → UInt8 → List UInt8 → List Char × σ × List UInt8

/-- Read all bytes.  `fuel` is at least their number, and every step takes one or more.  `found` are
the characters before them in reverse order. -/
def readAll {σ : Type} (reader : Reader σ) :
    (fuel : Nat) → σ → List UInt8 → (found : List Char) → List Char
  | 0, _, _, found => found.reverse
  | _, _, [], found => found.reverse
  | fuel + 1, state, b :: rest, found =>
      let (characters, state, rest) := reader state b rest
      readAll reader fuel state rest (characters.reverse ++ found)

/-- The text of bytes. -/
def decode {σ : Type} (reader : Reader σ) (start : σ) (bytes : List UInt8) : String :=
  String.ofList (readAll reader bytes.length start bytes [])

/-- Read the second byte of a character. -/
def second (character? : UInt8 → Option Char) (rest : List UInt8) : List Char × List UInt8 :=
  match rest with
  | [] => ([replacement], [])
  | trail :: after =>
      match character? trail with
      | some c => ([c], after)
      | none => ([replacement], if trail < 0x80 then rest else after)

/-- Whether a byte lies between two others. -/
def isWithin (first last b : UInt8) : Bool := first ≤ b && b ≤ last

/-- The half-width kana of a byte. -/
def halfWidth (first b : UInt8) : Char := Char.ofNat (0xFF61 + (b.toNat - first.toNat))

/-- The place of a second byte in a row that leaves out U+007F, if it has one. -/
def placeInRow? (last b : UInt8) : Option Nat :=
  if isWithin 0x40 0x7E b then some (b.toNat - 0x40)
  else if isWithin 0x80 last b then some (b.toNat - 0x41)
  else none

/-- Shift_JIS: two rows of 94 places to a first byte, around the bytes of half-width kana. -/
def shiftJis (table : Array Char) : Reader Unit := fun _ b rest =>
  if b ≤ 0x80 then ([Char.ofNat b.toNat], (), rest)
  else if isWithin 0xA1 0xDF b then ([halfWidth 0xA1 b], (), rest)
  else if isWithin 0x81 0x9F b || isWithin 0xE0 0xFC b then
    let row := b.toNat - if b < 0xA0 then 0x81 else 0xC1
    let (characters, rest) := second (fun trail =>
      (placeInRow? 0xFC trail).bind fun place =>
        let place := row * 188 + place
        inRuns? [(8836, 0xE000, 1880)] place <|> characterAt? table place) rest
    (characters, (), rest)
  else ([replacement], (), rest)

/-- The character of two bytes in a table of 94 places to a row. -/
def plane? (table : Array Char) (lead trail : UInt8) : Option Char :=
  if isWithin 0xA1 0xFE lead && isWithin 0xA1 0xFE trail then
    characterAt? table ((lead.toNat - 0xA1) * 94 + (trail.toNat - 0xA1))
  else none

/-- EUC-JP: a table, half-width kana after one byte, and a second table after another. -/
def eucJp (table supplement : Array Char) : Reader Unit := fun _ b rest =>
  if b < 0x80 then ([Char.ofNat b.toNat], (), rest)
  else if b = 0x8E then
    let (characters, rest) := second (fun trail =>
      if isWithin 0xA1 0xDF trail then some (halfWidth 0xA1 trail) else none) rest
    (characters, (), rest)
  else if b = 0x8F then
    match rest with
    | [] => ([replacement], (), [])
    | lead :: after =>
        if isWithin 0xA1 0xFE lead then
          let (characters, rest) := second (plane? supplement lead) after
          (characters, (), rest)
        else ([replacement], (), if lead < 0x80 then rest else after)
  else if isWithin 0xA1 0xFE b then
    let (characters, rest) := second (plane? table b) rest
    (characters, (), rest)
  else ([replacement], (), rest)

/-- What the bytes of ISO-2022-JP mean. -/
inductive Shift where
  | ascii
  /-- ASCII with a yen sign and an overline. -/
  | roman
  /-- Half-width kana. -/
  | kana
  /-- Characters of two bytes. -/
  | double
  deriving DecidableEq, Repr

/-- The shift that follows an escape byte, and the bytes behind it. -/
def shift? : List UInt8 → Option (Shift × List UInt8)
  | 0x28 :: 0x42 :: rest => some (.ascii, rest)
  | 0x28 :: 0x4A :: rest => some (.roman, rest)
  | 0x28 :: 0x49 :: rest => some (.kana, rest)
  | 0x24 :: 0x40 :: rest => some (.double, rest)
  | 0x24 :: 0x42 :: rest => some (.double, rest)
  | _ => none

/-- Whether a byte stands for itself in a shift of single bytes. -/
def isPlain (b : UInt8) : Bool := b < 0x80 && b != 0x0E && b != 0x0F

/-- The character of a byte in a shift of single bytes. -/
def shifted? (shift : Shift) (b : UInt8) : Option Char :=
  match shift with
  | .kana => if isWithin 0x21 0x5F b then some (halfWidth 0x21 b) else none
  | .roman =>
      if b = 0x5C then some '\u00A5'
      else if b = 0x7E then some '\u203E'
      else if isPlain b then some (Char.ofNat b.toNat)
      else none
  | _ => if isPlain b then some (Char.ofNat b.toNat) else none

/-- ISO-2022-JP: escape sequences shift what bytes mean.  The state also says whether nothing came
after the last escape sequence; two of them in a row are a fault. -/
def iso2022Jp (table : Array Char) : Reader (Shift × Bool) := fun (shift, justShifted) b rest =>
  if b = 0x1B then
    match shift? rest with
    | some (shift, rest) => (if justShifted then [replacement] else [], (shift, true), rest)
    | none => ([replacement], (shift, false), rest)
  else if shift = .double then
    if isWithin 0x21 0x7E b then
      match rest with
      | [] => ([replacement], (shift, false), [])
      | trail :: after =>
          if trail = 0x1B then ([replacement], (shift, false), rest)
          else
            ([(if isWithin 0x21 0x7E trail then
                characterAt? table ((b.toNat - 0x21) * 94 + (trail.toNat - 0x21))
              else none).getD replacement], (shift, false), after)
    else ([replacement], (shift, false), rest)
  else
    match shifted? shift b with
    | some c => ([c], (shift, false), rest)
    | none => ([replacement], (shift, false), rest)

/-- EUC-KR with the syllables that fill it up: 190 places to a row. -/
def eucKr (table : Array Char) : Reader Unit := fun _ b rest =>
  if b < 0x80 then ([Char.ofNat b.toNat], (), rest)
  else if isWithin 0x81 0xFE b then
    let (characters, rest) := second (fun trail =>
      if isWithin 0x41 0xFE trail then
        characterAt? table ((b.toNat - 0x81) * 190 + (trail.toNat - 0x41))
      else none) rest
    (characters, (), rest)
  else ([replacement], (), rest)

/-- The places of Big5 that stand for a letter and a mark on it. -/
def markedLetters : List (Nat × List Char) :=
  [(1133, ['\u00CA', '\u0304']), (1135, ['\u00CA', '\u030C']),
    (1164, ['\u00EA', '\u0304']), (1166, ['\u00EA', '\u030C'])]

/-- The place of two bytes in Big5: 157 places to a row. -/
def big5Place? (lead trail : UInt8) : Option Nat :=
  if isWithin 0x40 0x7E trail then some ((lead.toNat - 0x81) * 157 + (trail.toNat - 0x40))
  else if isWithin 0xA1 0xFE trail then some ((lead.toNat - 0x81) * 157 + (trail.toNat - 0x62))
  else none

/-- Big5, where a few places stand for two characters. -/
def big5Reader (table : Array Char) : Reader Unit := fun _ b rest =>
  if b < 0x80 then ([Char.ofNat b.toNat], (), rest)
  else if isWithin 0x81 0xFE b then
    match rest with
    | [] => ([replacement], (), [])
    | trail :: after =>
        match (big5Place? b trail).bind (List.lookup · markedLetters) with
        | some letters => (letters, (), after)
        | none =>
            let (characters, rest) := second (fun trail =>
              (big5Place? b trail).bind (characterAt? table)) rest
            (characters, (), rest)
  else ([replacement], (), rest)

/-- The character with a number of four bytes. -/
def following? (number : Nat) : Option Char :=
  if 189000 ≤ number then
    if number ≤ 1237575 then some (Char.ofNat (0x10000 + (number - 189000))) else none
  else if 39419 < number then none
  else
    (gbFollowing.reverse.find? fun (first, _) => first ≤ number).map fun (first, code) =>
      Char.ofNat (code + (number - first))

/-- Four bytes as a number. -/
def fourByteNumber (a b c d : UInt8) : Nat :=
  (((a.toNat - 0x81) * 10 + (b.toNat - 0x30)) * 126 + (c.toNat - 0x81)) * 10 + (d.toNat - 0x30)

/-- The characters of four bytes behind the first two of them; nothing if the bytes do not make up
four.  An unfinished sequence at the end is one fault. -/
def fourth? (a b : UInt8) : List UInt8 → Option (List Char × List UInt8)
  | [] => some ([replacement], [])
  | c :: rest =>
      if isWithin 0x81 0xFE c then
        match rest with
        | [] => some ([replacement], [])
        | d :: rest =>
            if isWithin 0x30 0x39 d then
              some ([(following? (fourByteNumber a b c d)).getD replacement], rest)
            else none
      else none

/-- GB 18030: characters of two bytes, and of four where the second one is a digit. -/
def gb18030Reader (table : Array Char) : Reader Unit := fun _ a rest =>
  if a < 0x80 then ([Char.ofNat a.toNat], (), rest)
  else if a = 0x80 then (['\u20AC'], (), rest)
  else if isWithin 0x81 0xFE a then
    match rest with
    | [] => ([replacement], (), [])
    | b :: after =>
        if isWithin 0x30 0x39 b then
          match fourth? a b after with
          | some (characters, rest) => (characters, (), rest)
          | none => ([replacement], (), rest)
        else
          let (characters, rest) := second (fun trail =>
            (placeInRow? 0xFE trail).bind fun place =>
              let place := (a.toNat - 0x81) * 190 + place
              inRuns? gbPrivate place <|> characterAt? table place) rest
          (characters, (), rest)
  else ([replacement], (), rest)

/-! ### The character sets -/

/-- The text of bytes in Shift_JIS. -/
def decodeShiftJis : List UInt8 → String := decode (shiftJis (toArray 11104 jisX0208)) ()

/-- The text of bytes in EUC-JP. -/
def decodeEucJp : List UInt8 → String :=
  decode (eucJp (toArray 8836 jisX0208) (toArray 8836 jisX0212)) ()

/-- The text of bytes in ISO-2022-JP. -/
def decodeIso2022Jp : List UInt8 → String :=
  decode (iso2022Jp (toArray 8836 jisX0208)) (.ascii, false)

/-- The text of bytes in EUC-KR. -/
def decodeEucKr : List UInt8 → String := decode (eucKr (toArray 23940 ksX1001)) ()

/-- The text of bytes in Big5. -/
def decodeBig5 : List UInt8 → String := decode (big5Reader (toArray 19782 big5)) ()

/-- The text of bytes in GB 18030. -/
def decodeGb18030 : List UInt8 → String := decode (gb18030Reader (toArray 23940 gb18030)) ()

end DoubleByte
end WebDispatch
