/-!
# UTF-8

Encoding of text as bytes, and two readings of bytes as text: the strict one, which refuses a byte
sequence that is no encoding, and the lenient one, which puts U+FFFD for each longest prefix of an
encoding that cannot be completed.
-/

namespace WebDispatch
namespace Text

/-- The UTF-8 encoding of a text. -/
def encode (s : String) : List UInt8 :=
  s.toList.flatMap String.utf8EncodeChar

/-- The replacement character. -/
def replacement : Char := '\uFFFD'

namespace Utf8

/-- What the bytes read so far of one character still require. -/
structure Pending where
  /-- Number of bytes still to come, not counting the next one. -/
  more : Nat
  /-- Least value of the next byte. -/
  low : UInt8
  /-- Greatest value of the next byte. -/
  high : UInt8
  /-- The code point as far as it is read. -/
  code : Nat

/-- What a first byte above ASCII requires, or nothing if no character starts with it. -/
def lead? (b : UInt8) : Option Pending :=
  if 0xC2 ≤ b ∧ b ≤ 0xDF then some ⟨0, 0x80, 0xBF, b.toNat - 0xC0⟩
  else if b = 0xE0 then some ⟨1, 0xA0, 0xBF, 0⟩
  else if b = 0xED then some ⟨1, 0x80, 0x9F, 13⟩
  else if 0xE1 ≤ b ∧ b ≤ 0xEF then some ⟨1, 0x80, 0xBF, b.toNat - 0xE0⟩
  else if b = 0xF0 then some ⟨2, 0x90, 0xBF, 0⟩
  else if 0xF1 ≤ b ∧ b ≤ 0xF3 then some ⟨2, 0x80, 0xBF, b.toNat - 0xF0⟩
  else if b = 0xF4 then some ⟨2, 0x80, 0x8F, 4⟩
  else none

/-- Read the remaining bytes of one character: the character, unless a byte is missing or out of
range, and the bytes after those that fitted. -/
def continuation (more : Nat) (low high : UInt8) (code : Nat) :
    List UInt8 → Option Char × List UInt8
  | [] => (none, [])
  | b :: rest =>
      if low ≤ b ∧ b ≤ high then
        let code := code * 64 + (b.toNat - 0x80)
        match more with
        | 0 => (some (Char.ofNat code), rest)
        | more + 1 => continuation more 0x80 0xBF code rest
      else (none, b :: rest)

/-- Read one character from a nonempty sequence: nothing if the bytes cannot be completed to one,
and the bytes that are left. -/
def next (b : UInt8) (rest : List UInt8) : Option Char × List UInt8 :=
  if b < 0x80 then (some (Char.ofNat b.toNat), rest)
  else
    match lead? b with
    | none => (none, rest)
    | some p => continuation p.more p.low p.high p.code rest

theorem length_continuation_le (more : Nat) (low high : UInt8) (code : Nat) (s : List UInt8) :
    (continuation more low high code s).2.length ≤ s.length := by
  induction s generalizing more low high code with
  | nil => simp [continuation]
  | cons b rest ih =>
      unfold continuation
      split
      · cases more with
        | zero => simp
        | succ more => exact Nat.le_succ_of_le (ih _ _ _ _)
      · simp

theorem length_next_le (b : UInt8) (rest : List UInt8) :
    (next b rest).2.length ≤ rest.length := by
  unfold next
  split
  · simp
  · split
    · simp
    · exact length_continuation_le _ _ _ _ _

/-- The characters of a byte sequence in order, with nothing in the place of bytes that are no
character. -/
def units : List UInt8 → List (Option Char)
  | [] => []
  | b :: rest => (next b rest).1 :: units (next b rest).2
termination_by s => s.length
decreasing_by exact Nat.lt_succ_of_le (length_next_le b rest)

end Utf8

/-- The lenient reading: each longest prefix of an encoding that cannot be completed becomes one
replacement character. -/
def decodeLossy (bytes : List UInt8) : String :=
  String.ofList ((Utf8.units bytes).map (·.getD replacement))

/-- The strict reading: the text, if the bytes are the encoding of one. -/
def decode? (bytes : List UInt8) : Option String :=
  (Utf8.units bytes).mapM id |>.map String.ofList

end Text
end WebDispatch
