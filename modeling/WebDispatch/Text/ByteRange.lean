import WebDispatch.Text.Utf8

/-!
# Ranges of encodings

The UTF-8 encodings of the characters between two code points.  They are given as sequences of byte
ranges: each choice of one byte of every range is an encoding, and every encoding is such a choice
of one sequence.
-/

namespace WebDispatch
namespace Text

/-- The first and the last byte of a range. -/
abbrev ByteRange := UInt8 × UInt8

/-- The characters whose encodings have the same length, on both sides of the code points that are
no characters. -/
def sameLengthRanges : List (Nat × Nat) :=
  [(0, 0x7F), (0x80, 0x7FF), (0x800, 0xD7FF), (0xE000, 0xFFFF), (0x10000, 0x10FFFF)]

/-- Where the part behind starts, if some but not all of what follows a byte of an encoding lies
between two code points. -/
def cut? (first last : Nat) : Option Nat :=
  [64, 4096, 262144].findSome? fun block =>
    if first / block = last / block then none
    else if first % block ≠ 0 then some ((first / block + 1) * block)
    else if last % block ≠ block - 1 then some (last / block * block)
    else none

/-- The parts of a range in which every byte varies by itself. -/
def aligned (first last : Nat) : List (Nat × Nat) :=
  match cut? first last with
  | none => [(first, last)]
  | some middle =>
      if _h : first < middle ∧ middle ≤ last then
        aligned first (middle - 1) ++ aligned middle last
      else [(first, last)]
termination_by last - first
decreasing_by all_goals omega

/-- The encodings of the characters between two code points, in order. -/
def byteRanges (first last : Nat) : List (List ByteRange) :=
  let parts := sameLengthRanges.filterMap fun (a, b) =>
    if max a first ≤ min b last then some (max a first, min b last) else none
  (parts.flatMap fun (a, b) => aligned a b).map fun (a, b) =>
    (String.utf8EncodeChar (Char.ofNat a)).zip (String.utf8EncodeChar (Char.ofNat b))

end Text
end WebDispatch
