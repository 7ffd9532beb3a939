import WebDispatch.Text.Utf8

/-!
# Percent decoding

A percent sign followed by two hexadecimal digits stands for a byte and a plus sign for a space; an
incomplete escape stands for itself.  The bytes are read leniently as UTF-8.
-/

namespace WebDispatch
namespace Text

/-- The value of a hexadecimal digit of either case. -/
def hexValue? (b : UInt8) : Option UInt8 :=
  if 0x30 ≤ b ∧ b ≤ 0x39 then some (b - 0x30)
  else if 0x41 ≤ b ∧ b ≤ 0x46 then some (b - 0x37)
  else if 0x61 ≤ b ∧ b ≤ 0x66 then some (b - 0x57)
  else none

/-- The byte that two hexadecimal digits stand for. -/
def hexByte? (high low : UInt8) : Option UInt8 := do
  let high ← hexValue? high
  let low ← hexValue? low
  return high * 16 + low

/-- The bytes that a percent-encoded byte sequence stands for. -/
def percentBytes : List UInt8 → List UInt8
  | [] => []
  | b :: rest =>
      if b = 0x2B then 0x20 :: percentBytes rest
      else if b = 0x25 then
        match rest with
        | high :: low :: tail =>
            match hexByte? high low with
            | some value => value :: percentBytes tail
            | none => 0x25 :: percentBytes (high :: low :: tail)
        | rest => 0x25 :: percentBytes rest
      else b :: percentBytes rest
termination_by s => s.length

/-- The text that a percent-encoded text stands for. -/
def percentDecode (s : String) : String :=
  decodeLossy (percentBytes (encode s))

end Text
end WebDispatch
