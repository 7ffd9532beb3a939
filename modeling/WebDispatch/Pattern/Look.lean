import WebDispatch.Unicode.Property

/-!
# Tests of a position

What an expression can ask of the characters on both sides of a position in a text.
-/

namespace WebDispatch

/-- A test of a position in a text. -/
inductive Look where
  | textStart
  | textEnd
  /-- The start of a line; with `crlf`, lines also end at a carriage return. -/
  | lineStart (crlf : Bool)
  /-- The end of a line. -/
  | lineEnd (crlf : Bool)
  /-- Between a character of a word and one that is not. -/
  | boundary (ascii : Bool)
  | noBoundary (ascii : Bool)
  /-- Before a word. -/
  | wordStart (ascii : Bool)
  /-- After a word. -/
  | wordEnd (ascii : Bool)
  /-- Not after a character of a word. -/
  | wordStartHalf (ascii : Bool)
  /-- Not before a character of a word. -/
  | wordEndHalf (ascii : Bool)
  deriving DecidableEq, Repr

namespace Look

/-- Whether a character belongs to words. -/
def inWord (ascii : Bool) (c : Char) : Bool :=
  if ascii then CharSet.asciiWord.contains c else Unicode.isWord c

/-- Whether a test holds at a position of a text. -/
def holds (look : Look) (text : Array Char) (position : Nat) : Bool :=
  let previous := if position = 0 then none else text[position - 1]?
  let next := text[position]?
  let after (ascii : Bool) := previous.any (inWord ascii)
  let before (ascii : Bool) := next.any (inWord ascii)
  match look with
  | textStart => position == 0
  | textEnd => position == text.size
  | lineStart false => previous.all (· == '\n')
  | lineEnd false => next.all (· == '\n')
  | lineStart true =>
      previous.all (· == '\n') || (previous == some '\r' && next != some '\n')
  | lineEnd true =>
      next.all (· == '\r') || (next == some '\n' && previous != some '\r')
  | boundary ascii => after ascii != before ascii
  | noBoundary ascii => after ascii == before ascii
  | wordStart ascii => !after ascii && before ascii
  | wordEnd ascii => after ascii && !before ascii
  | wordStartHalf ascii => !after ascii
  | wordEndHalf ascii => !before ascii

end Look
end WebDispatch
