import WebDispatch.Text.Basic
import WebDispatch.Unicode.Fold

/-!
# Flags

What flags in a pattern change: which characters are skipped, and which set a character or a class
stands for.  Where classes do not follow Unicode, a set may hold ASCII characters only.
-/

namespace WebDispatch
namespace Pattern

/-- How the characters that follow are read. -/
structure Flags where
  /-- Letters match in either case. -/
  ignoreCase : Bool := false
  /-- Line tests look at lines, not at the whole text. -/
  multiLine : Bool := false
  /-- The dot matches line ends. -/
  dotAll : Bool := false
  /-- Repetitions are lazy unless marked, instead of greedy. -/
  swapGreed : Bool := false
  /-- Classes follow Unicode, not ASCII. -/
  unicode : Bool := true
  /-- Lines also end at carriage returns. -/
  crlf : Bool := false
  /-- Blanks and comments are skipped. -/
  verbose : Bool := false
  deriving DecidableEq, Repr

/-- One flag set or cleared. -/
def Flags.set (flags : Flags) (letter : Char) (on : Bool) : Except String Flags :=
  match letter with
  | 'i' => .ok { flags with ignoreCase := on }
  | 'm' => .ok { flags with multiLine := on }
  | 's' => .ok { flags with dotAll := on }
  | 'U' => .ok { flags with swapGreed := on }
  | 'u' => .ok { flags with unicode := on }
  | 'R' => .ok { flags with crlf := on }
  | 'x' => .ok { flags with verbose := on }
  | _ => .error "unrecognized flag"

/-- Skip a comment up to the end of its line. -/
def skipComment : List Char → List Char
  | [] => []
  | c :: rest => if c = '\n' then rest else skipComment rest

theorem length_skipComment_le (s : List Char) : (skipComment s).length ≤ s.length := by
  induction s with
  | nil => simp [skipComment]
  | cons c rest ih =>
      unfold skipComment
      split
      · simp
      · exact Nat.le_succ_of_le ih

/-- Skip blanks and comments. -/
def skipBlanks (s : List Char) : List Char :=
  match s with
  | [] => []
  | c :: rest =>
      if Text.isBlank c then skipBlanks rest
      else if c = '#' then skipBlanks (skipComment rest)
      else s
termination_by s.length
decreasing_by
  · simp
  · exact Nat.lt_succ_of_le (length_skipComment_le rest)

/-- Skip what does not count under the flags in force. -/
def Flags.skip (flags : Flags) (s : List Char) : List Char :=
  if flags.verbose then skipBlanks s else s

/-- A set with the case variants of its members, if case is ignored. -/
def Flags.fold (flags : Flags) (s : CharSet) : CharSet :=
  if flags.ignoreCase then (if flags.unicode then s.folded else s.asciiFolded) else s

/-- The complement of a set.  It holds characters outside ASCII, which only Unicode classes may. -/
def Flags.complement (flags : Flags) (s : CharSet) : Except String CharSet :=
  if flags.unicode then .ok s.compl else .error "pattern can match invalid UTF-8"

/-- A set or its complement, after case is ignored if it is to be. -/
def Flags.foldAndNegate (flags : Flags) (negated : Bool) (s : CharSet) : Except String CharSet :=
  if negated then flags.complement (flags.fold s) else .ok (flags.fold s)

/-- Check that a character may be written the way it is: two hexadecimal digits above ASCII mean a
byte unless classes follow Unicode. -/
def Flags.checkLiteral (flags : Flags) (c : Char) (byte : Bool) : Except String Unit :=
  if !flags.unicode && byte && c.toNat > 127 then .error "pattern can match invalid UTF-8"
  else .ok ()

/-- The set that a single character outside a class matches. -/
def Flags.literal (flags : Flags) (c : Char) (byte : Bool) : Except String CharSet := do
  flags.checkLiteral c byte
  return flags.fold (.single c)

/-- The set of a range of characters inside a class. -/
def Flags.classRange (flags : Flags) (first last : Char × Bool) : Except String CharSet := do
  flags.checkLiteral first.1 first.2
  flags.checkLiteral last.1 last.2
  if !flags.unicode && (first.1.toNat > 127 || last.1.toNat > 127) then
    .error "Unicode not allowed here"
  else .ok (.range first.1.toNat last.1.toNat)

end Pattern
end WebDispatch
