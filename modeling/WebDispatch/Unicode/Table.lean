import WebDispatch.CharSet
import WebDispatch.Text.Basic

/-!
# Tables of characters

The written form of large sets of characters: hexadecimal code points with blanks between them.
`41-5A` means the code points from one to the other, and `100/136` every second one of them.
-/

namespace WebDispatch
namespace Unicode

/-- The lines of a table, from low to high code points. -/
abbrev Table := List String

/-- The value of a digit in upper case. -/
def digitValue (c : Char) : Nat := if c.toNat < 58 then c.toNat - 48 else c.toNat - 55

/-- The value of a hexadecimal number. -/
def number (digits : List Char) : Nat := digits.foldl (fun n c => n * 16 + digitValue c) 0

/-- The ranges of one entry of a table. -/
def entryRanges (entry : List Char) : List (Nat × Nat) :=
  match Text.cutAt? '-' entry with
  | some (first, last) => [(number first, number last)]
  | none =>
      match Text.cutAt? '/' entry with
      | some (first, last) =>
          (List.range ((number last - number first) / 2 + 1)).map fun i =>
            (number first + 2 * i, number first + 2 * i)
      | none => [(number entry, number entry)]

end Unicode

/-- The characters of a table. -/
def CharSet.ofTable (table : Unicode.Table) : CharSet :=
  ⟨table.flatMap fun line => (line.toList.splitOn ' ').flatMap Unicode.entryRanges⟩

end WebDispatch
