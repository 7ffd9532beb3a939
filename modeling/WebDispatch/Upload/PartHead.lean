import WebDispatch.Dict
import WebDispatch.Text.Utf8
import WebDispatch.Upload.FormFault
import WebDispatch.Upload.MediaType

/-!
# Heads of parts

The headers in front of the content of a part, and what they say: the name of the part, the name of
the file if it is one, and the media type.
-/

namespace WebDispatch

namespace PartHeader

/-- The bytes of header names. -/
def isNameByte (b : UInt8) : Bool := b < 0x80 && isTokenChar (Char.ofNat b.toNat)

/-- The bytes of header values: no control characters other than tabs. -/
def isValueByte (b : UInt8) : Bool := b == 0x09 || (0x20 ≤ b && b != 0x7F)

/-- The blank bytes in a line. -/
def isBlankByte (b : UInt8) : Bool := b == 0x20 || b == 0x09

/-- What follows the end of a line. -/
def afterLineEnd? : List UInt8 → Option (List UInt8)
  | 0x0D :: 0x0A :: rest => some rest
  | 0x0A :: rest => some rest
  | _ => none

/-- One line with a header: its name, its value without blanks around it, and the next lines. -/
def line? (s : List UInt8) : Option (List UInt8 × List UInt8 × List UInt8) :=
  let name := s.takeWhile isNameByte
  match s.dropWhile isNameByte with
  | 0x3A :: rest =>
      let rest := rest.dropWhile isBlankByte
      let value := rest.takeWhile isValueByte
      if name.isEmpty then none
      else (afterLineEnd? (rest.dropWhile isValueByte)).map fun next =>
        (name, (value.reverse.dropWhile isBlankByte).reverse, next)
  | _ => none

/-- The headers up to an empty line, of which there may be `room`. -/
def lines (room : Nat) (s : List UInt8) : Except FormFault (List (List UInt8 × List UInt8)) :=
  match s with
  | [] => .error .incompleteHeaders
  | s =>
      if (afterLineEnd? s).isSome then .ok []
      else
        match line? s, room with
        | some (name, value, next), room + 1 =>
            (lines room next).map ((name, value) :: ·)
        | _, _ => .error .headerSyntax

/-- The greatest number of headers of a part. -/
def maxCount : Nat := 32

/-- The greatest number of bytes of the name of a header. -/
def maxNameLength : Nat := 65535

/-- The text of the name of a header. -/
def nameText (name : List UInt8) : String := String.ofList (name.map fun b => Char.ofNat b.toNat)

/-- The headers in front of a part by name in lower case; of two equal names the later counts. -/
def parse (s : List UInt8) : Except FormFault (Dict (List UInt8)) := do
  let headers ← lines maxCount s
  match headers.find? fun header => maxNameLength < header.1.length with
  | some (name, _) => .error (.headerName (nameText name))
  | none =>
      return Dict.ofList (headers.map fun (name, value) => (Text.lower (nameText name), value))

end PartHeader

namespace Disposition

/-- The white space of ASCII. -/
def isBlankByte (b : UInt8) : Bool :=
  b == 0x20 || b == 0x09 || b == 0x0A || b == 0x0C || b == 0x0D

/-- What follows the first occurrence of a word that starts a parameter: nothing, white space or a
semicolon comes before it.  Behind an occurrence that starts none, the search begins anew. -/
def afterWord? (word : List UInt8) (startsHere : Bool) : List UInt8 → Option (List UInt8)
  | [] => none
  | b :: rest =>
      if word.isPrefixOf (b :: rest) then
        let rest := rest.drop (word.length - 1)
        if startsHere then some rest else afterWord? word true rest
      else afterWord? word (isBlankByte b || b == 0x3B) rest
termination_by s => s.length
decreasing_by all_goals simp only [List.length_drop, List.length_cons]; omega

/-- The text between quotes, behind the first one; a backslash lets a quote stand for itself. -/
def quoted? : List UInt8 → Option (List UInt8)
  | [] => none
  | 0x5C :: 0x22 :: rest => (quoted? rest).map (0x22 :: ·)
  | 0x22 :: _ => some []
  | b :: rest => (quoted? rest).map (b :: ·)

/-- The value behind an equals sign. -/
def value? (s : List UInt8) : Option (List UInt8) :=
  match s.dropWhile isBlankByte with
  | 0x22 :: rest => quoted? rest
  | s => some (s.takeWhile fun b => b != 0x3B && b != 0x20)

/-- The value of a parameter of a `Content-Disposition` header. -/
def parameter? (word : String) (header : List UInt8) : Option String := do
  let rest ← afterWord? (Text.encode word) true header
  match rest.dropWhile isBlankByte with
  | 0x3D :: rest => Text.decode? (← value? rest)
  | _ => none

end Disposition

/-- What the headers of a part say. -/
structure PartHead where
  /-- The name of the part. -/
  name : Option String
  /-- The name of the file, if the part is one. -/
  filename : Option String
  /-- The media type. -/
  mediaType : Option MediaType

namespace PartHead

/-- The media type of a header that consists of printable ASCII. -/
def mediaTypeOf? (value : List UInt8) : Option MediaType :=
  if value.all (fun b => b == 0x09 || (0x20 ≤ b && b < 0x7F)) then
    MediaType.parse? (PartHeader.nameText value)
  else none

/-- What headers say. -/
def ofHeaders (headers : Dict (List UInt8)) : PartHead :=
  let disposition := headers.get? "content-disposition"
  { name := disposition >>= Disposition.parameter? "name"
    filename := disposition >>= Disposition.parameter? "filename"
    mediaType := headers.get? "content-type" >>= mediaTypeOf? }

end PartHead
end WebDispatch
