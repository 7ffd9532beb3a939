import WebDispatch.Upload.PartHead

/-!
# Form data

The parts of a multipart body.  A part begins after a line with the boundary and ends before the
next one.  Reading goes part by part, so that a fault leaves the parts before it.
-/

namespace WebDispatch

/-- A part of a multipart body. -/
structure FormPart where
  /-- What its headers say. -/
  head : PartHead
  /-- Its content, in the pieces in which it was received. -/
  pieces : List (List UInt8)

namespace FormPart

/-- The whole content. -/
def content (part : FormPart) : List UInt8 := part.pieces.flatten

end FormPart

namespace FormData

/-- How many elements come before the first occurrence of a word. -/
def indexOf? (word s : List UInt8) : Option Nat := go 0 s
where
  /-- The search behind `n` elements. -/
  go (n : Nat) : List UInt8 → Option Nat
    | [] => if word.isEmpty then some n else none
    | b :: rest => if word.isPrefixOf (b :: rest) then some n else go (n + 1) rest

/-- The line that separates parts, without the end of the line before it. -/
def delimiter (boundary : String) : List UInt8 := [0x2D, 0x2D] ++ Text.encode boundary

/-- The end of a line. -/
def lineEnd : List UInt8 := [0x0D, 0x0A]

/-- What follows a delimiter: the next part, or nothing if it was the last one. -/
def afterDelimiter : List UInt8 → Except FormFault (Option (List UInt8))
  | a :: b :: rest =>
      if a = 0x2D ∧ b = 0x2D then .ok none
      else
        match (a :: b :: rest).dropWhile PartHeader.isBlankByte with
        | 0x0D :: 0x0A :: rest => .ok (some rest)
        | _ => .error .incompleteBody
  | _ => .error .incompleteBody

/-- Read one part, whose content may have `limit` bytes; also what follows the delimiter behind
it. -/
def part (delimiter : List UInt8) (limit : Option Nat) (s : List UInt8) :
    Except FormFault (FormPart × List UInt8) := do
  match indexOf? (lineEnd ++ lineEnd) s with
  | none => .error .incompleteBody
  | some n =>
      let head := PartHead.ofHeaders (← PartHeader.parse (s.take (n + 4)))
      let s := s.drop (n + 4)
      match indexOf? (lineEnd ++ delimiter) s with
      | none => .error (.incompletePart head.name)
      | some size =>
          match limit with
          | some limit => if limit < size then .error (.partTooLarge head.name limit)
          | none => pure ()
          return (⟨head, [s.take size]⟩, s.drop (size + 2 + delimiter.length))

/-- The parts behind a delimiter up to the last one, or up to a fault.  `fuel` is more than the
number of parts. -/
def partsWithin (delimiter : List UInt8) (limit : Option Nat) :
    (fuel : Nat) → List UInt8 → List FormPart × Option FormFault
  | 0, _ => ([], some .incompleteBody)
  | fuel + 1, s =>
      match afterDelimiter s with
      | .error fault => ([], some fault)
      | .ok none => ([], none)
      | .ok (some s) =>
          match part delimiter limit s with
          | .error fault => ([], some fault)
          | .ok (first, s) =>
              let (others, fault) := partsWithin delimiter limit fuel s
              (first :: others, fault)

/-- The parts of a body, and the fault that ends them if there is one. -/
def parts (boundary : String) (limit : Option Nat) (body : List UInt8) :
    List FormPart × Option FormFault :=
  let delimiter := delimiter boundary
  match indexOf? delimiter body with
  | none => ([], some .incompleteBody)
  | some n => partsWithin delimiter limit (body.length + 1) (body.drop (n + delimiter.length))

/-- The boundary that a content type gives. -/
def boundary (contentType : String) : Except FormFault String :=
  match MediaType.parse? contentType with
  | none => .error .mediaTypeSyntax
  | some mediaType =>
      if mediaType.main == "multipart" && mediaType.sub == "form-data" then
        match mediaType.parameter "boundary" with
        | some boundary => .ok boundary
        | none => .error .noBoundary
      else .error .otherMediaType

end FormData
end WebDispatch
