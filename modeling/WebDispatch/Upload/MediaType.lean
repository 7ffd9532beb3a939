import WebDispatch.Text.Basic

/-!
# Media types

A type and a subtype with a slash between them, and parameters after semicolons.  Names are
recognised in any case; the values of parameters keep theirs.
-/

namespace WebDispatch

/-- The characters of tokens in header syntax. -/
def isTokenChar (c : Char) : Bool :=
  c.isAlphanum || "!#$%&'*+-.^_`|~".toList.contains c

/-- A parameter of a media type. -/
structure MediaTypeParameter where
  /-- The name in lower case. -/
  name : String
  /-- The value without quotes. -/
  value : String
  /-- The parameter as it is written, up to the next one. -/
  written : List Char
  deriving DecidableEq, Repr

/-- A media type. -/
structure MediaType where
  /-- The type in lower case. -/
  main : String
  /-- The subtype in lower case, without suffix. -/
  sub : String
  /-- The media type as it is written, with names in lower case. -/
  text : String
  /-- The parameters in order. -/
  parameters : List MediaTypeParameter
  deriving DecidableEq, Repr

namespace MediaType

/-- The characters of quoted values. -/
def isQuotedChar (c : Char) : Bool := 31 < c.toNat && c.toNat != 127

/-- A quoted value after its first quote: the value, and what comes behind its last quote.  The
first character belongs to the value also if it is a quote. -/
def quotedValue? : List Char → Option (List Char × List Char)
  | [] => none
  | first :: rest =>
      match Text.cutAt? '"' rest with
      | none => none
      | some (value, rest) =>
          if (first :: value).all isQuotedChar then some (first :: value, rest) else none

/-- What comes behind a quoted value: spaces up to a semicolon or to the end. -/
def afterQuoted? (s : List Char) : Option (List Char) :=
  match s.dropWhile (· == ' ') with
  | [] => some []
  | ';' :: rest => some rest
  | _ => none

/-- A value that is not quoted, and what comes behind its semicolon.  It may be empty only at the
end. -/
def plainValue? (s : List Char) : Option (List Char × List Char) :=
  let value := s.takeWhile isTokenChar
  match s.dropWhile isTokenChar with
  | [] => some (value, [])
  | ';' :: rest => if value.isEmpty then none else some (value, rest)
  | _ => none

/-- The value of a parameter and what comes behind it. -/
def value? : List Char → Option (List Char × List Char)
  | '"' :: rest => do
      let (value, rest) ← quotedValue? rest
      return (value, ← afterQuoted? rest)
  | s => plainValue? s

/-- The value of a parameter as it is written: the value of `charset` counts in any case. -/
def writtenValue (name value : List Char) : List Char :=
  if name == "charset".toList then value.map Char.toLower else value

/-- One parameter after its spaces, and what comes behind it. -/
def parameter? (s : List Char) : Option (MediaTypeParameter × List Char) :=
  let name := s.takeWhile isTokenChar
  match s.dropWhile isTokenChar with
  | '=' :: written =>
      if name.isEmpty then none
      else do
        let (value, rest) ← value? written
        let name := name.map Char.toLower
        let written := written.take (written.length - rest.length)
        return (⟨String.ofList name, String.ofList value,
          name ++ '=' :: writtenValue name written⟩, rest)
  | _ => none

/-- The parameters behind a semicolon, each with the spaces before it as written.  `fuel` is more
than the number of parameters. -/
def parameters? : (fuel : Nat) → List Char → Option (List MediaTypeParameter)
  | 0, _ => none
  | fuel + 1, s =>
      match s.dropWhile (· == ' ') with
      | [] => some []
      | start => do
          let (parameter, rest) ← parameter? start
          let others ← parameters? fuel rest
          let spaces := s.takeWhile (· == ' ')
          return { parameter with written := spaces ++ parameter.written } :: others

/-- The media type of a text. -/
def parse? (s : String) : Option MediaType :=
  let main := s.toList.takeWhile isTokenChar
  match s.toList.dropWhile isTokenChar with
  | '/' :: rest =>
      let sub := rest.takeWhile isTokenChar
      if main.isEmpty then none
      else
        let make (parameters : List MediaTypeParameter) : MediaType :=
          let names := (main ++ '/' :: sub).map Char.toLower
          { main := String.ofList (main.map Char.toLower)
            sub := String.ofList ((subtypeOf sub).map Char.toLower)
            text := String.ofList (names ++
              if parameters.isEmpty then []
              else ';' :: parameters.flatMap MediaTypeParameter.written)
            parameters }
        match rest.dropWhile isTokenChar with
        | [] => some (make [])
        | ';' :: rest =>
            if sub.isEmpty then none else (parameters? (rest.length + 1) rest).map make
        | _ => none
  | _ => none
where
  /-- The part of a subtype before its suffix; a plus sign in front starts no suffix. -/
  subtypeOf : List Char → List Char
    | [] => []
    | first :: rest => first :: Text.beforeLast '+' rest

/-- The value of the first parameter of a name. -/
def parameter (mediaType : MediaType) (name : String) : Option String :=
  (mediaType.parameters.find? (·.name == name)).map MediaTypeParameter.value

end MediaType
end WebDispatch
