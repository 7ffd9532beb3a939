import WebDispatch.Text.Basic

/-!
# Locales

A locale is a language tag: a language, which may be undetermined, and optionally a script, a region
and variants.  Subtags are kept in their canonical case, and variants sorted and distinct.
-/

namespace WebDispatch

namespace Locale

/-- Whether a subtag names a language: two, three or five to eight letters. -/
def isLanguage (s : List Char) : Bool :=
  (s.length == 2 || s.length == 3 || (5 ≤ s.length && s.length ≤ 8)) && s.all Char.isAlpha

/-- Whether a subtag names a script: four letters. -/
def isScript (s : List Char) : Bool :=
  s.length == 4 && s.all Char.isAlpha

/-- Whether a subtag names a region: two letters or three digits. -/
def isRegion (s : List Char) : Bool :=
  (s.length == 2 && s.all Char.isAlpha) || (s.length == 3 && s.all Char.isDigit)

/-- Whether a subtag names a variant: five to eight letters and digits, or four ASCII characters of
which the last three are letters and digits unless the first is a digit. -/
def isVariant (s : List Char) : Bool :=
  match s with
  | [first, a, b, c] =>
      s.all (fun c => 0 < c.toNat && c.toNat < 128) &&
        (first.isDigit || [a, b, c].all Char.isAlphanum)
  | s => 5 ≤ s.length && s.length ≤ 8 && s.all Char.isAlphanum

/-- The case of languages and variants. -/
def lowerCase (s : List Char) : List Char := s.map Char.toLower

/-- The case of regions. -/
def upperCase (s : List Char) : List Char := s.map Char.toUpper

/-- The case of scripts. -/
def titleCase : List Char → List Char
  | [] => []
  | c :: rest => c.toUpper :: rest.map Char.toLower

/-- The text of the undetermined language. -/
def undetermined : List Char := ['u', 'n', 'd']

/-- Whether subtags are written as a locale keeps them. -/
def isCanonical (language : List Char) (script region : Option (List Char))
    (variants : List (List Char)) : Bool :=
  (language.isEmpty ||
      (isLanguage language && lowerCase language == language && language != undetermined)) &&
    script.all (fun s => isScript s && titleCase s == s) &&
    region.all (fun s => isRegion s && upperCase s == s) &&
    variants.all (fun s => isVariant s && lowerCase s == s) &&
    decide (variants.Pairwise (· < ·))

end Locale

/-- A language tag. -/
structure Locale where
  /-- The language, empty if it is undetermined. -/
  language : List Char
  /-- The script. -/
  script : Option (List Char)
  /-- The region. -/
  region : Option (List Char)
  /-- The variants in ascending order. -/
  variants : List (List Char)
  /-- The subtags are well-formed and in their canonical case. -/
  canonical : Locale.isCanonical language script region variants = true
  deriving DecidableEq

namespace Locale

/-- Why a text is no locale. -/
inductive Fault where
  /-- It does not start with a language. -/
  | language
  /-- A subtag after the language fits nowhere. -/
  | subtag
  deriving DecidableEq, Repr

/-- The text of a fault. -/
def Fault.message : Fault → String
  | language => "Parser error: The given language subtag is invalid"
  | subtag => "Parser error: Invalid subtag"

/-- Insert a variant into a sorted list of distinct ones. -/
def insertVariant (variant : List Char) : List (List Char) → List (List Char)
  | [] => [variant]
  | other :: rest =>
      if variant < other then variant :: other :: rest
      else if variant = other then other :: rest
      else other :: insertVariant variant rest

/-- A script at the front of the subtags, and the rest. -/
def takeScript : List (List Char) → Option (List Char) × List (List Char)
  | s :: rest => if isScript s then (some (titleCase s), rest) else (none, s :: rest)
  | [] => (none, [])

/-- A region at the front of the subtags, and the rest. -/
def takeRegion : List (List Char) → Option (List Char) × List (List Char)
  | s :: rest => if isRegion s then (some (upperCase s), rest) else (none, s :: rest)
  | [] => (none, [])

/-- The locale of the given subtags. -/
def ofSubtags (subtags : List (List Char)) : Except Fault Locale :=
  match subtags with
  | [] => .error .language
  | first :: rest =>
      if isLanguage first then
        let lowered := lowerCase first
        let language := if lowered = undetermined then [] else lowered
        let (script, rest) := takeScript rest
        let (region, rest) := takeRegion rest
        if rest.all isVariant then
          let variants := (rest.map lowerCase).foldl (fun sorted v => insertVariant v sorted) []
          if h : isCanonical language script region variants = true then
            .ok ⟨language, script, region, variants, h⟩
          else .error .subtag
        else .error .subtag
      else .error .language

/-- Cut a text at hyphens and underscores. -/
def subtags (s : List Char) : List (List Char) :=
  (s.map fun c => if c = '_' then '-' else c).splitOn '-'

/-- The locale that a text is the tag of. -/
def parse (s : String) : Except Fault Locale := ofSubtags (subtags s.toList)

/-- The text of the language of a locale. -/
def languageText (locale : Locale) : List Char :=
  if locale.language.isEmpty then undetermined else locale.language

/-- The subtags of a locale in order. -/
def toSubtags (locale : Locale) : List (List Char) :=
  locale.languageText :: locale.script.toList ++ locale.region.toList ++ locale.variants

/-- The tag of a locale. -/
def render (locale : Locale) : String :=
  String.ofList (['-'].intercalate locale.toSubtags)

/-- The locale that is used where nothing else is known. -/
def fallback : Locale := ⟨['e', 'n'], none, none, [], by decide⟩

end Locale
end WebDispatch
