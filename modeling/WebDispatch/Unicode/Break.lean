import WebDispatch.Unicode.Property
import WebDispatch.Unicode.Script

/-!
# Break classes

The classes of characters that the boundaries between user-perceived characters, words and sentences
depend on.  Characters of no class are left out.
-/

namespace WebDispatch
namespace Unicode

open Category (chars charsOf)

/-- A class of characters by its names in lower case without separators. -/
abbrev BreakClass := List String × CharSet

/-- The characters of a class, by one of its names. -/
def breakClass? (classes : List BreakClass) (name : String) : Option CharSet :=
  (classes.find? (·.1.contains name)).map (·.2)

/-- The characters of a script. -/
def scriptChars (name : String) : CharSet :=
  ((script? name).map fun (_, table) => .ofTable table).getD .empty

/-- What extends the character before it, with the skin tones. -/
def extending : CharSet := .union graphemeExtend (.ofTable emojiModifier)

/-- What the next character is taken together with. -/
def prepending : CharSet :=
  .ofTable ["600-605 6DD 70F 890-891 8E2 D4E 110BD 110CD 111C2-111C3 113D1 1193F 11941 11A3A",
    "11A84-11A89 11D46 11F02"]

/-- Marks with width that do not attach to the character before them. -/
def detached : CharSet :=
  .ofTable ["102B-102C 1038 1062-1064 1067-106D 1083 1087-108C 108F 109A-109C 1A61 1A63-1A64 AA7B",
    "AA7D 11720-11721"]

/-- The Hangul syllables without a final consonant: every 28th syllable. -/
def openSyllables : CharSet :=
  ⟨(List.range 399).map fun i => (0xAC00 + 28 * i, 0xAC00 + 28 * i)⟩

/-- The classes that the boundaries of user-perceived characters depend on. -/
def graphemeBreaks : List BreakClass := [
  (["cr"], .range 0xD 0xD),
  (["lf"], .range 0xA 0xA),
  (["control", "cn"],
    (CharSet.union (charsOf [.zl, .zp, .cc, .cf]) ((chars .cn).inter defaultIgnorable)).diff
      (.unions [extending, prepending, .ofTable ["A D 200D"]])),
  (["extend", "ex"], extending),
  (["zwj"], .range 0x200D 0x200D),
  (["regionalindicator", "ri"], .range 0x1F1E6 0x1F1FF),
  (["prepend", "pp"], prepending),
  (["spacingmark", "sm"],
    (CharSet.union (chars .mc) (.ofTable ["E33 EB3"])).diff (.union extending detached)),
  (["l"], .ofTable ["1100-115F A960-A97C"]),
  (["v"], .ofTable ["1160-11A7 D7B0-D7C6 16D63 16D67-16D6A"]),
  (["t"], .ofTable ["11A8-11FF D7CB-D7FB"]),
  (["lv"], openSyllables),
  (["lvt"], (CharSet.range 0xAC00 0xD7A3).diff openSyllables)]

/-- What extends a word: marks, and what extends characters. -/
def wordExtending : CharSet := .union extending (chars .mc)

/-- The numbers of words and sentences that are no digits. -/
def numberMarks : CharSet := .ofTable ["600-605 66B 6DD 890-891 8E2 110BD 110CD"]

/-- Katakana and what is written with it. -/
def katakana : CharSet :=
  .union (scriptChars "katakana") (.ofTable ["3031-3035 309B-309C 30A0 30FC FF70"])

/-- The letters of Hebrew. -/
def hebrewLetter : CharSet := (scriptChars "hebrew").inter (chars .lo)

/-- Letters whose words are found with a dictionary. -/
def dictionaryLetters : CharSet :=
  .ofTable ["E01-E30 E32-E33 E40-E46 E81-E82 E84 E86-E8A E8C-EA3 EA5 EA7-EB0 EB2-EB3 EBD EC0-EC4",
    "EC6 EDC-EDF 1000-102A 103F 1050-1055 105A-105D 1061 1065-1066 106E-1070 1075-1081 108E",
    "1780-17B3 17D7 17DC 1950-196D 1970-1974 1980-19AB 19B0-19C9 1A20-1A54 1AA7 A9E0-A9E4",
    "A9E6-A9EF A9FA-A9FE AA60-AA76 AA7A AA7E-AAAF AAB1 AAB5-AAB6 AAB9-AABD AAC0 AAC2 AADB-AADD",
    "11700-1171A 11740-11746"]

/-- What words are made of besides alphabetic characters. -/
def wordSymbols : CharSet :=
  .ofTable ["2C2-2C5 2D2-2D7 2DE-2DF 2E5-2EB 2ED 2EF-2FF 55A-55C 55E 58A 5F3 70F A708-A716",
    "A720-A721 A789-A78A AB5B"]

/-- The letters that words are made of. -/
def wordLetter : CharSet :=
  .union wordSymbols (alphabetic.diff (.unions [wordExtending, .ofTable ideographic, katakana,
    scriptChars "hiragana", hebrewLetter, dictionaryLetters]))

/-- The classes that the boundaries of words depend on. -/
def wordBreaks : List BreakClass := [
  (["cr"], .range 0xD 0xD),
  (["lf"], .range 0xA 0xA),
  (["newline", "nl"], .ofTable ["B-C 85 2028-2029"]),
  (["extend"], wordExtending),
  (["zwj"], .range 0x200D 0x200D),
  (["format", "fo"],
    (chars .cf).diff (.unions [extending, prepending, .ofTable ["200B 200D"]])),
  (["regionalindicator", "ri"], .range 0x1F1E6 0x1F1FF),
  (["katakana", "ka"], katakana),
  (["hebrewletter", "hl"], hebrewLetter),
  (["aletter", "le"], wordLetter),
  (["singlequote", "sq"], .range 0x27 0x27),
  (["doublequote", "dq"], .range 0x22 0x22),
  (["midnumlet", "mb"], .ofTable ["2E 2018-2019 2024 FE52 FF07 FF0E"]),
  (["midletter", "ml"], .ofTable ["3A B7 387 55F 5F4 2027 FE13 FE55 FF1A"]),
  (["midnum", "mn"],
    .ofTable ["2C 3B 37E 589 60C-60D 66C 7F8 2044 FE10 FE14 FE50 FE54 FF0C FF1B"]),
  (["numeric", "nu"], .union digit numberMarks),
  (["extendnumlet", "ex"], .union (chars .pc) (.range 0x202F 0x202F)),
  (["wsegspace"], (chars .zs).diff (.ofTable ["A0 2007 202F"]))]

/-- What extends a sentence. -/
def sentenceExtending : CharSet := .unions [graphemeExtend, chars .mc, .range 0x200D 0x200D]

/-- The numbers of sentences. -/
def sentenceNumeric : CharSet := .unions [digit, numberMarks, .range 0x66C 0x66C]

/-- Lower-case letters of sentences. -/
def sentenceLower : CharSet :=
  lowercase.diff (.union graphemeExtend (.ofTable ["10D0-10FA 10FD-10FF"]))

/-- Upper-case letters of sentences. -/
def sentenceUpper : CharSet :=
  .union (chars .lt) (uppercase.diff (.ofTable ["1C90-1CBA 1CBD-1CBF"]))

/-- Full stops that may also stand inside sentences. -/
def stops : CharSet := .ofTable ["2E 2024 FE52 FF0E"]

/-- The classes that the boundaries of sentences depend on. -/
def sentenceBreaks : List BreakClass := [
  (["cr"], .range 0xD 0xD),
  (["lf"], .range 0xA 0xA),
  (["sep", "se"], .ofTable ["85 2028-2029"]),
  (["extend", "ex"], sentenceExtending),
  (["format", "fo"], (chars .cf).diff (.union sentenceNumeric sentenceExtending)),
  (["sp"], blank.diff (.ofTable ["A D 85 2028-2029"])),
  (["lower", "lo"], sentenceLower),
  (["upper", "up"], sentenceUpper),
  (["oletter", "le"],
    (CharSet.union alphabetic (.range 0x5F3 0x5F3)).diff
      (.unions [sentenceLower, sentenceUpper, sentenceExtending])),
  (["numeric", "nu"], sentenceNumeric),
  (["aterm", "at"], stops),
  (["sterm", "st"], (CharSet.ofTable sentenceTerminal).diff stops),
  (["close", "cl"],
    .union (charsOf [.ps, .pe, .pi, .pf])
      (.ofTable ["22 27 275B-2760 2E00-2E01 2E06-2E08 2E0B 1F676-1F678"])),
  (["scontinue", "sc"],
    .ofTable ["2C-2D 3A-3B 37E 55D 60C-60D 7F8 1802 1808 2013-2014 3001 FE10-FE11 FE13-FE14",
      "FE31-FE32 FE50-FE51 FE54-FE55 FE58 FE63 FF0C-FF0D FF1A-FF1B FF64"])]

end Unicode
end WebDispatch
