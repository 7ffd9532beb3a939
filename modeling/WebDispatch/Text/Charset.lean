import WebDispatch.Text.Basic
import WebDispatch.Text.DoubleByte
import WebDispatch.Text.SingleByte
import WebDispatch.Text.Utf8

/-!
# Character sets

The character sets that texts are sent in, by the labels that name them, and the lenient reading of
bytes in each of them.  A byte order mark in front of a text decides for itself.
-/

namespace WebDispatch

/-- A character set. -/
inductive Charset where
  | utf8
  /-- Units of two bytes, with the high byte first or last. -/
  | utf16 (highFirst : Bool)
  /-- Every byte is a character; those of the upper half are listed. -/
  | singleByte (upper : String)
  /-- The upper half is for private use. -/
  | privateUse
  /-- A character set of several bytes for Japanese, Korean or Chinese. -/
  | shiftJis | eucJp | iso2022Jp | eucKr | big5 | gb18030
  /-- A character set that is not read, for it can hide what it says. -/
  | refused

namespace Charset

/-- The labels of the character sets, in lower case and with spaces between them. -/
def labels : List (String × Charset) :=
  [("unicode-1-1-utf-8 unicode11utf8 unicode20utf8 utf-8 utf8 x-unicode20utf8", utf8),
    ("866 cp866 csibm866 ibm866", singleByte SingleByte.ibm866),
    ("csisolatin2 iso-8859-2 iso-ir-101 iso8859-2 iso88592 iso_8859-2 iso_8859-2:1987 l2 latin2",
      singleByte SingleByte.iso8859n2),
    ("csisolatin3 iso-8859-3 iso-ir-109 iso8859-3 iso88593 iso_8859-3 iso_8859-3:1988 l3 latin3",
      singleByte SingleByte.iso8859n3),
    ("csisolatin4 iso-8859-4 iso-ir-110 iso8859-4 iso88594 iso_8859-4 iso_8859-4:1988 l4 latin4",
      singleByte SingleByte.iso8859n4),
    ("csisolatincyrillic cyrillic iso-8859-5 iso-ir-144 iso8859-5 iso88595 iso_8859-5 " ++
      "iso_8859-5:1988", singleByte SingleByte.iso8859n5),
    ("arabic asmo-708 csiso88596e csiso88596i csisolatinarabic ecma-114 iso-8859-6 iso-8859-6-e " ++
      "iso-8859-6-i iso-ir-127 iso8859-6 iso88596 iso_8859-6 iso_8859-6:1987",
      singleByte SingleByte.iso8859n6),
    ("csisolatingreek ecma-118 elot_928 greek greek8 iso-8859-7 iso-ir-126 iso8859-7 iso88597 " ++
      "iso_8859-7 iso_8859-7:1987 sun_eu_greek", singleByte SingleByte.iso8859n7),
    ("csiso88598e csisolatinhebrew hebrew iso-8859-8 iso-8859-8-e iso-ir-138 iso8859-8 iso88598 " ++
      "iso_8859-8 iso_8859-8:1988 visual csiso88598i iso-8859-8-i logical",
      singleByte SingleByte.iso8859n8),
    ("csisolatin6 iso-8859-10 iso-ir-157 iso8859-10 iso885910 l6 latin6",
      singleByte SingleByte.iso8859n10),
    ("iso-8859-13 iso8859-13 iso885913", singleByte SingleByte.iso8859n13),
    ("iso-8859-14 iso8859-14 iso885914", singleByte SingleByte.iso8859n14),
    ("csisolatin9 iso-8859-15 iso8859-15 iso885915 iso_8859-15 l9",
      singleByte SingleByte.iso8859n15),
    ("iso-8859-16", singleByte SingleByte.iso8859n16),
    ("cskoi8r koi koi8 koi8-r koi8_r", singleByte SingleByte.koi8r),
    ("koi8-ru koi8-u", singleByte SingleByte.koi8u),
    ("csmacintosh mac macintosh x-mac-roman", singleByte SingleByte.macintosh),
    ("dos-874 iso-8859-11 iso8859-11 iso885911 tis-620 windows-874",
      singleByte SingleByte.windows874),
    ("cp1250 windows-1250 x-cp1250", singleByte SingleByte.windows1250),
    ("cp1251 windows-1251 x-cp1251", singleByte SingleByte.windows1251),
    ("ansi_x3.4-1968 ascii cp1252 cp819 csisolatin1 ibm819 iso-8859-1 iso-ir-100 iso8859-1 " ++
      "iso88591 iso_8859-1 iso_8859-1:1987 l1 latin1 us-ascii windows-1252 x-cp1252",
      singleByte SingleByte.windows1252),
    ("cp1253 windows-1253 x-cp1253", singleByte SingleByte.windows1253),
    ("cp1254 csisolatin5 iso-8859-9 iso-ir-148 iso8859-9 iso88599 iso_8859-9 iso_8859-9:1989 l5 " ++
      "latin5 windows-1254 x-cp1254", singleByte SingleByte.windows1254),
    ("cp1255 windows-1255 x-cp1255", singleByte SingleByte.windows1255),
    ("cp1256 windows-1256 x-cp1256", singleByte SingleByte.windows1256),
    ("cp1257 windows-1257 x-cp1257", singleByte SingleByte.windows1257),
    ("cp1258 windows-1258 x-cp1258", singleByte SingleByte.windows1258),
    ("x-mac-cyrillic x-mac-ukrainian", singleByte SingleByte.macCyrillic),
    ("csshiftjis ms932 ms_kanji shift-jis shift_jis sjis windows-31j x-sjis", shiftJis),
    ("cseucpkdfmtjapanese euc-jp x-euc-jp", eucJp),
    ("csiso2022jp iso-2022-jp", iso2022Jp),
    ("cseuckr csksc56011987 euc-kr iso-ir-149 korean ks_c_5601-1987 ks_c_5601-1989 ksc5601 " ++
      "ksc_5601 windows-949", eucKr),
    ("big5 big5-hkscs cn-big5 csbig5 x-x-big5", big5),
    ("chinese csgb2312 csiso58gb231280 gb2312 gb_2312 gb_2312-80 gbk iso-ir-58 x-gbk gb18030",
      gb18030),
    ("csiso2022kr hz-gb-2312 iso-2022-cn iso-2022-cn-ext iso-2022-kr replacement", refused),
    ("unicodefffe utf-16be", utf16 true),
    ("csunicode iso-10646-ucs-2 ucs-2 unicode unicodefeff utf-16 utf-16le", utf16 false),
    ("x-user-defined", privateUse)]

/-- Whether a character is white space around a label. -/
def isLabelBlank (c : Char) : Bool :=
  c == ' ' || c == '\t' || c == '\n' || c == '\x0c' || c == '\r'

/-- The character set that a label names. -/
def ofLabel? (label : String) : Option Charset :=
  let label := (Text.trim isLabelBlank label.toList).map Char.toLower
  (labels.find? fun entry => (entry.1.toList.splitOn ' ').contains label).map Prod.snd

/-- Whether a unit is the first half of a character. -/
def isHighHalf (unit : Nat) : Bool := 0xD800 ≤ unit && unit < 0xDC00

/-- Whether a unit is the second half of a character. -/
def isLowHalf (unit : Nat) : Bool := 0xDC00 ≤ unit && unit < 0xE000

/-- The characters of units of two bytes.  `high` is the first half that was read before. -/
def ofUnits (highFirst : Bool) (high : Option Nat) : List UInt8 → List Char
  | [] => if high.isSome then [Text.replacement] else []
  | [_] => [Text.replacement]
  | a :: b :: rest =>
      let unit := if highFirst then a.toNat * 256 + b.toNat else b.toNat * 256 + a.toNat
      match high with
      | some first =>
          if isLowHalf unit then
            Char.ofNat (0x10000 + (first - 0xD800) * 0x400 + (unit - 0xDC00)) ::
              ofUnits highFirst none rest
          else if isHighHalf unit then Text.replacement :: ofUnits highFirst (some unit) rest
          else Text.replacement :: Char.ofNat unit :: ofUnits highFirst none rest
      | none =>
          if isHighHalf unit then ofUnits highFirst (some unit) rest
          else if isLowHalf unit then Text.replacement :: ofUnits highFirst none rest
          else Char.ofNat unit :: ofUnits highFirst none rest

/-- The text of bytes without a byte order mark. -/
def decodeUnmarked (charset : Charset) (bytes : List UInt8) : String :=
  match charset with
  | utf8 => Text.decodeLossy bytes
  | utf16 highFirst => String.ofList (ofUnits highFirst none bytes)
  | singleByte upper =>
      let table := upper.toList.toArray
      String.ofList (bytes.map fun b =>
        if b < 0x80 then Char.ofNat b.toNat else table.getD (b.toNat - 0x80) Text.replacement)
  | privateUse =>
      String.ofList (bytes.map fun b =>
        if b < 0x80 then Char.ofNat b.toNat else Char.ofNat (0xF780 + (b.toNat - 0x80)))
  | shiftJis => DoubleByte.decodeShiftJis bytes
  | eucJp => DoubleByte.decodeEucJp bytes
  | iso2022Jp => DoubleByte.decodeIso2022Jp bytes
  | eucKr => DoubleByte.decodeEucKr bytes
  | big5 => DoubleByte.decodeBig5 bytes
  | gb18030 => DoubleByte.decodeGb18030 bytes
  | refused => if bytes.isEmpty then "" else String.singleton Text.replacement

/-- The text of bytes, in the character set that a byte order mark names if there is one. -/
def decode (charset : Charset) (bytes : List UInt8) : String :=
  match bytes with
  | 0xEF :: 0xBB :: 0xBF :: rest => decodeUnmarked utf8 rest
  | 0xFF :: 0xFE :: rest => decodeUnmarked (utf16 false) rest
  | 0xFE :: 0xFF :: rest => decodeUnmarked (utf16 true) rest
  | bytes => decodeUnmarked charset bytes

end Charset
end WebDispatch
