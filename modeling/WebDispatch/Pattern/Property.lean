import WebDispatch.Unicode.Age
import WebDispatch.Unicode.Break
import WebDispatch.Unicode.ScriptExtension

/-!
# Character properties by name

General categories, scripts and other properties, found by any of their names.  Case, blanks,
hyphens, underscores and a leading `is` do not count in a name.
-/

namespace WebDispatch
namespace Pattern

open Unicode (Category)

/-- A property name without what does not count in it. -/
def normalizeName (name : String) : String :=
  let lowered := name.toList.map Char.toLower
  let (body, wasIs) := match lowered with
    | 'i' :: 's' :: rest => (rest, true)
    | body => (body, false)
  let kept := body.filter fun c => c ≠ ' ' ∧ c ≠ '_' ∧ c ≠ '-' ∧ c.toNat < 128
  if wasIs ∧ kept = ['c'] then "isc" else String.ofList kept

/-- The general categories that a normalized name stands for. -/
def categories? : String → Option (List Category)
  | "cc" | "control" | "cntrl" => some [.cc]
  | "cf" | "format" => some [.cf]
  | "cn" | "unassigned" => some [.cn]
  | "co" | "privateuse" => some [.co]
  | "l" | "letter" => some [.lu, .ll, .lt, .lm, .lo]
  | "lc" | "casedletter" => some [.lu, .ll, .lt]
  | "ll" | "lowercaseletter" => some [.ll]
  | "lm" | "modifierletter" => some [.lm]
  | "lo" | "otherletter" => some [.lo]
  | "lt" | "titlecaseletter" => some [.lt]
  | "lu" | "uppercaseletter" => some [.lu]
  | "m" | "mark" | "combiningmark" => some [.mn, .mc, .me]
  | "mc" | "spacingmark" => some [.mc]
  | "me" | "enclosingmark" => some [.me]
  | "mn" | "nonspacingmark" => some [.mn]
  | "n" | "number" => some [.nd, .nl, .no]
  | "nd" | "decimalnumber" | "digit" => some [.nd]
  | "nl" | "letternumber" => some [.nl]
  | "no" | "othernumber" => some [.no]
  | "p" | "punctuation" | "punct" => some [.pc, .pd, .ps, .pe, .pi, .pf, .po]
  | "pc" | "connectorpunctuation" => some [.pc]
  | "pd" | "dashpunctuation" => some [.pd]
  | "pe" | "closepunctuation" => some [.pe]
  | "pf" | "finalpunctuation" => some [.pf]
  | "pi" | "initialpunctuation" => some [.pi]
  | "po" | "otherpunctuation" => some [.po]
  | "ps" | "openpunctuation" => some [.ps]
  | "s" | "symbol" => some [.sm, .sc, .sk, .so]
  | "sc" | "currencysymbol" => some [.sc]
  | "sk" | "modifiersymbol" => some [.sk]
  | "sm" | "mathsymbol" => some [.sm]
  | "so" | "othersymbol" => some [.so]
  | "z" | "separator" => some [.zs, .zl, .zp]
  | "zl" | "lineseparator" => some [.zl]
  | "zp" | "paragraphseparator" => some [.zp]
  | "zs" | "spaceseparator" => some [.zs]
  | _ => none

/-- The general category with a normalized name.  The others are one range with the code points
between them that are no characters. -/
def category? (name : String) : Option CharSet :=
  match name with
  | "any" => some .any
  | "ascii" => some (.range 0 127)
  | "assigned" => some (Category.cn.chars.compl)
  | "c" | "other" =>
      some (.union (Category.charsOf [.cc, .cf, .co, .cn]) (.range 0xD800 0xDFFF))
  | name => (categories? name).map Category.charsOf

/-- The property with a normalized name that a character has or has not. -/
def trait? : String → Option CharSet
  | "alphabetic" | "alpha" => some Unicode.alphabetic
  | "cased" => some Unicode.cased
  | "changeswhencasemapped" | "cwcm" => some Unicode.changesWhenCasemapped
  | "defaultignorablecodepoint" | "di" => some Unicode.defaultIgnorable
  | "graphemebase" | "grbase" => some Unicode.graphemeBase
  | "graphemeextend" | "grext" => some Unicode.graphemeExtend
  | "idcontinue" | "idc" => some Unicode.idContinue
  | "idstart" | "ids" => some Unicode.idStart
  | "lowercase" | "lower" => some Unicode.lowercase
  | "math" => some Unicode.math
  | "uppercase" | "upper" => some Unicode.uppercase
  | "xidcontinue" | "xidc" => some Unicode.xidContinue
  | "xidstart" | "xids" => some Unicode.xidStart
  | name => Unicode.trait? name

/-- The script with a normalized name. -/
def script? (name : String) : Option CharSet :=
  (Unicode.script? name).map fun (_, table) => .ofTable table

/-- The characters that the script with a normalized name uses. -/
def scriptExtension? (name : String) : Option CharSet :=
  (Unicode.script? name).map fun (names, table) =>
    Unicode.usedBy (names.headD "") (.ofTable table)

/-- The property with a name of any kind.  Three general categories have names that also stand for
properties of other kinds. -/
def property? (name : String) : Option CharSet :=
  let name := normalizeName name
  (if name ∈ ["cf", "sc", "lc"] then none else trait? name) <|> category? name <|> script? name

/-- The property with a name and a value. -/
def valueProperty? (name value : String) : Option CharSet :=
  let value := normalizeName value
  match normalizeName name with
  | "gc" | "generalcategory" => category? value
  | "sc" | "script" => script? value
  | "scx" | "scriptextensions" => scriptExtension? value
  | "age" => Unicode.upToAge? value
  | "gcb" | "graphemeclusterbreak" => Unicode.breakClass? Unicode.graphemeBreaks value
  | "wb" | "wordbreak" => Unicode.breakClass? Unicode.wordBreaks value
  | "sb" | "sentencebreak" => Unicode.breakClass? Unicode.sentenceBreaks value
  | _ => none

end Pattern
end WebDispatch
