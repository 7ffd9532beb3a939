import WebDispatch.Unicode.Category
import WebDispatch.Unicode.Trait

/-!
# Derived properties

Properties that follow from general categories and from lists of what else has them.
-/

namespace WebDispatch
namespace Unicode

open Category (chars charsOf)

/-- Lower-case characters. -/
def lowercase : CharSet := .union (chars .ll) (.ofTable otherLowercase)

/-- Upper-case characters. -/
def uppercase : CharSet := .union (chars .lu) (.ofTable otherUppercase)

/-- Characters with case. -/
def cased : CharSet := .unions [lowercase, uppercase, chars .lt]

/-- Alphabetic characters. -/
def alphabetic : CharSet :=
  .unions [lowercase, uppercase, charsOf [.lt, .lm, .lo, .nl], .ofTable otherAlphabetic]

/-- What changes in some other case. -/
def changesWhenCasemapped : CharSet :=
  .unions ([changesWhenLowercased, changesWhenTitlecased, changesWhenUppercased].map .ofTable)

/-- Mathematical characters. -/
def math : CharSet := .union (chars .sm) (.ofTable otherMath)

/-- What no identifier holds. -/
def reserved : CharSet := .union (.ofTable patternSyntax) (.ofTable patternWhiteSpace)

/-- What starts identifiers. -/
def idStart : CharSet :=
  (CharSet.union (charsOf [.lu, .ll, .lt, .lm, .lo, .nl]) (.ofTable otherIdStart)).diff reserved

/-- What continues identifiers. -/
def idContinue : CharSet :=
  (CharSet.unions [idStart, charsOf [.mn, .mc, .nd, .pc], .ofTable otherIdContinue]).diff reserved

/-- What continues an identifier, but not in every normal form of it. -/
def unstableContinue : CharSet :=
  .ofTable ["37A 309B-309C FC5E-FC63 FDFA-FDFB FE70 FE72 FE74 FE76 FE78 FE7A FE7C FE7E"]

/-- What starts an identifier, but not in every normal form of it. -/
def unstableStart : CharSet := .union unstableContinue (.ofTable ["E33 EB3 FF9E-FF9F"])

/-- What starts identifiers in every normal form. -/
def xidStart : CharSet := idStart.diff unstableStart

/-- What continues identifiers in every normal form. -/
def xidContinue : CharSet := idContinue.diff unstableContinue

/-- What is not shown where it is not known. -/
def defaultIgnorable : CharSet :=
  (CharSet.unions [.ofTable otherDefaultIgnorable, chars .cf, .ofTable variationSelector]).diff
    (.unions [.ofTable whiteSpace, .ofTable ["FFF9-FFFB 13430-13440"], .ofTable prependedMark])

/-- What extends the character before it. -/
def graphemeExtend : CharSet := .union (charsOf [.me, .mn]) (.ofTable otherGraphemeExtend)

/-- What can stand by itself. -/
def graphemeBase : CharSet :=
  (CharSet.mk [(0, 0xD7FF), (0xE000, CharSet.lastCode)]).diff
    (.union (charsOf [.cc, .cf, .co, .cn, .zl, .zp]) graphemeExtend)

/-- Decimal digits. -/
def digit : CharSet := chars .nd

/-- White space. -/
def blank : CharSet := .ofTable whiteSpace

/-- The characters of words. -/
def word : CharSet :=
  .unions [alphabetic, charsOf [.mn, .mc, .me, .nd, .pc], .ofTable joinControl]

/-- Whether a character belongs to words. -/
def isWord (c : Char) : Bool :=
  if c.toNat < 128 then CharSet.asciiWord.contains c else word.contains c

end Unicode
end WebDispatch
