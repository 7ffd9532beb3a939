import WebDispatch.Http.Cookie
import WebDispatch.Locale.Tag

/-!
# Locale resolvers

The strategies that find out the locale of a request: from the languages that the sender accepts,
from a cookie, or always the same one.
-/

namespace WebDispatch

/-- Takes the locale from the languages that the sender accepts. -/
structure AcceptResolver where
  /-- The locales to choose from; all of them if empty. -/
  supported : List Locale := []
  /-- The locale where the sender accepts nothing that is supported. -/
  default : Option Locale := none

/-- Takes the locale from a cookie. -/
structure CookieResolver where
  /-- The name of the cookie. -/
  name : String := "LOCALE"
  /-- The path that the cookie is limited to. -/
  path : String := "/"
  /-- The domain that the cookie is limited to. -/
  domain : Option String := none
  /-- How long the cookie is kept. -/
  maxAge : Option Span := none
  /-- Whether the cookie is sent over secure connections only. -/
  secure : Bool := false
  /-- Whether the cookie is hidden from scripts. -/
  httpOnly : Bool := false
  /-- The locale where there is no cookie. -/
  default : Option Locale := none
  /-- What decides where there is neither a cookie nor a default. -/
  accept : AcceptResolver := {}

/-- A strategy that finds out the locale of a request. -/
inductive LocaleResolver where
  | accept (resolver : AcceptResolver)
  | fixed (locale : Locale)
  | cookie (resolver : CookieResolver)

namespace LocaleResolver

/-- The short name of a strategy. -/
def name : LocaleResolver → String
  | accept _ => "AcceptHeaderLocaleResolver"
  | fixed _ => "FixedLocaleResolver"
  | cookie _ => "CookieLocaleResolver"

/-- The full name of a strategy, as messages give it. -/
def qualifiedName : LocaleResolver → String
  | accept _ => "mvcbridge::locale::accept::AcceptHeaderLocaleResolver"
  | fixed _ => "mvcbridge::locale::fixed::FixedLocaleResolver"
  | cookie _ => "mvcbridge::locale::cookie::CookieLocaleResolver"

end LocaleResolver
end WebDispatch
