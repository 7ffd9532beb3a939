import WebDispatch.Http.Request
import WebDispatch.Http.Response
import WebDispatch.Locale.Ranges

/-!
# The locale of a request

What each locale resolver finds, and how the locale is changed while a request is answered.  A
change is remembered as an attribute of the request, and with a cookie for later requests.
-/

namespace WebDispatch

/-- The locales that the sender accepts, in the order of preference. -/
def requestedLocales (request : Request) : List Locale :=
  match request.header? "accept-language" with
  | some header => (LanguageRange.parseHeader header).map LanguageRange.locale
  | none => []

namespace AcceptResolver

/-- The first requested locale that is supported, or else the first supported locale that shares
its language with a requested one.  `sameLanguage` is the latter for the requested locales passed
over so far. -/
def findFrom (supported : List Locale) : Option Locale → List Locale → Option Locale
  | sameLanguage, [] => sameLanguage
  | sameLanguage, candidate :: rest =>
      if supported.contains candidate then some candidate
      else
        findFrom supported
          (sameLanguage <|> supported.find? fun locale => locale.language == candidate.language)
          rest

/-- The choice among the supported locales. -/
def find? (resolver : AcceptResolver) (requested : List Locale) : Option Locale :=
  findFrom resolver.supported none requested

/-- The locale for the requested ones. -/
def choose (resolver : AcceptResolver) (requested : List Locale) : Locale :=
  match requested with
  | [] => resolver.default.getD .fallback
  | first :: _ =>
      if resolver.supported.isEmpty || resolver.supported.contains first then first
      else (resolver.find? requested <|> resolver.default).getD first

/-- The locale of a request. -/
def resolve (resolver : AcceptResolver) (request : Request) : Locale :=
  resolver.choose (requestedLocales request)

end AcceptResolver

namespace CookieResolver

/-- The locale that the cookie of a request holds. -/
def fromCookie? (resolver : CookieResolver) (request : Request) : Option Locale :=
  match request.cookie? resolver.name with
  | some value => (Locale.parse value).toOption
  | none => none

/-- The locale where no cookie decides. -/
def withoutCookie (resolver : CookieResolver) (request : Request) : Locale :=
  resolver.default.getD (resolver.accept.resolve request)

/-- The locale of a request: the one set while it is answered, or else the one in the cookie. -/
def resolve (resolver : CookieResolver) (request : Request) : Locale :=
  match request.context.get? Attribute.localeChange? Context.localeChangeKey with
  | some (some locale) => locale
  | some none => resolver.withoutCookie request
  | none => (resolver.fromCookie? request).getD (resolver.withoutCookie request)

/-- A cookie with the path and domain of the resolver. -/
def limit (resolver : CookieResolver) (cookie : Cookie) : Cookie :=
  { cookie with
    path := some resolver.path
    domain := resolver.domain <|> cookie.domain }

/-- The cookie that keeps a locale, or that makes the receiver forget it. -/
def cookieFor (resolver : CookieResolver) : Option Locale → Except Failure Cookie
  | some locale => do
      let cookie ← Cookie.make resolver.name locale.render
      return { resolver.limit cookie with
        secure := resolver.secure
        httpOnly := resolver.httpOnly
        sameSite := some .lax
        maxAge := resolver.maxAge }
  | none => (Cookie.expired resolver.name).map resolver.limit

/-- Set the locale of a request, and of later ones if there is a response that can say so.  The
cookie comes first, and without it there is no change. -/
def set (resolver : CookieResolver) (request : Request) (response : Option Response)
    (locale : Option Locale) : Except Failure Unit × Request × Option Response :=
  match resolver.cookieFor locale with
  | .error failure => (.error failure, request, response)
  | .ok cookie =>
      (.ok (), request.setAttribute Context.localeChangeKey (.localeChange locale),
        response.map (·.addCookie cookie))

end CookieResolver

namespace LocaleResolver

/-- The locale of a request. -/
def resolve : LocaleResolver → Request → Locale
  | accept resolver, request => resolver.resolve request
  | fixed locale, _ => locale
  | cookie resolver, request => resolver.resolve request

/-- Change the locale of a request, and of later ones if there is a response that can say so.  Only
a resolver that keeps locales in cookies can do that. -/
def change (resolver : LocaleResolver) (request : Request) (response : Option Response)
    (locale : Option Locale) : Except Failure (Request × Option Response) :=
  match resolver with
  | cookie resolver =>
      match resolver.set request response locale with
      | (.error failure, _, _) => .error failure
      | (.ok _, request, response) => .ok (request, response)
  | resolver => .error (.unsupported (resolver.qualifiedName ++ " cannot change the locale"))

end LocaleResolver

namespace Request

/-- Say which locale resolver is in use. -/
def exposeResolver (request : Request) (resolver : LocaleResolver) : Request :=
  request.setAttribute Context.resolverKey (.resolver resolver)

/-- The locale resolver in use. -/
def resolver? (request : Request) : Option LocaleResolver :=
  request.context.get? Attribute.resolver? Context.resolverKey

/-- The locale by the resolver in use, or by the accepted languages if there is none. -/
def locale (request : Request) : Locale :=
  (request.resolver?.getD (.accept {})).resolve request

/-- Change the locale by the resolver in use. -/
def changeLocale (request : Request) (response : Option Response) (locale : Option Locale) :
    Except Failure (Request × Option Response) :=
  match request.resolver? with
  | some resolver => resolver.change request response locale
  | none => .error (.unsupported "no locale resolver is exposed on this request")

end Request
end WebDispatch
