import WebDispatch.Locale.Resolution
import WebDispatch.Proofs.Http.CookieHeader
import WebDispatch.Proofs.Locale.TagRoundTrip

/-!
# Locales in cookies

However often the locale of a request is set, what counts is the last change that could be made: for
the request itself, for the cookies of the response, and for a later request that brings the cookie
back.  A change can be made if the text of the locale may stand as the value of a cookie.
-/

namespace WebDispatch

theorem Response.filter_addCookie (response : Response) (cookie : Cookie) :
    (response.addCookie cookie).cookies.filter (fun other => other.name == cookie.name) =
      [cookie] := by
  have others : response.cookies.filter
      (fun other => other.name == cookie.name && other.name != cookie.name) = [] := by
    rw [List.filter_eq_nil_iff]
    intro other _
    simp
  simp [addCookie, List.filter_filter, others]

/-- A request that is sent with cookies, or without a cookie header if there are none. -/
def Request.Sends (request : Request) (pairs : List (String × String)) : Prop :=
  request.header? "cookie" = some (Cookie.sentHeader pairs) ∨
    pairs = [] ∧ request.header? "cookie" = none

theorem Request.cookie?_of_sends {request : Request} {pairs : List (String × String)}
    (sends : request.Sends pairs) (valid : ∀ pair ∈ pairs, Cookie.isPair pair = true)
    (name : String) : request.cookie? name = pairs.lookup name := by
  rcases sends with header_eq | ⟨rfl, header_eq⟩
  · rw [cookie?, header_eq]
    exact Cookie.get?_parseHeader_sentHeader valid name
  · rw [cookie?, header_eq]
    rfl

namespace CookieResolver

/-- Whether a change of the locale can be kept in a cookie. -/
def isKept : Option Locale → Bool
  | some locale => Cookie.isValue locale.render
  | none => true

/-- The text that a cookie keeps for a change of the locale. -/
def keptValue : Option Locale → String
  | some locale => locale.render
  | none => ""

/-- Make changes one after the other, and say their results. -/
def setAll (resolver : CookieResolver) :
    List (Option Locale) → Request → Option Response →
      List (Except Failure Unit) × Request × Option Response
  | [], request, response => ([], request, response)
  | locale :: rest, request, response =>
      match resolver.set request response locale with
      | (result, request, response) =>
          match resolver.setAll rest request response with
          | (results, request, response) => (result :: results, request, response)

/-! ## One change -/

/-- The cookie for a change has the name that the resolver says and the text that is kept; only the
attributes depend on the resolver and the change in other ways. -/
theorem cookieFor_eq_map (resolver : CookieResolver) (locale : Option Locale) :
    ∃ finish : Cookie → Cookie,
      (∀ cookie, (finish cookie).name = cookie.name ∧ (finish cookie).value = cookie.value) ∧
      resolver.cookieFor locale =
        (Cookie.make resolver.name (keptValue locale)).map finish := by
  cases locale with
  | none =>
      refine ⟨fun cookie => resolver.limit { cookie with maxAge := some ⟨0⟩ },
        fun _ => ⟨rfl, rfl⟩, ?_⟩
      rw [cookieFor, Cookie.expired, keptValue]
      cases Cookie.make resolver.name "" <;> rfl
  | some locale =>
      refine ⟨fun cookie => { resolver.limit cookie with
        secure := resolver.secure
        httpOnly := resolver.httpOnly
        sameSite := some .lax
        maxAge := resolver.maxAge }, fun _ => ⟨rfl, rfl⟩, ?_⟩
      rw [cookieFor, keptValue]
      cases Cookie.make resolver.name locale.render <;> rfl

theorem isValue_keptValue (locale : Option Locale) :
    Cookie.isValue (keptValue locale) = isKept locale := by
  cases locale with
  | none => decide
  | some locale => rfl

/-- A change with a name that is no name of a cookie fails and changes nothing. -/
theorem set_of_badName {resolver : CookieResolver}
    (bad_name : Cookie.isName resolver.name = false) (request : Request)
    (response : Option Response) (locale : Option Locale) :
    resolver.set request response locale =
      (.error (.cookie (.badName resolver.name)), request, response) := by
  obtain ⟨finish, -, cookie_eq⟩ := resolver.cookieFor_eq_map locale
  rw [set, cookie_eq, Cookie.make_of_badName bad_name]
  rfl

/-- A change that cannot be kept fails and changes nothing. -/
theorem set_of_not_isKept {resolver : CookieResolver}
    (name_valid : Cookie.isName resolver.name = true) {locale : Option Locale}
    (not_kept : isKept locale = false) (request : Request) (response : Option Response) :
    resolver.set request response locale =
      (.error (.cookie (.badValue resolver.name)), request, response) := by
  obtain ⟨finish, -, cookie_eq⟩ := resolver.cookieFor_eq_map locale
  rw [set, cookie_eq,
    Cookie.make_of_badValue name_valid ((isValue_keptValue locale).trans not_kept)]
  rfl

theorem set_of_isKept {resolver : CookieResolver}
    (name_valid : Cookie.isName resolver.name = true) {locale : Option Locale}
    (kept : isKept locale = true) (request : Request) (response : Option Response) :
    ∃ cookie : Cookie, cookie.name = resolver.name ∧ cookie.value = keptValue locale ∧
      resolver.set request response locale =
        (.ok (), request.setAttribute Context.localeChangeKey (.localeChange locale),
          response.map (·.addCookie cookie)) := by
  obtain ⟨finish, finish_eq, cookie_eq⟩ := resolver.cookieFor_eq_map locale
  have value_valid := (isValue_keptValue locale).trans kept
  let plain : Cookie :=
    { name := resolver.name
      value := keptValue locale
      isName_name := name_valid
      isValue_value := value_valid }
  refine ⟨finish plain, (finish_eq plain).1, (finish_eq plain).2, ?_⟩
  rw [set, cookie_eq, Cookie.make_of_valid name_valid value_valid]
  rfl

/-! ## Changes one after the other -/

/-- What the last change that could be made leaves of the changes before it. -/
structure Settled (resolver : CookieResolver) (request changed : Request) (response : Response)
    (locale : Option Locale) : Prop where
  headers : changed.headers = request.headers
  change : changed.context.get? Attribute.localeChange? Context.localeChangeKey = some locale
  cookie : ∃ cookie : Cookie, cookie.name = resolver.name ∧ cookie.value = keptValue locale ∧
    response.cookies.filter (fun other => other.name == resolver.name) = [cookie]

theorem setAll_cons {resolver : CookieResolver} {locale : Option Locale}
    {rest : List (Option Locale)} {request middle changed : Request}
    {response sent last : Option Response} {result : Except Failure Unit}
    {results : List (Except Failure Unit)}
    (set_eq : resolver.set request response locale = (result, middle, sent))
    (rest_eq : resolver.setAll rest middle sent = (results, changed, last)) :
    resolver.setAll (locale :: rest) request response = (result :: results, changed, last) := by
  simp only [setAll, set_eq, rest_eq]

theorem settled_of_isKept {resolver : CookieResolver}
    (name_valid : Cookie.isName resolver.name = true) {locale : Option Locale}
    (kept : isKept locale = true) (request : Request) (response : Response) :
    ∃ changed last, resolver.set request (some response) locale = (.ok (), changed, some last) ∧
      resolver.Settled request changed last locale := by
  obtain ⟨cookie, name_eq, value_eq, set_eq⟩ :=
    set_of_isKept name_valid kept request (some response)
  refine ⟨_, _, set_eq, rfl, ?_, cookie, name_eq, value_eq, ?_⟩
  · simp [Request.setAttribute, Context.set, Context.get?, Attribute.localeChange?]
  · rw [← name_eq]
    exact response.filter_addCookie cookie

theorem setAll_of_badName {resolver : CookieResolver}
    (bad_name : Cookie.isName resolver.name = false) (changes : List (Option Locale))
    (request : Request) (response : Option Response) :
    resolver.setAll changes request response =
      (changes.map fun _ => .error (.cookie (.badName resolver.name)), request, response) := by
  induction changes with
  | nil => rfl
  | cons locale rest ih => exact setAll_cons (set_of_badName bad_name request response locale) ih

/-- The result of a change where the resolver has a valid name. -/
def resultOf (resolver : CookieResolver) (locale : Option Locale) : Except Failure Unit :=
  if isKept locale then .ok () else .error (.cookie (.badValue resolver.name))

theorem setAll_spec {resolver : CookieResolver}
    (name_valid : Cookie.isName resolver.name = true) (changes : List (Option Locale))
    (request : Request) (response : Response) :
    ∃ changed last, resolver.setAll changes request (some response) =
        (changes.map resolver.resultOf, changed, some last) ∧
      match (changes.filter isKept).getLast? with
      | none => changed = request ∧ last = response
      | some locale => resolver.Settled request changed last locale := by
  induction changes generalizing request response with
  | nil => exact ⟨request, response, rfl, rfl, rfl⟩
  | cons locale rest ih =>
      cases kept : isKept locale with
      | false =>
          obtain ⟨changed, last, rest_eq, settled⟩ := ih request response
          refine ⟨changed, last, ?_, ?_⟩
          · rw [List.map_cons, resultOf, kept]
            exact setAll_cons (set_of_not_isKept name_valid kept request _) rest_eq
          · simpa [kept] using settled
      | true =>
          obtain ⟨middle, sent, set_eq, set_settled⟩ :=
            settled_of_isKept name_valid kept request response
          obtain ⟨changed, last, rest_eq, settled⟩ := ih middle sent
          refine ⟨changed, last, ?_, ?_⟩
          · rw [List.map_cons, resultOf, kept]
            exact setAll_cons set_eq rest_eq
          · rw [List.filter_cons_of_pos kept, List.getLast?_cons]
            rcases later : (rest.filter isKept).getLast? with _ | next <;> rw [later] at settled
            · rw [settled.1, settled.2]
              exact set_settled
            · exact ⟨settled.headers.trans set_settled.headers, settled.change, settled.cookie⟩

/-! ## What changes come to -/

theorem withoutCookie_congr {resolver : CookieResolver} {request other : Request}
    (header_eq : request.header? "accept-language" = other.header? "accept-language") :
    resolver.withoutCookie request = resolver.withoutCookie other := by
  simp only [withoutCookie, AcceptResolver.resolve, requestedLocales, header_eq]

theorem Settled.resolve_eq {resolver : CookieResolver} {request changed : Request}
    {response : Response} {locale : Option Locale}
    (settled : resolver.Settled request changed response locale) :
    resolver.resolve changed = locale.getD (resolver.withoutCookie request) := by
  have header_eq : changed.header? "accept-language" = request.header? "accept-language" := by
    rw [Request.header?, settled.headers, Request.header?]
  rw [resolve, settled.change]
  cases locale with
  | none => exact withoutCookie_congr header_eq
  | some locale => rfl

theorem lookup_eq_head?_filter (pairs : List (String × String)) (name : String) :
    pairs.lookup name = (pairs.filter fun pair => pair.1 == name).head?.map Prod.snd := by
  induction pairs with
  | nil => rfl
  | cons pair rest ih =>
      obtain ⟨first, value⟩ := pair
      by_cases same : first = name
      · simp [same]
      · have other : (name == first) = false := by simpa using Ne.symm same
        rw [List.lookup_cons, other, ih, List.filter_cons_of_neg (by simpa using same)]

/-- A later request that brings the kept text back has the locale that was set. -/
theorem Settled.resolve_later {resolver : CookieResolver} {request changed later : Request}
    {response : Response} {locale : Option Locale}
    (settled : resolver.Settled request changed response locale)
    (unchanged : later.context.get? Attribute.localeChange? Context.localeChangeKey = none)
    (header_eq : later.header? "accept-language" = request.header? "accept-language")
    (kept : later.cookie? resolver.name = locale.map Locale.render)
    (readable : ∀ set ∈ locale, Locale.parse set.render = .ok set) :
    resolver.resolve later = locale.getD (resolver.withoutCookie request) := by
  rw [resolve, unchanged, fromCookie?, kept]
  cases locale with
  | none => exact withoutCookie_congr header_eq
  | some locale =>
      simp only [Option.map_some, readable locale rfl]
      rfl

/-- A resolver with a valid name makes every change that can be kept, such as those to locales whose
variants are as language tags have them, and fails otherwise.  What the last change that was made
says is the locale of the request afterwards, and that of a later request that brings the one cookie
of the response back among others, or brings none if the locale was cleared.  A resolver with
another name makes no change. -/
theorem setAll_resolve (resolver : CookieResolver) (changes : List (Option Locale))
    (request : Request) (response : Response) :
    (∀ locale : Locale, locale.hasTagVariants = true →
      isKept (some locale) = true ∧ Locale.parse locale.render = .ok locale) ∧
    (Cookie.isName resolver.name = false →
      resolver.setAll changes request (some response) =
        (changes.map fun _ => .error (.cookie (.badName resolver.name)), request,
          some response)) ∧
    (Cookie.isName resolver.name = true → ∃ changed last,
      resolver.setAll changes request (some response) =
        (changes.map fun locale =>
          if isKept locale then .ok () else .error (.cookie (.badValue resolver.name)),
          changed, some last) ∧
      ((changes.filter isKept).getLast? = none → changed = request ∧ last = response) ∧
      ∀ locale, (changes.filter isKept).getLast? = some locale →
        resolver.resolve changed = locale.getD (resolver.withoutCookie request) ∧
        ∃ cookie, last.cookies.filter (fun other => other.name == resolver.name) = [cookie] ∧
          ∀ later pairs,
            later.context.get? Attribute.localeChange? Context.localeChangeKey = none →
            later.header? "accept-language" = request.header? "accept-language" →
            later.Sends pairs → (∀ pair ∈ pairs, Cookie.isPair pair = true) →
            pairs.filter (fun pair => pair.1 == resolver.name) =
              (locale.map fun _ => (cookie.name, cookie.value)).toList →
            (∀ set ∈ locale, Locale.parse set.render = .ok set) →
            resolver.resolve later = locale.getD (resolver.withoutCookie request)) := by
  refine ⟨fun locale variants => ⟨Locale.isValue_render variants, Locale.parse_render variants⟩,
    fun bad_name => setAll_of_badName bad_name changes request (some response), ?_⟩
  intro name_valid
  obtain ⟨changed, last, all_eq, settled⟩ := setAll_spec name_valid changes request response
  refine ⟨changed, last, all_eq, ?_, ?_⟩
  · intro none_kept
    rw [none_kept] at settled
    exact settled
  · intro locale last_kept
    rw [last_kept] at settled
    obtain ⟨cookie, name_eq, value_eq, cookies_eq⟩ := settled.cookie
    refine ⟨settled.resolve_eq, cookie, cookies_eq, ?_⟩
    intro later pairs unchanged header_eq sends valid own_eq readable
    refine settled.resolve_later unchanged header_eq ?_ readable
    rw [Request.cookie?_of_sends sends valid, lookup_eq_head?_filter, own_eq, value_eq]
    cases locale <;> rfl

/-- English with a variant that starts with a digit and holds a comma. -/
def englishWithComma : Locale :=
  ⟨['e', 'n'], none, none, [['1', ',', 'b', 'b']], by decide⟩

/-- A locale may be what its text is read as, and still its text may not stand as the value of a
cookie. -/
theorem not_forall_setAll_ok :
    ¬ ∀ (resolver : CookieResolver) (request : Request) (response : Response)
      (changes : List (Option Locale)), Cookie.isName resolver.name = true → changes ≠ [] →
        (∀ locale, some locale ∈ changes → Locale.parse locale.render = .ok locale) →
        ∀ result ∈ (resolver.setAll changes request (some response)).1, result = .ok () := by
  intro all_ok
  have readable : ∀ locale, some locale ∈ [some englishWithComma] →
      Locale.parse locale.render = .ok locale := by
    intro locale listed
    obtain rfl : locale = englishWithComma := by simpa using listed
    rw [Locale.parse, Locale.render, String.toList_ofList]
    decide
  have not_kept : isKept (some englishWithComma) = false := by
    rw [isKept, Cookie.isValue, Locale.render, String.toList_ofList]
    decide
  have name_valid : Cookie.isName ({} : CookieResolver).name = true := by decide
  have set_eq := set_of_not_isKept name_valid not_kept { method := .get, path := "/" } (some .ok)
  have ok := all_ok {} { method := .get, path := "/" } .ok [some englishWithComma] name_valid
    (List.cons_ne_nil _ _) readable (.error (.cookie (.badValue "LOCALE")))
    (by rw [setAll_cons set_eq rfl]; exact List.mem_cons_self)
  contradiction

end CookieResolver
end WebDispatch
