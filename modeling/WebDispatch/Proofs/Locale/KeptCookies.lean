import WebDispatch.Proofs.Http.SetCookieItems
import WebDispatch.Proofs.Locale.CookieLocale
import WebDispatch.Proofs.Text.Trimming

/-!
# Cookies that are kept and cookies that are deleted

The receiver of a `Set-Cookie` header keeps the cookie if it has a value and its age is missing or at
least one second, and deletes it if the age is zero.  A locale that is set and a locale that is
cleared make cookies of one name, path and domain, and that of a cleared locale is always deleted:
`CookieResolver.receive_addedHeader?`.  But the age in a header is in whole seconds, so a cookie that
is to be kept for less than one second is deleted as well.
-/

namespace WebDispatch

namespace Cookie

/-! ## Headers as they are received -/

/-- The name and the value of an item, without the blanks around them. -/
def itemPair (item : String) : String × String :=
  let (name, value) := Text.cutAt '=' item.toList
  (String.ofList (Text.trim Text.isBlank name), String.ofList (Text.trim Text.isBlank value))

/-- The value of an item that has a name, in any case. -/
def valueOf? (name item : String) : Option String :=
  if Text.sameIgnoringCase (itemPair item).1 name then some (itemPair item).2 else none

/-- The value of the last item that has a name. -/
def attribute? (name : String) (items : List String) : Option String :=
  (items.filterMap (valueOf? name)).getLast?

/-- A cookie as the receiver of a header takes it. -/
structure Received where
  /-- The name. -/
  name : String
  /-- The value. -/
  value : String
  /-- The path that the cookie is limited to. -/
  path : Option String
  /-- The domain that the cookie is limited to. -/
  domain : Option String
  /-- How many seconds the cookie is kept. -/
  maxAge : Option String

/-- The cookie of a header: its first item is the name and the value, and the others are
attributes. -/
def receive (header : String) : Received :=
  let pair := itemPair ((headerItems header).headD "")
  let attributes := (headerItems header).tail
  { name := pair.1
    value := pair.2
    path := attribute? "Path" attributes
    domain := attribute? "Domain" attributes
    maxAge := attribute? "Max-Age" attributes }

/-- Whether an age is a number of seconds above zero. -/
def IsPositiveAge (age : String) : Prop :=
  (∀ c ∈ age.toList, c.isDigit = true) ∧ 1 ≤ Nat.ofDigitChars 10 age.toList 0

namespace Received

/-- Whether a cookie has a value and is kept for a time. -/
def Lasts (received : Received) : Prop :=
  received.value ≠ "" ∧ ∀ age ∈ received.maxAge, IsPositiveAge age

/-- Whether a cookie has no value and is deleted at once. -/
def IsDeletion (received : Received) : Prop :=
  received.value = "" ∧ received.maxAge = some "0"

end Received

theorem isPositiveAge_toString_iff (n : Nat) : IsPositiveAge (toString n) ↔ 1 ≤ n := by
  have value_eq : Nat.ofDigitChars 10 (toString n).toList 0 = n := by
    rw [Nat.toString_eq_repr, Nat.toList_repr, Nat.ofDigitChars_ten_toDigits]
  rw [IsPositiveAge, value_eq]
  exact and_iff_right fun c listed => isDigit_of_mem_toString listed

/-! ## The items of a cookie -/

/-- An item with a label and a value is received as such. -/
theorem itemPair_trimmed {label : String} (unblank : ∀ c ∈ label.toList, Text.isBlank c = false)
    (outside : '=' ∉ label.toList) (value : String) :
    itemPair (Text.trimmed (label ++ "=" ++ value)) = (label, Text.trimmed value) := by
  have text_eq : (label ++ "=" ++ value).toList = label.toList ++ '=' :: value.toList := by simp
  have trimmed_eq : Text.trim Text.isBlank (label ++ "=" ++ value).toList =
      label.toList ++ '=' :: Text.trimEnd Text.isBlank value.toList := by
    rw [text_eq, Text.trim_append_cons unblank (by decide)]
  have label_eq : String.ofList (Text.trim Text.isBlank label.toList) = label := by
    rw [Text.trim_eq_self unblank, String.ofList_toList]
  simp only [itemPair, Text.trimmed, String.toList_ofList, trimmed_eq, Text.cutAt_append _ outside,
    label_eq, Text.trim_trimEnd]

/-- The name and the value are received as they are. -/
theorem itemPair_pairItem (cookie : Cookie) :
    itemPair (pairItem cookie) = (cookie.name, cookie.value) := by
  have name_unblank : ∀ c ∈ cookie.name.toList, Text.isBlank c = false :=
    fun c listed => isBlank_of_mem_name cookie.isName_name listed
  have value_unblank : ∀ c ∈ cookie.value.toList, Text.isBlank c = false :=
    fun c listed => isBlank_of_mem_value cookie.isValue_value listed
  have text_eq : (pairItem cookie).toList = cookie.name.toList ++ '=' :: cookie.value.toList := by
    simp [pairItem]
  have outside : '=' ∉ cookie.name.toList := notMem_name cookie.isName_name (by decide)
  simp only [itemPair, text_eq, Text.cutAt_append _ outside, Text.trim_eq_self name_unblank,
    Text.trim_eq_self value_unblank, String.ofList_toList]

theorem attribute?_append (name : String) (front back : List String) :
    attribute? name (front ++ back) = (attribute? name back).or (attribute? name front) := by
  rw [attribute?, List.filterMap_append, List.getLast?_append]
  rfl

theorem attribute?_eq_none {name : String} {items : List String}
    (unnamed : ∀ item ∈ items, valueOf? name item = none) : attribute? name items = none := by
  rw [attribute?, List.filterMap_eq_nil_iff.mpr unnamed]
  rfl

/-- The age that a cookie shows is received as it is. -/
theorem itemPair_maxAge (n : Nat) :
    itemPair (Text.trimmed ("Max-Age=" ++ toString n)) = ("Max-Age", toString n) := by
  have label_unblank : ∀ c ∈ "Max-Age".toList, Text.isBlank c = false := by simp [Text.isBlank]
  have digits_unblank : ∀ c ∈ (toString n).toList, Text.isBlank c = false :=
    fun c listed => Text.isBlank_of_isAsciiGraphic (isAsciiGraphic_of_mem_toString listed)
  have digits_eq : Text.trimmed (toString n) = toString n := by
    rw [Text.trimmed, Text.trim_eq_self digits_unblank, String.ofList_toList]
  have label_eq : "Max-Age=" = "Max-Age" ++ "=" := by decide
  rw [label_eq, itemPair_trimmed label_unblank (by decide), digits_eq]

theorem attribute?_singleton (name item : String) :
    attribute? name [item] = valueOf? name item := by
  cases value_eq : valueOf? name item <;> simp [attribute?, value_eq]

/-- The attributes behind the age. -/
def flagItems (cookie : Cookie) : List String :=
  (if cookie.secure then ["Secure"] else []) ++ (if cookie.httpOnly then ["HttpOnly"] else []) ++
    (cookie.sameSite.map fun policy => "SameSite=" ++ policy.name).toList

/-- The attributes behind the age have none of the names that are read. -/
theorem attribute?_flagItems (cookie : Cookie) {name : String}
    (listed : name ∈ ["Max-Age", "Path", "Domain"]) :
    attribute? name (cookie.flagItems.map Text.trimmed) = none := by
  have unnamed : ∀ name ∈ ["Max-Age", "Path", "Domain"], ∀ flag ∈ ["Secure", "HttpOnly",
      "SameSite=Strict", "SameSite=Lax", "SameSite=None"],
      valueOf? name (Text.trimmed flag) = none := by
    decide +kernel
  apply attribute?_eq_none
  intro item item_listed
  obtain ⟨flag, flag_listed, rfl⟩ := List.mem_map.mp item_listed
  apply unnamed name listed
  simp only [flagItems, List.mem_append, Option.mem_toList, Option.map_eq_some_iff] at flag_listed
  rcases flag_listed with (secure | httpOnly) | ⟨policy, -, rfl⟩
  · obtain rfl : flag = "Secure" := List.mem_singleton.mp (List.mem_ite_nil_right.mp secure).2
    decide
  · obtain rfl : flag = "HttpOnly" := List.mem_singleton.mp (List.mem_ite_nil_right.mp httpOnly).2
    decide
  · cases policy <;> decide

/-- The attributes other than the path and the domain show the age of a cookie, if it has one, and no
other of the names that are read. -/
theorem attribute?_plainItems (cookie : Cookie) {name : String}
    (listed : name ∈ ["Max-Age", "Path", "Domain"]) :
    attribute? name ((plainItems cookie []).map Text.trimmed) =
      if Text.sameIgnoringCase "Max-Age" name then
        cookie.maxAge.map fun span => toString span.seconds
      else none := by
  have items_eq : plainItems cookie [] =
      (cookie.maxAge.map fun span => "Max-Age=" ++ toString span.seconds).toList ++
        cookie.flagItems := by
    simp only [flagItems, ← List.append_assoc]
    rfl
  rw [items_eq, List.map_append, attribute?_append, attribute?_flagItems cookie listed,
    Option.none_or]
  cases cookie.maxAge with
  | none => split <;> rfl
  | some span =>
      simp only [Option.map_some, Option.toList_some, List.map_singleton, attribute?_singleton,
        valueOf?, itemPair_maxAge]

/-- The items that the receiver makes of a path and a domain. -/
def scopeItems (path domain : Option String) : List String :=
  (labelled "Path" path ++ labelled "Domain" domain).flatMap headerItems

/-- The name and the value are received as they are, the path and the domain as the last attributes
that theirs were cut into, and the age as it is if the cookie has one. -/
theorem receive_render (cookie : Cookie) :
    receive cookie.render =
      { name := cookie.name
        value := cookie.value
        path := attribute? "Path" (scopeItems cookie.path cookie.domain)
        domain := attribute? "Domain" (scopeItems cookie.path cookie.domain)
        maxAge := (cookie.maxAge.map fun span => toString span.seconds).or
          (attribute? "Max-Age" (scopeItems cookie.path cookie.domain)) } := by
  have attributes_eq : attributeItems cookie [] =
      (labelled "Path" cookie.path ++ labelled "Domain" cookie.domain) ++ plainItems cookie [] := by
    simp only [attributeItems, labelled_eq]
    rfl
  have plain_eq : (plainItems cookie []).flatMap headerItems =
      (plainItems cookie []).map Text.trimmed :=
    (flatMap_headerItems_eq_iff _).mpr fun _ listed => notMem_of_mem_plainItems cookie [] listed
  have seen : headerItems cookie.render = pairItem cookie ::
      (scopeItems cookie.path cookie.domain ++ (plainItems cookie []).map Text.trimmed) := by
    rw [scopeItems, ← plain_eq, ← List.flatMap_append, ← attributes_eq]
    exact headerItems_render cookie []
  have path_eq : attribute? "Path" ((plainItems cookie []).map Text.trimmed) = none :=
    attribute?_plainItems cookie (by decide)
  have domain_eq : attribute? "Domain" ((plainItems cookie []).map Text.trimmed) = none :=
    attribute?_plainItems cookie (by decide)
  have maxAge_eq : attribute? "Max-Age" ((plainItems cookie []).map Text.trimmed) =
      cookie.maxAge.map fun span => toString span.seconds :=
    attribute?_plainItems cookie (by decide)
  simp only [receive, seen, List.headD_cons, List.tail_cons, itemPair_pairItem, attribute?_append,
    maxAge_eq, path_eq, domain_eq, Option.none_or]

/-- An attribute without a semicolon is received as it was labelled. -/
theorem attribute?_labelled {label : String} (unblank : ∀ c ∈ label.toList, Text.isBlank c = false)
    (outside : '=' ∉ label.toList) (whole_label : ';' ∉ (label ++ "=").toList)
    {value : Option String} (whole : ∀ text ∈ value, ';' ∉ text.toList) (name : String) :
    attribute? name ((labelled label value).flatMap headerItems) =
      if Text.sameIgnoringCase label name then (value.filter isFieldValue).map Text.trimmed
      else none := by
  rw [labelled_eq]
  cases value_eq : value.filter isFieldValue with
  | none => split <;> rfl
  | some text =>
      have text_whole : ';' ∉ text.toList := whole text (Option.eq_some_of_filter_eq_some value_eq)
      have item_whole : ';' ∉ (label ++ "=" ++ text).toList := by
        rw [String.toList_append, List.mem_append, not_or]
        exact ⟨whole_label, text_whole⟩
      simp only [Option.map_some, Option.toList_some, List.flatMap_singleton,
        headerItems_of_notMem item_whole, attribute?_singleton, valueOf?,
        itemPair_trimmed unblank outside]

/-- A path and a domain without a semicolon are not received as an age. -/
theorem attribute?_maxAge_scopeItems {path domain : Option String}
    (path_whole : ∀ text ∈ path, ';' ∉ text.toList)
    (domain_whole : ∀ text ∈ domain, ';' ∉ text.toList) :
    attribute? "Max-Age" (scopeItems path domain) = none := by
  have path_none : attribute? "Max-Age" ((labelled "Path" path).flatMap headerItems) = none :=
    attribute?_labelled (by simp [Text.isBlank]) (by decide) (by decide) path_whole "Max-Age"
  have domain_none : attribute? "Max-Age" ((labelled "Domain" domain).flatMap headerItems) = none :=
    attribute?_labelled (by simp [Text.isBlank]) (by decide) (by decide) domain_whole "Max-Age"
  rw [scopeItems, List.flatMap_append, attribute?_append, path_none, domain_none]
  rfl

end Cookie

theorem Locale.render_ne_empty (locale : Locale) : locale.render ≠ "" := by
  intro empty
  have text_eq := congrArg String.toList empty
  rw [render, String.toList_ofList, toSubtags, List.cons_append, List.cons_append,
    Text.intercalate_cons, String.toList_empty, List.append_eq_nil_iff] at text_eq
  have language_valid := locale.languageText_spec.1
  rw [text_eq.1] at language_valid
  contradiction

namespace CookieResolver

/-! ## Locales that are set and cleared -/

/-- The line that a change of the locale adds to the `Set-Cookie` headers of a response, if the
change can be made. -/
def addedHeader? (resolver : CookieResolver) (request : Request) (response : Response)
    (locale : Option Locale) : Option String :=
  match resolver.set request (some response) locale with
  | (.ok _, _, some changed) => changed.setCookieHeaders.getLast?
  | _ => none

/-- The items that the receiver makes of the path and the domain of a resolver. -/
def scopeItems (resolver : CookieResolver) : List String :=
  Cookie.scopeItems (some resolver.path) resolver.domain

theorem addedHeader?_eq (resolver : CookieResolver) (request : Request) (response : Response)
    (locale : Option Locale) : resolver.addedHeader? request response locale =
      (resolver.cookieFor locale).toOption.map Cookie.render := by
  cases cookie_eq : resolver.cookieFor locale with
  | error failure =>
      simp only [addedHeader?, set, cookie_eq]
      rfl
  | ok cookie =>
      simp only [addedHeader?, set, cookie_eq]
      simp [Response.setCookieHeaders, Response.addCookie, Except.toOption]

/-- How long the cookie for a change of the locale is to be kept. -/
def ageFor (resolver : CookieResolver) : Option Locale → Option Span
  | some _ => resolver.maxAge
  | none => some ⟨0⟩

section ValidName

variable {resolver : CookieResolver} (name_valid : Cookie.isName resolver.name = true)

include name_valid

/-- The cookies for all changes have the name, the path and the domain of the resolver. -/
theorem exists_cookieFor {locale : Option Locale} (kept : isKept locale = true) :
    ∃ cookie, resolver.cookieFor locale = .ok cookie ∧ cookie.name = resolver.name ∧
      cookie.value = keptValue locale ∧ cookie.path = some resolver.path ∧
      cookie.domain = resolver.domain ∧ cookie.maxAge = resolver.ageFor locale := by
  have domain_eq : (resolver.domain <|> none) = resolver.domain := by
    cases resolver.domain <;> rfl
  cases locale with
  | none =>
      have valid : Cookie.isValue "" = true := by decide
      rw [cookieFor, Cookie.expired, Cookie.make_of_valid name_valid valid]
      exact ⟨_, rfl, rfl, rfl, rfl, domain_eq, rfl⟩
  | some locale =>
      rw [isKept] at kept
      rw [cookieFor, Cookie.make_of_valid name_valid kept]
      exact ⟨_, rfl, rfl, rfl, rfl, domain_eq, rfl⟩

variable (request : Request) (response : Response)

theorem exists_addedHeader? {locale : Option Locale} (kept : isKept locale = true) :
    ∃ header, resolver.addedHeader? request response locale = some header ∧
      Cookie.receive header =
        { name := resolver.name
          value := keptValue locale
          path := Cookie.attribute? "Path" resolver.scopeItems
          domain := Cookie.attribute? "Domain" resolver.scopeItems
          maxAge := ((resolver.ageFor locale).map fun span => toString span.seconds).or
            (Cookie.attribute? "Max-Age" resolver.scopeItems) } := by
  obtain ⟨cookie, cookie_eq, name_eq, value_eq, path_eq, domain_eq, maxAge_eq⟩ :=
    exists_cookieFor name_valid kept
  refine ⟨cookie.render, by rw [addedHeader?_eq, cookie_eq]; rfl, ?_⟩
  rw [Cookie.receive_render, name_eq, value_eq, path_eq, domain_eq, maxAge_eq, scopeItems]

/-- A line is added exactly for the changes that can be made. -/
theorem addedHeader?_eq_none_iff (locale : Option Locale) :
    resolver.addedHeader? request response locale = none ↔ isKept locale = false := by
  cases kept : isKept locale with
  | false =>
      have none_added : resolver.addedHeader? request response locale = none := by
        rw [addedHeader?, set_of_not_isKept name_valid kept]
      simp [none_added]
  | true =>
      obtain ⟨header, header_eq, -⟩ := exists_addedHeader? name_valid request response kept
      simp [header_eq]

/-- A resolver with a valid name always adds a line for a cleared locale, and the receiver of that
line deletes the cookie.  It adds a line for a locale exactly if the text of the locale may stand in
a cookie, and the receiver of that line takes a cookie of the same name, path and domain, with that
text.  The cookie lasts exactly if its age is at least one second, and also if no age was given and
neither the path nor the domain has a semicolon. -/
theorem receive_addedHeader? (locale : Locale) :
    ∃ forgetting, resolver.addedHeader? request response none = some forgetting ∧
      (Cookie.receive forgetting).IsDeletion ∧
      (Cookie.receive forgetting).name = resolver.name ∧
      (resolver.addedHeader? request response (some locale) = none ↔
        Cookie.isValue locale.render = false) ∧
      ∀ keeping, resolver.addedHeader? request response (some locale) = some keeping →
        Cookie.receive keeping = { Cookie.receive forgetting with
          value := locale.render
          maxAge := (resolver.maxAge.map fun span => toString span.seconds).or
            (Cookie.attribute? "Max-Age" resolver.scopeItems) } ∧
        (Cookie.receive keeping).value ≠ "" ∧
        (∀ span, resolver.maxAge = some span →
          ((Cookie.receive keeping).Lasts ↔ 1 ≤ span.seconds)) ∧
        (resolver.maxAge = none → ';' ∉ resolver.path.toList →
          (∀ domain ∈ resolver.domain, ';' ∉ domain.toList) →
          (Cookie.receive keeping).maxAge = none ∧ (Cookie.receive keeping).Lasts) := by
  obtain ⟨forgetting, forgetting_eq, forgotten⟩ :=
    exists_addedHeader? name_valid request response (show isKept none = true from rfl)
  refine ⟨forgetting, forgetting_eq, ?_, by rw [forgotten],
    addedHeader?_eq_none_iff name_valid request response (some locale), ?_⟩
  · rw [forgotten]
    exact ⟨rfl, rfl⟩
  · intro keeping keeping_eq
    have kept : isKept (some locale) = true := by
      rw [← Bool.not_eq_false, ← addedHeader?_eq_none_iff name_valid request response, keeping_eq]
      exact Option.some_ne_none keeping
    obtain ⟨header, header_eq, received⟩ := exists_addedHeader? name_valid request response kept
    obtain rfl : header = keeping := Option.some.inj (header_eq.symm.trans keeping_eq)
    have nonempty : (Cookie.receive header).value ≠ "" := by
      rw [received]
      exact locale.render_ne_empty
    refine ⟨by rw [received, forgotten]; rfl, nonempty, ?_, ?_⟩
    · intro span maxAge_eq
      have shown : (Cookie.receive header).maxAge = some (toString span.seconds) := by
        rw [received, ageFor, maxAge_eq]
        rfl
      rw [Cookie.Received.Lasts, shown, ← Cookie.isPositiveAge_toString_iff]
      simp [nonempty]
    · intro maxAge_eq path_whole domain_whole
      have shown : (Cookie.receive header).maxAge = none := by
        rw [received, ageFor, maxAge_eq]
        exact Cookie.attribute?_maxAge_scopeItems (by simpa using path_whole) domain_whole
      exact ⟨shown, nonempty, by simp [shown]⟩

end ValidName

/-- A resolver whose cookies are kept for a span of time. -/
def keepingFor (span : Span) : CookieResolver where
  path := "/app"
  domain := some "example.com"
  maxAge := some span

/-- A request for the start of a site. -/
def startRequest : Request := { method := .get, path := "/" }

/-- English is kept for an hour, and deleted when it is cleared. -/
theorem receive_addedHeader?_hour :
    ∃ keeping forgetting,
      (keepingFor (.ofSeconds 3600)).addedHeader? startRequest .ok (some .fallback) =
        some keeping ∧
      (keepingFor (.ofSeconds 3600)).addedHeader? startRequest .ok none = some forgetting ∧
      (Cookie.receive keeping).Lasts ∧ (Cookie.receive forgetting).IsDeletion := by
  have name_valid : Cookie.isName (keepingFor (.ofSeconds 3600)).name = true := by decide
  have value_valid : Cookie.isValue Locale.fallback.render = true := by
    rw [Cookie.isValue, Locale.render, String.toList_ofList]
    decide
  obtain ⟨forgetting, forgetting_eq, deleted, -, added_iff, kept⟩ :=
    receive_addedHeader? name_valid startRequest .ok .fallback
  obtain ⟨keeping, keeping_eq⟩ := Option.ne_none_iff_exists'.mp fun none_added => by
    simp [added_iff.mp none_added] at value_valid
  obtain ⟨-, -, lasts_iff, -⟩ := kept keeping keeping_eq
  exact ⟨keeping, forgetting, keeping_eq, forgetting_eq,
    (lasts_iff _ rfl).mpr (by decide), deleted⟩

/-- A cookie that is to be kept for half a second is deleted. -/
theorem not_forall_lasts :
    ¬ ∀ (resolver : CookieResolver) (request : Request) (response : Response) (locale : Locale)
      (keeping : String), Cookie.isName resolver.name = true →
        (∀ span ∈ resolver.maxAge, span.nanoseconds ≠ 0) →
        resolver.addedHeader? request response (some locale) = some keeping →
        (Cookie.receive keeping).Lasts := by
  intro all_last
  have name_valid : Cookie.isName (keepingFor (.ofMilliseconds 500)).name = true := by decide
  have kept : isKept (some .fallback) = true := by
    rw [isKept, Cookie.isValue, Locale.render, String.toList_ofList]
    decide
  obtain ⟨keeping, keeping_eq, received⟩ := exists_addedHeader? name_valid startRequest .ok kept
  have nonzero : ∀ span ∈ (keepingFor (.ofMilliseconds 500)).maxAge, span.nanoseconds ≠ 0 := by
    simp [keepingFor, Span.ofMilliseconds]
  have lasts := all_last _ _ _ _ keeping name_valid nonzero keeping_eq
  have shown : (Cookie.receive keeping).maxAge = some (toString 0) := by
    rw [received]
    rfl
  have positive := lasts.2 _ shown
  rw [Cookie.isPositiveAge_toString_iff] at positive
  contradiction

end CookieResolver
end WebDispatch
