import WebDispatch.Proofs.Http.CookieHeader
import WebDispatch.Proofs.Http.FieldValues

/-!
# The items of a `Set-Cookie` header

A receiver cuts the header at semicolons and takes each piece for an attribute.  The name and the
value of a cookie hold no semicolon, and neither do most attributes, but a path or a domain is only
kept from holding control characters.  So a path or a domain with a semicolon is read as several
attributes, and all cookies without such a path or domain are read as they were set:
`Cookie.headerItems_setAll`.
-/

namespace WebDispatch

/-! ## Cookies that are set step by step -/

/-- One thing that is set for a cookie. -/
inductive CookieSetting where
  /-- Limit it to a path. -/
  | path (path : String)
  /-- Limit it to a domain. -/
  | domain (domain : String)
  /-- Have it kept for a span of time. -/
  | maxAge (span : Span)
  /-- Have it sent over secure connections only, or not. -/
  | secure (secure : Bool)
  /-- Hide it from scripts, or not. -/
  | httpOnly (httpOnly : Bool)
  /-- Say how it is sent along with requests from other sites. -/
  | sameSite (policy : SameSite)
  deriving DecidableEq

namespace CookieSetting

/-- The path that is set. -/
def path? : CookieSetting → Option String
  | path value => some value
  | _ => none

/-- The domain that is set. -/
def domain? : CookieSetting → Option String
  | domain value => some value
  | _ => none

/-- The span of time that is set. -/
def maxAge? : CookieSetting → Option Span
  | maxAge value => some value
  | _ => none

/-- Whether secure connections are required, if that is set. -/
def secure? : CookieSetting → Option Bool
  | secure value => some value
  | _ => none

/-- Whether scripts are kept out, if that is set. -/
def httpOnly? : CookieSetting → Option Bool
  | httpOnly value => some value
  | _ => none

/-- The policy that is set. -/
def sameSite? : CookieSetting → Option SameSite
  | sameSite value => some value
  | _ => none

/-- The last of some settings of one kind. -/
def last? {α : Type} (kind : CookieSetting → Option α) (settings : List CookieSetting) : Option α :=
  settings.reverse.findSome? kind

theorem last?_cons {α : Type} (kind : CookieSetting → Option α) (setting : CookieSetting)
    (rest : List CookieSetting) :
    last? kind (setting :: rest) = (last? kind rest).or (kind setting) := by
  simp [last?, List.findSome?_append]

end CookieSetting

open CookieSetting (last? path? domain? maxAge? secure? httpOnly? sameSite?)

namespace Cookie

/-- Set one thing. -/
def set (cookie : Cookie) : CookieSetting → Cookie
  | .path path => cookie.withPath path
  | .domain domain => cookie.withDomain domain
  | .maxAge span => cookie.withMaxAge span
  | .secure secure => cookie.withSecure secure
  | .httpOnly httpOnly => cookie.withHttpOnly httpOnly
  | .sameSite policy => cookie.withSameSite policy

/-- Set one thing after the other. -/
def setAll (cookie : Cookie) (settings : List CookieSetting) : Cookie := settings.foldl set cookie

/-- A field that is set by the settings of one kind holds what the last of them says. -/
theorem setAll_field {α : Type} {field : Cookie → α} {kind : CookieSetting → Option α}
    (field_set : ∀ cookie setting, field (set cookie setting) =
      (kind setting).getD (field cookie))
    (start : Cookie) (settings : List CookieSetting) :
    field (start.setAll settings) = (last? kind settings).getD (field start) := by
  induction settings generalizing start with
  | nil => rfl
  | cons setting rest ih =>
      have later : field ((start.set setting).setAll rest) = _ := ih (start.set setting)
      rw [field_set] at later
      rw [CookieSetting.last?_cons]
      cases rest_eq : last? kind rest with
      | none =>
          rw [rest_eq] at later
          exact later
      | some value =>
          rw [rest_eq] at later
          exact later

/-- A field that may be missing is there once it is set. -/
theorem setAll_option {α : Type} {field : Cookie → Option α} {kind : CookieSetting → Option α}
    (field_set : ∀ cookie setting, field (set cookie setting) =
      (kind setting).or (field cookie))
    (start : Cookie) (settings : List CookieSetting) :
    field (start.setAll settings) = (last? kind settings).or (field start) := by
  have or_eq (new old : Option α) : new.or old = (new.map some).getD old := by
    cases new <;> rfl
  rw [or_eq, last?, List.map_findSome?]
  exact setAll_field (fun cookie setting => (field_set cookie setting).trans (or_eq _ _)) start
    settings

theorem pair_setAll (start : Cookie) (settings : List CookieSetting) :
    (start.setAll settings).name = start.name ∧ (start.setAll settings).value = start.value := by
  induction settings generalizing start with
  | nil => exact ⟨rfl, rfl⟩
  | cons setting rest ih =>
      have kept : (start.set setting).name = start.name ∧
          (start.set setting).value = start.value := by
        cases setting <;> exact ⟨rfl, rfl⟩
      have later := ih (start.set setting)
      rw [kept.1, kept.2] at later
      exact later

variable (start : Cookie) (settings : List CookieSetting)

/-- The path that is shown: the one that was set last, unless it holds control characters. -/
def shownPath? : Option String :=
  ((last? path? settings).or start.path).filter isFieldValue

/-- The domain that is shown: the one that was set last, unless it holds control characters. -/
def shownDomain? : Option String :=
  ((last? domain? settings).or start.domain).filter isFieldValue

/-- The item with the name and the value. -/
def pairItem : String := start.name ++ "=" ++ start.value

/-- The attributes that a cookie has after some settings other than the path and the domain. -/
def plainItems : List String :=
  (((last? maxAge? settings).or start.maxAge).map fun span =>
      "Max-Age=" ++ toString span.seconds).toList ++
    (if (last? secure? settings).getD start.secure then ["Secure"] else []) ++
    (if (last? httpOnly? settings).getD start.httpOnly then ["HttpOnly"] else []) ++
    (((last? sameSite? settings).or start.sameSite).map fun policy =>
      "SameSite=" ++ policy.name).toList

/-- The attributes that a cookie has after some settings, in the order of a header. -/
def attributeItems : List String :=
  ((shownPath? start settings).map ("Path=" ++ ·)).toList ++
    ((shownDomain? start settings).map ("Domain=" ++ ·)).toList ++
    plainItems start settings

theorem labelled_eq (label : String) (value : Option String) :
    labelled label value = ((value.filter isFieldValue).map (label ++ "=" ++ ·)).toList := by
  cases value with
  | none => rfl
  | some value =>
      by_cases valid : isFieldValue value = true <;> simp [labelled, valid, Option.filter]

/-- The items of a cookie are its name and value and the attributes that were set last. -/
theorem items_setAll :
    (start.setAll settings).items = pairItem start :: attributeItems start settings := by
  obtain ⟨name_eq, value_eq⟩ := pair_setAll start settings
  have path_eq : (start.setAll settings).path = (last? path? settings).or start.path :=
    setAll_option (by rintro _ ⟨⟩ <;> rfl) start settings
  have domain_eq : (start.setAll settings).domain = (last? domain? settings).or start.domain :=
    setAll_option (by rintro _ ⟨⟩ <;> rfl) start settings
  have maxAge_eq : (start.setAll settings).maxAge = (last? maxAge? settings).or start.maxAge :=
    setAll_option (by rintro _ ⟨⟩ <;> rfl) start settings
  have sameSite_eq : (start.setAll settings).sameSite =
      (last? sameSite? settings).or start.sameSite :=
    setAll_option (by rintro _ ⟨⟩ <;> rfl) start settings
  have secure_eq : (start.setAll settings).secure =
      (last? secure? settings).getD start.secure :=
    setAll_field (by rintro _ ⟨⟩ <;> rfl) start settings
  have httpOnly_eq : (start.setAll settings).httpOnly =
      (last? httpOnly? settings).getD start.httpOnly :=
    setAll_field (by rintro _ ⟨⟩ <;> rfl) start settings
  simp only [items, labelled_eq, name_eq, value_eq, path_eq, domain_eq, maxAge_eq, sameSite_eq,
    secure_eq, httpOnly_eq, attributeItems, plainItems, List.append_assoc]
  rfl

/-! ## Headers that are cut into items -/

/-- The pieces of a header between semicolons, without the blanks around them. -/
def cutItems (header : List Char) : List String :=
  (header.splitOn ';').map fun piece => String.ofList (Text.trim Text.isBlank piece)

/-- The items of a header as its receiver sees them. -/
def headerItems (header : String) : List String := cutItems header.toList

theorem cutItems_append (front back : List Char) :
    cutItems (front ++ ';' :: back) = cutItems front ++ cutItems back := by
  rw [cutItems, List.splitOn_append_cons_self, List.map_append]
  rfl

/-- A blank in front of a header does not count. -/
theorem cutItems_blank (header : List Char) : cutItems (' ' :: header) = cutItems header := by
  have blank_inside : (' ' == ';') = false := by decide
  have blank : Text.isBlank ' ' = true := by decide
  obtain ⟨first, rest, split_eq⟩ := List.exists_cons_of_ne_nil (List.splitOn_ne_nil ';' header)
  rw [cutItems, List.splitOn_cons_eq_if_modifyHead, blank_inside, if_neg Bool.false_ne_true,
    split_eq, List.modifyHead_cons, List.map_cons, Text.trim_cons blank, cutItems, split_eq,
    List.map_cons]

/-- A header that is put together is cut into what its parts are cut into. -/
theorem headerItems_intercalate {items : List String} (nonempty : items ≠ []) :
    headerItems ("; ".intercalate items) = items.flatMap headerItems := by
  rw [headerItems, String.toList_intercalate]
  induction items with
  | nil => contradiction
  | cons first rest ih =>
      cases rest with
      | nil => simp [headerItems]
      | cons next rest =>
          have later := ih (List.cons_ne_nil _ _)
          have separator_eq : "; ".toList = [';', ' '] := by decide
          rw [List.map_cons] at later
          rw [List.map_cons, List.map_cons, List.intercalate_cons_cons, List.flatMap_cons, ← later,
            separator_eq, List.append_assoc, List.cons_append, List.singleton_append,
            cutItems_append, cutItems_blank]
          rfl

theorem headerItems_of_notMem {item : String} (outside : ';' ∉ item.toList) :
    headerItems item = [Text.trimmed item] := by
  rw [headerItems, cutItems, List.splitOn_eq_singleton outside]
  rfl

theorem cutItems_ne_nil (header : List Char) : cutItems header ≠ [] := by
  simp [cutItems, List.splitOn_ne_nil]

/-- An item is cut in two at a semicolon. -/
theorem notMem_of_length_headerItems {item : String} (single : (headerItems item).length = 1) :
    ';' ∉ item.toList := by
  intro inside
  obtain ⟨front, back, item_eq⟩ := List.append_of_mem inside
  have front_length := List.length_pos_of_ne_nil (cutItems_ne_nil front)
  have back_length := List.length_pos_of_ne_nil (cutItems_ne_nil back)
  rw [headerItems, item_eq, cutItems_append, List.length_append] at single
  omega

theorem length_le_length_flatMap_headerItems (items : List String) :
    items.length ≤ (items.flatMap headerItems).length := by
  induction items with
  | nil => exact Nat.le_refl 0
  | cons item rest ih =>
      have item_length := List.length_pos_of_ne_nil (cutItems_ne_nil item.toList)
      rw [List.flatMap_cons, List.length_append, List.length_cons, headerItems]
      omega

/-- Items are seen as they are exactly if none of them has a semicolon. -/
theorem flatMap_headerItems_eq_iff (items : List String) :
    items.flatMap headerItems = items.map Text.trimmed ↔ ∀ item ∈ items, ';' ∉ item.toList := by
  induction items with
  | nil => simp
  | cons item rest ih =>
      rw [List.flatMap_cons, List.map_cons, List.forall_mem_cons, ← ih]
      constructor
      · intro seen
        have outside : ';' ∉ item.toList := by
          have lengths := congrArg List.length seen
          have item_length := List.length_pos_of_ne_nil (cutItems_ne_nil item.toList)
          have rest_length := length_le_length_flatMap_headerItems rest
          rw [List.length_append, List.length_cons, List.length_map, headerItems] at lengths
          exact notMem_of_length_headerItems (by rw [headerItems]; omega)
        rw [headerItems_of_notMem outside] at seen
        exact ⟨outside, (List.cons.inj seen).2⟩
      · rintro ⟨outside, rest_seen⟩
        rw [headerItems_of_notMem outside, rest_seen, List.singleton_append]

/-! ## Cookies that are received -/

theorem headerItems_pairItem : headerItems (pairItem start) = [pairItem start] := by
  have text_eq : (pairItem start).toList = sentItem (start.name, start.value) := by
    simp [pairItem, sentItem]
  have outside : ';' ∉ (pairItem start).toList := by
    rw [text_eq]
    exact notMem_sentItem (by rw [isPair, start.isName_name, start.isValue_value]; rfl)
  have unblank : ∀ c ∈ (pairItem start).toList, Text.isBlank c = false := by
    intro c listed
    rw [text_eq, sentItem, List.mem_append, List.mem_cons] at listed
    rcases listed with in_name | rfl | in_value
    · exact isBlank_of_mem_name start.isName_name in_name
    · decide
    · exact isBlank_of_mem_value start.isValue_value in_value
  rw [headerItems_of_notMem outside, Text.trimmed, Text.trim_eq_self unblank,
    String.ofList_toList]

theorem forall_labelled_iff {label : String} (outside : ';' ∉ label.toList)
    (text : Option String) :
    (∀ item ∈ (text.map (label ++ ·)).toList, ';' ∉ item.toList) ↔
      ∀ shown ∈ text, ';' ∉ shown.toList := by
  cases text <;> simp [outside]

theorem notMem_of_mem_plainItems {item : String} (listed : item ∈ plainItems start settings) :
    ';' ∉ item.toList := by
  simp only [plainItems, List.mem_append, Option.mem_toList, Option.map_eq_some_iff] at listed
  rcases listed with ((maxAge | secure) | httpOnly) | sameSite
  · obtain ⟨span, -, rfl⟩ := maxAge
    have digits : ';' ∉ (toString span.seconds).toList := fun inside => by
      simpa using isDigit_of_mem_toString inside
    have label : ';' ∉ "Max-Age=".toList := by decide
    rw [String.toList_append, List.mem_append, not_or]
    exact ⟨label, digits⟩
  · obtain rfl : item = "Secure" :=
      List.mem_singleton.mp (List.mem_ite_nil_right.mp secure).2
    decide
  · obtain rfl : item = "HttpOnly" :=
      List.mem_singleton.mp (List.mem_ite_nil_right.mp httpOnly).2
    decide
  · obtain ⟨policy, -, rfl⟩ := sameSite
    cases policy <;> decide

/-- Of the attributes only the path and the domain may have a semicolon. -/
theorem forall_attributeItems_iff :
    (∀ item ∈ attributeItems start settings, ';' ∉ item.toList) ↔
      (∀ path ∈ shownPath? start settings, ';' ∉ path.toList) ∧
        ∀ domain ∈ shownDomain? start settings, ';' ∉ domain.toList := by
  rw [attributeItems, List.forall_mem_append, List.forall_mem_append,
    forall_labelled_iff (by decide : ';' ∉ "Path=".toList),
    forall_labelled_iff (by decide : ';' ∉ "Domain=".toList)]
  exact and_iff_left fun item listed => notMem_of_mem_plainItems start settings listed

/-- The receiver sees the name and the value, and what each attribute is cut into. -/
theorem headerItems_render : headerItems (start.setAll settings).render =
    pairItem start :: (attributeItems start settings).flatMap headerItems := by
  rw [render, items_setAll, headerItems_intercalate (List.cons_ne_nil _ _), List.flatMap_cons,
    headerItems_pairItem, List.singleton_append]

/-- A cookie whose name and value were checked, after any settings.  Its receiver sees the name and
the value, and behind them what each of the attributes is cut into.  These are the attributes
exactly if neither the path nor the domain that is shown has a semicolon. -/
theorem headerItems_setAll :
    headerItems (start.setAll settings).render =
        pairItem start :: (attributeItems start settings).flatMap headerItems ∧
      (headerItems (start.setAll settings).render =
          pairItem start :: (attributeItems start settings).map Text.trimmed ↔
        (∀ path ∈ shownPath? start settings, ';' ∉ path.toList) ∧
          ∀ domain ∈ shownDomain? start settings, ';' ∉ domain.toList) := by
  have seen := headerItems_render start settings
  refine ⟨seen, ?_⟩
  rw [seen, List.cons.injEq, flatMap_headerItems_eq_iff, forall_attributeItems_iff]
  exact and_iff_right rfl

/-- A path can make a receiver see a domain that was not set. -/
theorem not_forall_headerItems_setAll :
    ¬ ∀ (name value : String) (start : Cookie), make name value = .ok start →
      ∀ settings : List CookieSetting, headerItems (start.setAll settings).render =
        pairItem start :: (attributeItems start settings).map Text.trimmed := by
  intro faithful
  have seen := faithful "A" "B" _ (make_of_valid (by decide +kernel) (by decide +kernel))
    [.path "/; Domain=evil"]
  exact absurd seen (by decide +kernel)

end Cookie
end WebDispatch
