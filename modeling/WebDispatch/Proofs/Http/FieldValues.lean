import Mathlib.Data.List.Induction
import WebDispatch.Dispatch.Outcome

/-!
# What responses may hold

A text with a line break in a header would start a header of its own.  A response that was made by
the operations on responses holds none, whatever texts the operations were given: header values are
checked before they are set, and a cookie shows its path and its domain only if they could stand in
a header, while its name and value were checked when it was made.

The steps that answer a request with two responses, a view or a failure are such operations too:
`Response.Written.replacing`, `Response.Written.render`, `Response.written_ofFailure`.
-/

namespace WebDispatch

/-! ## Texts without control characters -/

/-- None of the control characters is in a text: neither those before the space, such as the ends of
lines, nor those from U+007F to U+009F. -/
def Text.ControlFree (text : String) : Prop :=
  ∀ c ∈ text.toList, 0x20 ≤ c.toNat ∧ (0x7F ≤ c.toNat → 0x9F < c.toNat)

theorem isFieldValue_iff {value : String} : isFieldValue value = true ↔ Text.ControlFree value := by
  simp [isFieldValue, Text.ControlFree, Text.isControl]

@[simp]
theorem isFieldValue_append (front back : String) :
    isFieldValue (front ++ back) = (isFieldValue front && isFieldValue back) := by
  simp [isFieldValue]

theorem isFieldValue_intercalate {separator : String} (separator_valid : isFieldValue separator)
    {items : List String} (items_valid : ∀ item ∈ items, isFieldValue item) :
    isFieldValue (separator.intercalate items) := by
  rw [isFieldValue_iff] at separator_valid ⊢
  intro c listed
  rw [String.toList_intercalate] at listed
  induction items with
  | nil => simp at listed
  | cons first rest ih =>
      obtain ⟨first_valid, rest_valid⟩ := List.forall_mem_cons.mp items_valid
      rw [isFieldValue_iff] at first_valid
      cases rest with
      | nil => exact first_valid c (by simpa using listed)
      | cons second rest =>
          rw [List.map_cons, List.map_cons, List.intercalate_cons_cons, List.mem_append,
            List.mem_append] at listed
          rcases listed with (in_first | in_separator) | in_rest
          · exact first_valid c in_first
          · exact separator_valid c in_separator
          · exact ih rest_valid in_rest

theorem isFieldValue_of_isAsciiGraphic {value : String}
    (graphic : ∀ c ∈ value.toList, Text.isAsciiGraphic c = true) : isFieldValue value := by
  rw [isFieldValue_iff]
  intro c listed
  have c_graphic := graphic c listed
  simp only [Text.isAsciiGraphic, Bool.and_eq_true, decide_eq_true_eq] at c_graphic
  omega

theorem isDigit_of_mem_toString {n : Nat} {c : Char} (listed : c ∈ (toString n).toList) :
    c.isDigit = true := by
  rw [Nat.toString_eq_repr, Nat.toList_repr] at listed
  exact Nat.isDigit_of_mem_toDigits (by decide) (by decide) listed

theorem isAsciiGraphic_of_mem_toString {n : Nat} {c : Char} (listed : c ∈ (toString n).toList) :
    Text.isAsciiGraphic c = true := by
  have digit_range : 48 ≤ c.toNat ∧ c.toNat ≤ 57 :=
    Char.isDigit_iff_toNat.mp (isDigit_of_mem_toString listed)
  simp only [Text.isAsciiGraphic, Bool.and_eq_true, decide_eq_true_eq]
  omega

theorem isFieldValue_toString (n : Nat) : isFieldValue (toString n) :=
  isFieldValue_of_isAsciiGraphic fun _ listed => isAsciiGraphic_of_mem_toString listed

/-! ## Cookies -/

namespace Cookie

theorem isFieldValue_of_isName {name : String} (valid : isName name = true) :
    isFieldValue name := by
  apply isFieldValue_of_isAsciiGraphic
  intro c listed
  simp only [isName, Bool.and_eq_true, List.all_eq_true, isNameChar] at valid
  exact (valid.2 c listed).1

theorem isFieldValue_of_isValue {value : String} (valid : isValue value = true) :
    isFieldValue value := by
  apply isFieldValue_of_isAsciiGraphic
  intro c listed
  simp only [isValue, List.all_eq_true, isValueChar, Bool.and_eq_true] at valid
  exact (valid c listed).1

/-- An attribute whose value cannot stand in a header is left out. -/
theorem isFieldValue_of_mem_labelled {label : String} (label_valid : isFieldValue label)
    {value : Option String} {item : String} (listed : item ∈ labelled label value) :
    isFieldValue item := by
  cases value with
  | none => simp [labelled] at listed
  | some value =>
      by_cases value_valid : isFieldValue value = true
      · have equals_valid : isFieldValue "=" = true := by decide
        obtain rfl : item = label ++ "=" ++ value := by
          simpa [labelled, value_valid] using listed
        simp [label_valid, equals_valid, value_valid]
      · simp [labelled, value_valid] at listed

theorem isFieldValue_of_mem_items {cookie : Cookie} {item : String}
    (listed : item ∈ cookie.items) : isFieldValue item := by
  simp only [items, List.mem_append, Option.mem_toList, Option.map_eq_some_iff,
    List.mem_singleton] at listed
  rcases listed with
    (((((pair | path) | domain) | maxAge) | secure) | httpOnly) | sameSite
  · have name_valid := isFieldValue_of_isName cookie.isName_name
    have value_valid := isFieldValue_of_isValue cookie.isValue_value
    have equals_valid : isFieldValue "=" = true := by decide
    simp [pair, name_valid, equals_valid, value_valid]
  · exact isFieldValue_of_mem_labelled (by decide) path
  · exact isFieldValue_of_mem_labelled (by decide) domain
  · obtain ⟨age, -, rfl⟩ := maxAge
    have label_valid : isFieldValue "Max-Age=" = true := by decide
    rw [isFieldValue_append, label_valid, isFieldValue_toString]
    rfl
  · obtain rfl : item = "Secure" := by
      cases shown : cookie.secure <;> simp_all
    decide
  · obtain rfl : item = "HttpOnly" := by
      cases shown : cookie.httpOnly <;> simp_all
    decide
  · obtain ⟨policy, -, rfl⟩ := sameSite
    cases policy <;> decide

/-- The line that a cookie is sent in can stand in a header, whatever path and domain it has. -/
theorem isFieldValue_render (cookie : Cookie) : isFieldValue cookie.render :=
  isFieldValue_intercalate (by decide) fun _ listed => isFieldValue_of_mem_items listed

end Cookie

namespace Response

/-! ## Responses that were made by operations -/

/-- A response that is made by the operations on responses, from a new one. -/
inductive Written : Response → Prop where
  /-- A new response. -/
  | new (status : Nat) : Written { status }
  /-- Set the status. -/
  | withStatus {response : Response} (written : Written response) (status : Nat) :
      Written { response with status }
  /-- Set the body. -/
  | withBody {response : Response} (written : Written response) (body : Option (List UInt8)) :
      Written { response with body }
  /-- Set a header. -/
  | setHeader {response : Response} (written : Written response) (name value : String) :
      Written (response.setHeader name value)
  /-- Set a cookie. -/
  | addCookie {response : Response} (written : Written response) (cookie : Cookie) :
      Written (response.addCookie cookie)
  /-- Set a body of plain text. -/
  | text {response : Response} (written : Written response) (body : String) :
      Written (response.text body)
  /-- Set a body of JSON. -/
  | json {response : Response} (written : Written response) (value : Json) :
      Written (response.json value)

section Headers

variable {response : Response}

theorem setHeader_of_isFieldValue {value : String} (valid : isFieldValue value = true)
    (name : String) :
    response.setHeader name value =
      { response with headers := response.headers.insert name value } :=
  if_pos valid

/-- No header of a response that was made by operations holds a control character. -/
theorem Written.isFieldValue_header (written : response.Written) :
    ∀ entry ∈ response.headers.entries, isFieldValue entry.2 := by
  induction written with
  | new status => simp [Dict.empty]
  | withStatus _ _ ih => exact ih
  | withBody _ _ ih => exact ih
  | addCookie _ _ ih => exact ih
  | @setHeader response _ name value ih =>
      intro entry listed
      by_cases valid : isFieldValue value = true
      · rw [setHeader_of_isFieldValue valid] at listed
        rcases Dict.mem_entries_insert listed with rfl | earlier
        · exact valid
        · exact ih entry earlier
      · rw [Response.setHeader, if_neg valid] at listed
        exact ih entry listed
  | text _ _ ih =>
      intro entry listed
      rcases Dict.mem_entries_insert listed with rfl | earlier
      · decide
      · exact ih entry earlier
  | json _ _ ih =>
      intro entry listed
      rcases Dict.mem_entries_insert listed with rfl | earlier
      · decide
      · exact ih entry earlier

end Headers

/-- The lines of the cookies of any response can stand in headers. -/
theorem isFieldValue_of_mem_setCookieHeaders {response : Response} {line : String}
    (listed : line ∈ response.setCookieHeaders) : isFieldValue line := by
  obtain ⟨cookie, -, rfl⟩ := List.mem_map.mp listed
  exact cookie.isFieldValue_render

/-! ## The steps that put responses together -/

section Merging

variable {response earlier : Response}

/-- A cookie whose name no other cookie has is put last. -/
theorem addCookie_of_new {cookie : Cookie}
    (new : ∀ other ∈ response.cookies, other.name ≠ cookie.name) :
    response.addCookie cookie = { response with cookies := response.cookies ++ [cookie] } := by
  have all_kept : response.cookies.filter (·.name != cookie.name) = response.cookies := by
    rw [List.filter_eq_self]
    intro other listed
    simpa using new other listed
  rw [addCookie, all_kept]

/-- A cookie that is set takes the place of one of the same name. -/
theorem nodup_names_addCookie (distinct : (response.cookies.map Cookie.name).Nodup)
    (cookie : Cookie) : ((response.addCookie cookie).cookies.map Cookie.name).Nodup := by
  have others_distinct :
      ((response.cookies.filter (·.name != cookie.name)).map Cookie.name).Nodup :=
    distinct.sublist (List.filter_sublist.map Cookie.name)
  rw [Response.addCookie, List.map_append, List.nodup_append]
  refine ⟨others_distinct, by simp, ?_⟩
  rintro name listed _ name_listed rfl
  obtain ⟨other, other_listed, rfl⟩ := List.mem_map.mp listed
  have same : other.name = cookie.name := by simpa using name_listed
  simp [same] at other_listed

theorem Written.nodup_cookies (written : response.Written) :
    (response.cookies.map Cookie.name).Nodup := by
  induction written with
  | new status => exact List.nodup_nil
  | withStatus _ _ ih => exact ih
  | withBody _ _ ih => exact ih
  | @setHeader response _ name value ih =>
      rw [Response.setHeader]
      split <;> exact ih
  | text _ _ ih => exact ih
  | json _ _ ih => exact ih
  | addCookie _ cookie ih => exact nodup_names_addCookie ih cookie

theorem Written.completeHeaders (written : response.Written) {headers : Dict String}
    (valid : ∀ entry ∈ headers.entries, isFieldValue entry.2) :
    (response.completeHeaders headers).Written := by
  obtain ⟨entries⟩ := headers
  simp only [Response.completeHeaders] at valid ⊢
  induction entries generalizing response with
  | nil => exact written
  | cons entry rest ih =>
      obtain ⟨entry_valid, rest_valid⟩ := List.forall_mem_cons.mp valid
      rw [List.foldl_cons]
      apply ih _ rest_valid
      split
      · exact written
      · rw [← setHeader_of_isFieldValue entry_valid]
        exact written.setHeader entry.1 entry.2

theorem Written.completeCookies (written : response.Written) (cookies : List Cookie) :
    (response.completeCookies cookies).Written := by
  unfold Response.completeCookies
  induction cookies generalizing response with
  | nil => exact written
  | cons cookie rest ih =>
      rw [List.foldl_cons]
      apply ih
      split
      · exact written
      · next none_same =>
          rw [← addCookie_of_new (by simpa using none_same)]
          exact written.addCookie cookie

/-- A response that takes the place of another is made by operations if both are. -/
theorem Written.replacing (written : response.Written) (earlier_written : earlier.Written) :
    (response.replacing earlier).Written :=
  (written.completeCookies earlier.cookies).completeHeaders earlier_written.isFieldValue_header

/-- Cookies of distinct names can be set one after the other. -/
theorem Written.withCookies (written : response.Written) {cookies : List Cookie}
    (none_set : response.cookies = []) (distinct : (cookies.map Cookie.name).Nodup) :
    ({ response with cookies } : Response).Written := by
  induction cookies using List.reverseRecOn with
  | nil => exact none_set ▸ written
  | append_singleton front cookie ih =>
      rw [List.map_append, List.map_singleton, List.nodup_append] at distinct
      obtain ⟨front_distinct, -, apart⟩ := distinct
      have new : ∀ other ∈ front, other.name ≠ cookie.name := fun other listed =>
        apart _ (List.mem_map_of_mem listed) _ List.mem_cons_self
      have set_last := (ih front_distinct).addCookie cookie
      rwa [addCookie_of_new new] at set_last

theorem cookies_completeHeaders (response : Response) (headers : Dict String) :
    (response.completeHeaders headers).cookies = response.cookies := by
  obtain ⟨entries⟩ := headers
  simp only [completeHeaders]
  induction entries generalizing response with
  | nil => rfl
  | cons entry rest ih =>
      rw [List.foldl_cons, ih]
      split <;> rfl

theorem cookies_toResponse (view : ModelAndView) : view.toResponse.cookies = [] := by
  rw [ModelAndView.toResponse, setHeader]
  split <;> rfl

/-- The name of a view is shown in a header only if it can stand there. -/
theorem written_toResponse (view : ModelAndView) : view.toResponse.Written :=
  ((Written.new _).setHeader _ _).json _

/-- A response that shows a view is made by operations if the one is that was under construction. -/
theorem Written.render (written : response.Written) (view : ModelAndView) :
    (Outcome.render view response).Written := by
  have shown := ((written_toResponse view).withStatus
    (if view.status.isSome then view.toResponse.status else response.status)).completeHeaders
      written.isFieldValue_header
  apply shown.withCookies _ written.nodup_cookies
  rw [cookies_completeHeaders]
  exact cookies_toResponse view

theorem written_ofFailure (failure : Failure) : (ofFailure failure).Written :=
  ((Written.new _).setHeader _ _).withBody _

end Merging

end Response

namespace Outcome

/-- Whether the response of an outcome, if it has one, is made by operations. -/
def Written (outcome : Outcome) : Prop :=
  ∀ response, outcome.response? = some response → response.Written

/-- What is sent for an outcome is made by operations if the response under construction is. -/
theorem Written.toResponse {outcome : Outcome} (written : outcome.Written) :
    outcome.toResponse.Written := by
  cases outcome with
  | view shown response => exact (written response rfl).render shown
  | completed response => exact written response rfl
  | shortCircuited response => exact written response rfl
  | notModified response => exact written response rfl
  | notFound => exact .new 404

end Outcome
end WebDispatch
