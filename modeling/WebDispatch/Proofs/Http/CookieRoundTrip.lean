import WebDispatch.Http.Request
import WebDispatch.Proofs.Http.SetCookieItems

/-!
# Cookies that are sent back

The receiver of a cookie takes its name and value from the front of the header that sets it, and
sends them back with later requests, alone or among other cookies.  Names and values that pass the
check of a cookie come back unchanged, whatever attributes the cookie has:
`Cookie.cookie?_of_checked`.
-/

namespace WebDispatch
namespace Cookie

/-- The check passes names and values that need no quoting. -/
theorem checkPair_eq_ok_iff {name value : String} :
    checkPair name value = .ok () ↔ isPair (name, value) = true := by
  unfold checkPair isPair
  split
  · next name_valid => split <;> simp_all
  · simp_all

theorem pair_of_make {name value : String} {cookie : Cookie}
    (made : make name value = .ok cookie) : cookie.name = name ∧ cookie.value = value := by
  unfold make at made
  split at made
  · split at made
    · cases made
      exact ⟨rfl, rfl⟩
    · cases made
  · cases made

/-- What a sender writes has no control characters. -/
theorem isFieldValue_sentHeader {pairs : List (String × String)}
    (valid : ∀ pair ∈ pairs, isPair pair = true) : isFieldValue (sentHeader pairs) = true := by
  have header_eq : sentHeader pairs =
      "; ".intercalate (pairs.map fun pair => pair.1 ++ "=" ++ pair.2) := by
    rw [← String.toList_inj, sentHeader, String.toList_ofList, String.toList_intercalate,
      List.map_map]
    congr 1
    exact List.map_congr_left fun pair _ => by simp [sentItem]
  rw [header_eq]
  refine isFieldValue_intercalate (by decide) fun item listed => ?_
  obtain ⟨pair, sent, rfl⟩ := List.mem_map.mp listed
  have pair_valid := valid pair sent
  simp only [isPair, Bool.and_eq_true] at pair_valid
  have sign_valid : isFieldValue "=" = true := by decide
  rw [isFieldValue_append, isFieldValue_append, isFieldValue_of_isName pair_valid.1, sign_valid,
    isFieldValue_of_isValue pair_valid.2]
  rfl

/-- A request has the cookies that its sender writes into the header for them. -/
theorem cookie?_withHeader {pairs : List (String × String)}
    (valid : ∀ pair ∈ pairs, isPair pair = true) (request : Request) (name : String) :
    (request.withHeader "Cookie" (sentHeader pairs)).cookie? name = pairs.lookup name := by
  have same_name : Text.lower "cookie" = Text.lower "Cookie" := by decide
  rw [Request.cookie?, Request.header?, Request.withHeader,
    if_pos (isFieldValue_sentHeader valid), same_name, Dict.get?_insert_self]
  exact get?_parseHeader_sentHeader valid name

/-- However many cookies a sender writes into one header, each name that occurs is read with the
value of the first of them, and no other name is read.  What a receiver sees in front of the
attributes of a cookie is such a header, and it is read as the name and the value of the cookie. -/
theorem cookie?_of_checked :
    (∀ pairs : List (String × String),
      (∀ pair ∈ pairs, checkPair pair.1 pair.2 = .ok ()) → ∀ name,
        (parseHeader (sentHeader pairs)).get? name = pairs.lookup name ∧
          (name ∈ (parseHeader (sentHeader pairs)).keys ↔ name ∈ pairs.map Prod.fst)) ∧
    ∀ (name value : String) (start : Cookie), make name value = .ok start →
      ∀ settings : List CookieSetting,
        (headerItems (start.setAll settings).render).head? = some (name ++ "=" ++ value) ∧
          ∀ (request : Request) (other : String),
            (request.withHeader "Cookie" (name ++ "=" ++ value)).cookie? other =
              if other = name then some value else none := by
  constructor
  · intro pairs checked name
    have valid : ∀ pair ∈ pairs, isPair pair = true :=
      fun pair sent => checkPair_eq_ok_iff.mp (checked pair sent)
    have read := get?_parseHeader_sentHeader valid name
    refine ⟨read, ?_⟩
    rw [← Dict.isSome_get?_iff, read]
    exact Dict.isSome_get?_iff ⟨pairs⟩ name
  · intro name value start made settings
    obtain ⟨rfl, rfl⟩ := pair_of_make made
    constructor
    · rw [render, items_setAll, headerItems_intercalate (List.cons_ne_nil _ _), List.flatMap_cons,
        headerItems_pairItem]
      rfl
    · intro request other
      have valid : ∀ pair ∈ [(start.name, start.value)], isPair pair = true := by
        simp [isPair, start.isName_name, start.isValue_value]
      have header_eq : start.name ++ "=" ++ start.value =
          sentHeader [(start.name, start.value)] := by
        simp [← String.toList_inj, sentHeader, sentItem]
      rw [header_eq, cookie?_withHeader valid, List.lookup_cons]
      by_cases same : other = start.name
      · simp [same]
      · simp [same, beq_eq_false_iff_ne.mpr same]

/-- Cookies with a repeated name and with signs in their values. -/
def session : List (String × String) := [("SID", "a=b&c"), ("theme", ""), ("SID", "later")]

theorem cookie?_of_checked_session :
    (∀ pair ∈ session, checkPair pair.1 pair.2 = .ok ()) ∧
      (parseHeader (sentHeader session)).get? "SID" = some "a=b&c" ∧
      "later" ∉ (parseHeader (sentHeader session)).keys ∧
      ∃ start, make "SID" "a=b&c" = .ok start ∧
        (headerItems (start.setAll [.path "/; SID=x", .secure true]).render).head? =
          some "SID=a=b&c" ∧
        (({ method := .get, path := "/" } : Request).withHeader "Cookie" "SID=a=b&c").cookie?
          "SID" = some "a=b&c" := by
  have checked : ∀ pair ∈ session, checkPair pair.1 pair.2 = .ok () := by
    simp only [session, List.forall_mem_cons, checkPair]
    exact ⟨by decide +kernel, by decide +kernel, by decide +kernel, by simp⟩
  obtain ⟨read, returned⟩ := cookie?_of_checked
  have name_valid : isName "SID" = true := by decide +kernel
  have value_valid : isValue "a=b&c" = true := by decide +kernel
  have made := make_of_valid name_valid value_valid
  obtain ⟨seen, sent_back⟩ :=
    returned "SID" "a=b&c" _ made [.path "/; SID=x", .secure true]
  refine ⟨checked, (read session checked "SID").1, ?_, _, made, seen, ?_⟩
  · rw [(read session checked "later").2]
    decide
  · exact (sent_back _ "SID").trans (if_pos rfl)

end Cookie
end WebDispatch
