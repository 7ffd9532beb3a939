import Mathlib.Data.List.Pairwise
import WebDispatch.Dispatch.Outcome
import WebDispatch.Proofs.Http.FieldValues
import WebDispatch.Proofs.Http.HeaderWrites

/-!
# Headers of a response that takes the place of another

The answer of a route, and the response that shows a view, get the headers of the response under
construction whose names they do not have in any case.  Adding one header does not hold back a later
one, since the names that are added are distinct in any case.  So the headers that are added are
those that the answer misses to begin with, and the order in which the headers are kept does not
matter: `Response.entries_completeHeaders`.
-/

namespace WebDispatch

namespace Response

/-- No two headers have the same name in any case. -/
def HasDistinctNames (response : Response) : Prop :=
  response.headers.keys.Pairwise fun name other => Text.sameIgnoringCase name other = false

/-- Two responses differ in nothing but the order of their headers. -/
structure Reordered (first second : Response) : Prop where
  status_eq : first.status = second.status
  headers_perm : first.headers.entries.Perm second.headers.entries
  cookies_eq : first.cookies = second.cookies
  body_eq : first.body = second.body

/-- A response has the headers of one, and those of an earlier one whose names that one does not
have. -/
structure Merges (produced earlier merged : Response) : Prop where
  header_eq : ∀ name, merged.header? name = (produced.header? name <|> earlier.header? name)
  distinct : merged.HasDistinctNames

/-! ### Names in any case -/

theorem sameIgnoringCase_comm (a b : String) :
    Text.sameIgnoringCase a b = Text.sameIgnoringCase b a := by
  rw [Bool.eq_iff_iff, sameIgnoringCase_iff, sameIgnoringCase_iff, eq_comm]

/-- Names that are the same in any case find the same header. -/
theorem header?_congr (response : Response) {name other : String}
    (same : Text.sameIgnoringCase name other = true) :
    response.header? name = response.header? other := by
  have lower_eq := sameIgnoringCase_iff.1 same
  simp only [header?, Text.sameIgnoringCase, lower_eq]

theorem header?_eq_none {response : Response} {name : String} :
    response.header? name = none ↔
      ∀ key ∈ response.headers.keys, Text.sameIgnoringCase key name = false := by
  simp [header?, Dict.keys]

/-- Of the headers with distinct names, at most one is found under a name in any case. -/
theorem HasDistinctNames.subsingleton {response : Response} (distinct : response.HasDistinctNames)
    (name : String) :
    {entry | entry ∈ response.headers.entries ∧
      Text.sameIgnoringCase entry.1 name = true}.Subsingleton := by
  have apart : response.headers.entries.Pairwise fun first second =>
      Text.sameIgnoringCase first.1 second.1 = false := List.pairwise_map.1 distinct
  have symmetric : Std.Symm fun first second : String × String =>
      Text.sameIgnoringCase first.1 second.1 = false :=
    ⟨fun first second differ => by rwa [sameIgnoringCase_comm]⟩
  rintro first ⟨first_listed, first_same⟩ second ⟨second_listed, second_same⟩
  by_contra other
  have differ := apart.forall first_listed second_listed other
  rw [sameIgnoringCase_iff] at first_same second_same
  rw [← Bool.not_eq_true, sameIgnoringCase_iff] at differ
  exact differ (first_same.trans second_same.symm)

/-- The order of headers with distinct names does not matter to what is found. -/
theorem Reordered.header?_eq {first second : Response} (reordered : first.Reordered second)
    (distinct : first.HasDistinctNames) (name : String) :
    first.header? name = second.header? name := by
  rw [header?, header?,
    List.find?_eq_find?_of_perm reordered.headers_perm (distinct.subsingleton name)]

theorem Reordered.hasDistinctNames {first second : Response} (reordered : first.Reordered second)
    (distinct : first.HasDistinctNames) : second.HasDistinctNames := by
  refine (reordered.headers_perm.map Prod.fst).pairwise distinct ?_
  intro name other differ
  rwa [sameIgnoringCase_comm]

/-! ### Adding the headers that are missing -/

/-- The headers that are added to a response are those whose names it does not have. -/
theorem entries_completeHeaders (response : Response) {earlier : Dict String}
    (distinct : earlier.keys.Pairwise fun name other => Text.sameIgnoringCase name other = false) :
    (response.completeHeaders earlier).headers.entries =
      response.headers.entries ++
        earlier.entries.filter fun entry => (response.header? entry.1).isNone := by
  obtain ⟨entries⟩ := earlier
  simp only [completeHeaders, Dict.keys, List.pairwise_map] at distinct ⊢
  induction entries generalizing response with
  | nil => simp
  | cons entry rest ih =>
      obtain ⟨name, value⟩ := entry
      obtain ⟨apart, rest_distinct⟩ := List.pairwise_cons.1 distinct
      rw [List.foldl_cons, ih _ rest_distinct]
      cases found : response.header? name with
      | some known => rw [List.filter_cons_of_neg (by simp [found])]
      | none =>
          have outside : name ∉ response.headers.keys := fun listed => by
            have differs := header?_eq_none.1 found name listed
            rw [sameIgnoringCase_iff.2 rfl] at differs
            cases differs
          have added := Dict.entries_insert_of_notMem outside value
          -- The header that is added has the name of no later one, so it holds none of them back.
          have later_same : ∀ later ∈ rest,
              (({ response with headers := response.headers.insert name value } :
                Response).header? later.1).isNone = (response.header? later.1).isNone := by
            intro later listed
            simp [header?, added, apart later listed]
          dsimp only
          rw [List.filter_congr later_same, List.filter_cons_of_pos (by simp [found]), added,
            List.append_assoc, List.singleton_append]

/-- Adding headers changes nothing else. -/
theorem completeHeaders_eq (response : Response) (earlier : Dict String) :
    response.completeHeaders earlier =
      { response with headers := (response.completeHeaders earlier).headers } := by
  obtain ⟨entries⟩ := earlier
  simp only [completeHeaders]
  induction entries generalizing response with
  | nil => rfl
  | cons entry rest ih =>
      rw [List.foldl_cons, ih]
      cases response.header? entry.1 <;> rfl

/-- Cookies with those added, in order, whose names are not among them. -/
def addMissing (cookies earlier : List Cookie) : List Cookie :=
  earlier.foldl (fun cookies cookie =>
    if cookies.any (·.name == cookie.name) then cookies else cookies ++ [cookie]) cookies

/-- Adding cookies changes nothing else, and looks at nothing else. -/
theorem completeCookies_eq (response : Response) (earlier : List Cookie) :
    response.completeCookies earlier =
      { response with cookies := addMissing response.cookies earlier } := by
  unfold completeCookies addMissing
  induction earlier generalizing response with
  | nil => rfl
  | cons cookie rest ih =>
      rw [List.foldl_cons, List.foldl_cons, ih]
      cases response.cookies.any (·.name == cookie.name) <;> rfl

/-! ### Merged headers -/

section Merging

variable {produced earlier merged : Response}

/-- The headers of a response, and those of an earlier one whose names it does not have. -/
def mergedEntries (produced earlier : Response) : List (String × String) :=
  produced.headers.entries ++
    earlier.headers.entries.filter fun entry => (produced.header? entry.1).isNone

theorem merges_of_entries_eq (produced_distinct : produced.HasDistinctNames)
    (earlier_distinct : earlier.HasDistinctNames)
    (entries_eq : merged.headers.entries = mergedEntries produced earlier) :
    Merges produced earlier merged where
  header_eq name := by
    rw [header?, entries_eq, mergedEntries, List.find?_append]
    cases found : produced.header? name with
    | some value =>
        obtain ⟨entry, entry_eq, rfl⟩ := Option.map_eq_some_iff.1 found
        rw [entry_eq]
        rfl
    | none =>
        have unfound := Option.map_eq_none_iff.1 found
        -- An earlier header that is found under the name was added, since none is in its place.
        have same_test : ∀ entry ∈ earlier.headers.entries,
            ((produced.header? entry.1).isNone && Text.sameIgnoringCase entry.1 name) =
              Text.sameIgnoringCase entry.1 name := by
          intro entry _
          cases same : Text.sameIgnoringCase entry.1 name with
          | false => exact Bool.and_false _
          | true => rw [produced.header?_congr same, found]; rfl
        rw [unfound, List.find?_filter]
        simp only [Bool.decide_and, Bool.decide_eq_true, List.find?_congr same_test]
        rfl
  distinct := by
    rw [HasDistinctNames, Dict.keys, entries_eq, mergedEntries, List.map_append,
      List.pairwise_append]
    refine ⟨produced_distinct, ?_, ?_⟩
    · have kept : (earlier.headers.entries.filter fun entry =>
          (produced.header? entry.1).isNone).Sublist earlier.headers.entries :=
        List.filter_sublist
      exact earlier_distinct.sublist (kept.map Prod.fst)
    · intro name listed other other_listed
      obtain ⟨entry, entry_listed, rfl⟩ := List.mem_map.1 other_listed
      have missing := Option.isNone_iff_eq_none.1 (List.mem_filter.1 entry_listed).2
      exact header?_eq_none.1 missing name listed

/-- The order of the headers to be merged shows in nothing but the order of the merged ones. -/
theorem mergedEntries_perm {produced' earlier' : Response}
    (produced_distinct : produced.HasDistinctNames) (produced_same : produced.Reordered produced')
    (earlier_same : earlier.Reordered earlier') :
    (mergedEntries produced earlier).Perm (mergedEntries produced' earlier') := by
  simp only [mergedEntries, produced_same.header?_eq produced_distinct]
  exact produced_same.headers_perm.append (earlier_same.headers_perm.filter _)

theorem entries_replacing (earlier_distinct : earlier.HasDistinctNames) :
    (produced.replacing earlier).headers.entries = mergedEntries produced earlier := by
  rw [replacing, entries_completeHeaders _ earlier_distinct, completeCookies_eq]
  rfl

theorem status_replacing : (produced.replacing earlier).status = produced.status := by
  rw [replacing, completeHeaders_eq, completeCookies_eq]

theorem body_replacing : (produced.replacing earlier).body = produced.body := by
  rw [replacing, completeHeaders_eq, completeCookies_eq]

theorem cookies_replacing_eq :
    (produced.replacing earlier).cookies = addMissing produced.cookies earlier.cookies := by
  rw [replacing, completeHeaders_eq, completeCookies_eq]

theorem Reordered.replacing {produced' earlier' : Response}
    (produced_distinct : produced.HasDistinctNames) (earlier_distinct : earlier.HasDistinctNames)
    (produced_same : produced.Reordered produced') (earlier_same : earlier.Reordered earlier') :
    (produced.replacing earlier).Reordered (produced'.replacing earlier') where
  status_eq := by rw [status_replacing, status_replacing, produced_same.status_eq]
  headers_perm := by
    rw [entries_replacing earlier_distinct,
      entries_replacing (earlier_same.hasDistinctNames earlier_distinct)]
    exact mergedEntries_perm produced_distinct produced_same earlier_same
  cookies_eq := by
    rw [cookies_replacing_eq, cookies_replacing_eq, produced_same.cookies_eq,
      earlier_same.cookies_eq]
  body_eq := by rw [body_replacing, body_replacing, produced_same.body_eq]

/-! ### Views -/

theorem hasDistinctNames_toResponse (view : ModelAndView) :
    view.toResponse.HasDistinctNames := by
  have apart : Text.sameIgnoringCase "X-View-Name" "Content-Type" = false := by decide +kernel
  unfold ModelAndView.toResponse setHeader
  split
  · exact List.pairwise_pair.2 apart
  · exact List.pairwise_singleton _ _

theorem entries_render (earlier_distinct : earlier.HasDistinctNames) (view : ModelAndView) :
    (Outcome.render view earlier).headers.entries = mergedEntries view.toResponse earlier := by
  rw [Outcome.render, entries_completeHeaders _ earlier_distinct]
  rfl

theorem status_render (view : ModelAndView) :
    (Outcome.render view earlier).status = view.status.getD earlier.status := by
  have shown : view.toResponse.status = view.status.getD 200 := by
    unfold ModelAndView.toResponse setHeader
    split <;> rfl
  rw [Outcome.render, completeHeaders_eq]
  cases status_eq : view.status <;> simp [shown, status_eq]

theorem body_render (view : ModelAndView) :
    (Outcome.render view earlier).body = view.toResponse.body := by
  rw [Outcome.render, completeHeaders_eq]

theorem Reordered.render {earlier' : Response} (earlier_distinct : earlier.HasDistinctNames)
    (earlier_same : earlier.Reordered earlier') (view : ModelAndView) :
    (Outcome.render view earlier).Reordered (Outcome.render view earlier') where
  status_eq := by rw [status_render, status_render, earlier_same.status_eq]
  headers_perm := by
    have same : view.toResponse.Reordered view.toResponse := ⟨rfl, .refl _, rfl, rfl⟩
    rw [entries_render earlier_distinct,
      entries_render (earlier_same.hasDistinctNames earlier_distinct)]
    exact mergedEntries_perm (hasDistinctNames_toResponse view) same earlier_same
  cookies_eq := earlier_same.cookies_eq
  body_eq := by rw [body_render, body_render]

end Merging

variable {σ : Type}

/-- The answer of a route takes the place of the response under construction: it has the status and
the body of what the route produced, and under each name the header of that or else the earlier one.
A view is shown likewise, with the earlier cookies, and with the earlier status unless it sets one.
There is still one header for each name in any case, and the order in which headers are kept shows
in nothing but their order.  A route that fails leaves the response as it was. -/
theorem merges_headers {earlier : Response} (distinct : earlier.HasDistinctNames) :
    (∀ (route : Route σ) (x : Exchange σ) (failure : Failure) (world : World σ),
      x.response = earlier → route.respond x.toVisit = (.error failure, world) →
        Adapter.routes.handle (Handler.ofRoute route) x = (.error failure, x.withWorld world) ∧
          (x.withWorld world).response = earlier) ∧
      (∀ (route : Route σ) (x : Exchange σ) (produced : Response) (world : World σ),
        x.response = earlier → route.respond x.toVisit = (.ok produced, world) →
        produced.HasDistinctNames →
          ∃ merged, Adapter.routes.handle (Handler.ofRoute route) x =
              (.ok none, { x.withWorld world with response := merged }) ∧
            merged.status = produced.status ∧ merged.body = produced.body ∧
            Merges produced earlier merged ∧
            ∀ (other : Route σ) (y : Exchange σ) (produced' : Response) (world' : World σ),
              earlier.Reordered y.response → produced.Reordered produced' →
              other.respond y.toVisit = (.ok produced', world') →
                merged.Reordered
                  (Adapter.routes.handle (Handler.ofRoute other) y).2.response) ∧
      ∀ view : ModelAndView,
        let sent := (Outcome.view view earlier).toResponse
        sent.status = view.status.getD earlier.status ∧ sent.body = view.toResponse.body ∧
          sent.cookies = earlier.cookies ∧ Merges view.toResponse earlier sent ∧
          ∀ earlier', earlier.Reordered earlier' →
            sent.Reordered (Outcome.view view earlier').toResponse := by
  refine ⟨?_, ?_, ?_⟩
  · rintro route x failure world rfl failed
    refine ⟨?_, rfl⟩
    simp only [Adapter.routes, Handler.ofRoute, failed]
  · rintro route x produced world rfl answered produced_distinct
    refine ⟨produced.replacing x.response, ?_, status_replacing, body_replacing, ?_, ?_⟩
    · simp only [Adapter.routes, Handler.ofRoute, answered]
    · exact merges_of_entries_eq produced_distinct distinct (entries_replacing distinct)
    · intro other y produced' world' earlier_same produced_same other_answered
      have replaced : (Adapter.routes.handle (Handler.ofRoute other) y).2.response =
          produced'.replacing y.response := by
        simp only [Adapter.routes, Handler.ofRoute, other_answered]
      rw [replaced]
      exact .replacing produced_distinct distinct produced_same earlier_same
  · intro view sent
    refine ⟨status_render view, body_render view, rfl, ?_, ?_⟩
    · exact merges_of_entries_eq (hasDistinctNames_toResponse view) distinct
        (entries_render distinct view)
    · intro earlier' earlier_same
      exact .render distinct earlier_same view

/-- A response under construction with a content type and a trace. -/
def traced : Response :=
  ((ok.setHeader "content-type" "text/html").setHeader "X-Trace" "1")

/-- A route that answers with a text. -/
def greeting : Route Unit where
  number := 1
  method := .get
  pattern := { source := "^/$", expression := .empty }
  respond visit := (.ok (ok.text "hello"), visit.world)

/-- The text replaces the content type in another case, and the trace is kept. -/
theorem merges_headers_traced :
    ∃ merged, Adapter.routes.handle (Handler.ofRoute greeting)
        { request := { method := .get, path := "/" }, world := { app := () }, response := traced } =
        (.ok none, { request := { method := .get, path := "/" }, world := { app := () },
                     response := merged }) ∧
      merged.header? "content-type" = some "text/plain; charset=utf-8" ∧
      merged.header? "x-trace" = some "1" ∧ merged.HasDistinctNames := by
  have distinct : traced.HasDistinctNames := by
    unfold HasDistinctNames
    decide +kernel
  have produced_distinct : (ok.text "hello").HasDistinctNames := by
    unfold HasDistinctNames
    decide +kernel
  obtain ⟨-, answers, -⟩ := @merges_headers Unit _ distinct
  obtain ⟨merged, handle_eq, -, -, merges, -⟩ := answers greeting
    { request := { method := .get, path := "/" }, world := { app := () }, response := traced }
    (ok.text "hello") { app := () } rfl rfl produced_distinct
  refine ⟨merged, handle_eq, ?_, ?_, merges.distinct⟩
  · rw [merges.header_eq]
    decide +kernel
  · rw [merges.header_eq]
    decide +kernel

end Response
end WebDispatch
