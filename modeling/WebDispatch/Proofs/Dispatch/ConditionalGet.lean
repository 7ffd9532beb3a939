import WebDispatch.Proofs.Dispatch.HookOrder
import WebDispatch.Proofs.Http.DateRoundTrip
import WebDispatch.Proofs.Http.FieldValues

/-!
# Conditional requests

What a dispatch says about the last change of something can be sent back to ask whether there is a
later one: `Dispatcher.notModified_round_trip`.  Both sides count whole seconds, the header because
it says no more and the comparison because it asks for no more.
-/

namespace WebDispatch

variable {σ : Type}

namespace HttpDate

theorem isFieldValue_padded (width n : Nat) : isFieldValue (padded width n) = true := by
  have zeros_valid (count : Nat) : isFieldValue (String.ofList (List.replicate count '0')) := by
    rw [isFieldValue_iff]
    intro c listed
    rw [String.toList_ofList] at listed
    rw [List.eq_of_mem_replicate listed]
    decide
  simp only [padded, String.ofList_append, String.ofList_toList, isFieldValue_append,
    zeros_valid, isFieldValue_toString, Bool.and_self]

theorem isFieldValue_getD {names : List String} (valid : names.all isFieldValue = true)
    (place : Nat) : isFieldValue (names.getD place "") = true := by
  rw [List.getD_eq_getElem?_getD]
  cases found : names[place]? with
  | none => rfl
  | some name => exact List.all_eq_true.mp valid name (List.mem_of_getElem? found)

theorem isFieldValue_renderYear (year : Int) : isFieldValue (renderYear year) = true := by
  have signs_valid : isFieldValue "-" = true ∧ isFieldValue "+" = true := by decide
  unfold renderYear
  split
  · simp [isFieldValue_padded, signs_valid]
  · split <;> simp [isFieldValue_padded, signs_valid]

/-- A date can stand in a header. -/
theorem isFieldValue_render (instant : Instant) : isFieldValue (render instant) = true := by
  have day_valid : dayNames.all isFieldValue = true := by decide
  have month_valid : monthNames.all isFieldValue = true := by decide
  have between_valid : [", ", " ", ":", " GMT"].all isFieldValue = true := by decide
  simp only [List.all_cons, List.all_nil, Bool.and_true, Bool.and_eq_true] at between_valid
  simp only [render, isFieldValue_append, isFieldValue_padded, isFieldValue_renderYear,
    isFieldValue_getD day_valid, isFieldValue_getD month_valid, between_valid, Bool.and_self]

end HttpDate

namespace Dispatcher

/-- A dispatch that finds a chain with an adapter for it, and what it leaves of the visit then. -/
inductive Finds (dispatcher : Dispatcher σ) (visit : Visit σ) (chain : HandlerChain σ)
    (adapter : Adapter σ) (after : Visit σ) : Prop where
  | intro {guard : UploadGuard} {storage : Storage}
      (parsed : dispatcher.guardFor visit = (.ok guard, storage))
      (found : dispatcher.resolve (guarded visit guard storage) = (.ok (some chain), after))
      (supported : Adapter.find dispatcher.adapters chain.handler = .ok adapter) :
      Finds dispatcher visit chain adapter after

/-- The response that nothing has changed since. -/
def notModifiedSince (instant : Instant) : Response :=
  { status := 304, headers := Dict.ofList [("Last-Modified", HttpDate.render instant)] }

theorem startResponse_notModified (instant : Instant) :
    startResponse .notModified (some instant) = notModifiedSince instant := by
  rw [startResponse, Response.setHeader_of_isFieldValue (HttpDate.isFieldValue_render instant)]
  rfl

theorem header?_notModifiedSince (instant : Instant) :
    (notModifiedSince instant).header? "Last-Modified" = some (HttpDate.render instant) := by
  simp [Response.header?, notModifiedSince, Dict.ofList, Dict.insertAll, Dict.insert, Dict.put,
    Dict.empty, Text.sameIgnoringCase]

theorem header?_startResponse (instant : Instant) :
    (startResponse .ok (some instant)).header? "Last-Modified" =
      some (HttpDate.render instant) := by
  rw [startResponse, Response.setHeader_of_isFieldValue (HttpDate.isFieldValue_render instant)]
  simp [Response.header?, Response.ok, Dict.insert, Dict.put, Dict.empty, Text.sameIgnoringCase]

/-- A date that was sent is taken for the whole second that it says. -/
theorem isNotModified_of_sent {sent : Instant} (clock : sent.OnClock)
    (from_zero : 0 ≤ sent.date.year) (four_digits : sent.date.year ≤ 9999) {request : Request}
    (header : request.header? "if-modified-since" = some (HttpDate.render sent))
    (reported : Instant) :
    isNotModified request reported = true ↔ reported.seconds ≤ sent.seconds := by
  have read := HttpDate.parse?_render clock from_zero four_digits
  simp [isNotModified, header, read, Instant.truncated]

variable {dispatcher : Dispatcher σ} {visit after : Visit σ} {chain : HandlerChain σ}
  {adapter : Adapter σ}

/-- A dispatch that finds a chain ends early or runs it, by whether something has changed. -/
theorem Finds.dispatch_eq (finds : dispatcher.Finds visit chain adapter after) :
    (dispatcher.dispatch visit).1 = (answer chain adapter after).1 := by
  cases finds with
  | intro parsed found supported =>
      rw [dispatch_of_guardFor parsed]
      simp only [dispatchResolved, found, supported]

theorem answer_ne_notModified {visit : Visit σ} (changed :
      (lastModified? chain adapter visit.request).any (isNotModified visit.request) = false)
    (response : Response) : (answer chain adapter visit).1 ≠ .ok (.notModified response) := by
  simp only [answer, changed, Bool.false_eq_true, if_false]
  split <;> simp

theorem Finds.dispatch_of_current (finds : dispatcher.Finds visit chain adapter after)
    {reported : Instant} (reports : lastModified? chain adapter after.request = some reported)
    (current : isNotModified after.request reported = true) :
    (dispatcher.dispatch visit).1 = .ok (.notModified (notModifiedSince reported)) ∧
      dispatcher.StopsEarly visit after.world.app := by
  have early : (lastModified? chain adapter after.request).any (isNotModified after.request) :=
    by simpa [reports] using current
  constructor
  · rw [finds.dispatch_eq]
    simp only [answer, reports, Option.any_some, current, if_true, startResponse_notModified]
  · cases finds with
    | intro parsed found supported => exact .notModified parsed found supported early

/-- Only a request that reads is answered that nothing has changed. -/
theorem exists_finds_of_notModified {response : Response}
    (ended : (dispatcher.dispatch visit).1 = .ok (.notModified response)) :
    ∃ chain adapter after, dispatcher.Finds visit chain adapter after ∧
      (after.request.method = .get ∨ after.request.method = .head) := by
  rcases dispatcher.stopsEarly_or_reaches visit with ⟨app, stops⟩ | ⟨chain, adapter, x, reaches⟩
  · cases stops with
    | uploadFails parsed =>
        unfold guardFor at parsed
        simp only [dispatch, parsed, reduceCtorEq] at ended
    | mappingFails parsed found =>
        simp only [dispatch_of_guardFor parsed, dispatchResolved, found, reduceCtorEq] at ended
    | nothingFound parsed found =>
        simp only [dispatch_of_guardFor parsed, dispatchResolved, found] at ended
        split at ended <;> simp at ended
    | unsupported parsed found supported =>
        simp only [dispatch_of_guardFor parsed, dispatchResolved, found, supported,
          reduceCtorEq] at ended
    | notModified parsed found supported current =>
        refine ⟨_, _, _, .intro parsed found supported, ?_⟩
        by_contra other
        simp [lastModified?, other] at current
  · cases reaches with
    | intro parsed found supported stale =>
        have finds := Finds.intro parsed found supported
        rw [finds.dispatch_eq] at ended
        exact absurd ended (answer_ne_notModified (by simpa using stale) response)

/-- A date that was sent for an instant of a year of four digits, sent back by a request that reads,
is answered that nothing has changed if and only if what is reported then is not later, in whole
seconds; that is so if the instant itself is reported.  Then the answer has the date that is
reported, and no hook and no handler is called: the state of the application, which holds whatever
they note, is as the mappings left it.  Other requests are never answered so. -/
theorem notModified_round_trip (dispatcher : Dispatcher σ) {sent : Instant} (clock : sent.OnClock)
    (from_zero : 0 ≤ sent.date.year) (four_digits : sent.date.year ≤ 9999) :
    (∀ visit chain adapter x, dispatcher.Reaches visit chain adapter x →
      lastModified? chain adapter x.request = some sent →
        x.response.header? "Last-Modified" = some (HttpDate.render sent)) ∧
      (∀ visit chain adapter after, dispatcher.Finds visit chain adapter after →
        after.request.header? "if-modified-since" = some (HttpDate.render sent) →
        (after.request.method = .get ∨ after.request.method = .head) →
        ∀ reported, adapter.lastModified chain.handler after.request = some reported →
          ((∃ response, (dispatcher.dispatch visit).1 = .ok (.notModified response)) ↔
            reported.seconds ≤ sent.seconds) ∧
          (reported.seconds ≤ sent.seconds →
            ∃ response, (dispatcher.dispatch visit).1 = .ok (.notModified response) ∧
              response.status = 304 ∧
              response.header? "Last-Modified" = some (HttpDate.render reported) ∧
              (dispatcher.dispatch visit).2.world.app = after.world.app ∧
              ∀ chain adapter x, ¬ dispatcher.Reaches visit chain adapter x)) ∧
      ∀ visit response, (dispatcher.dispatch visit).1 = .ok (.notModified response) →
        ∃ chain adapter after, dispatcher.Finds visit chain adapter after ∧
          (after.request.method = .get ∨ after.request.method = .head) := by
  refine ⟨?_, ?_, fun visit response => exists_finds_of_notModified⟩
  · intro visit chain adapter x reaches reports
    cases reaches with
    | intro parsed found supported stale =>
        simp only at reports
        simp only [reports, header?_startResponse]
  · intro visit chain adapter after finds header reads reported reports
    have asked : lastModified? chain adapter after.request = some reported := by
      rw [lastModified?, if_pos reads, reports]
    have current_iff := isNotModified_of_sent clock from_zero four_digits header reported
    refine ⟨⟨?_, ?_⟩, ?_⟩
    · rintro ⟨response, ended⟩
      by_contra later
      rw [finds.dispatch_eq] at ended
      refine answer_ne_notModified ?_ response ended
      rw [asked, Option.any_some]
      exact Bool.eq_false_iff.mpr fun current => later (current_iff.mp current)
    · intro earlier
      exact ⟨_, (finds.dispatch_of_current asked (current_iff.mpr earlier)).1⟩
    · intro earlier
      obtain ⟨ended, stops⟩ := finds.dispatch_of_current asked (current_iff.mpr earlier)
      exact ⟨_, ended, rfl, header?_notModifiedSince reported, app_dispatch_of_stopsEarly stops,
        fun _ _ _ => not_reaches_of_stopsEarly stops⟩

/-- A quarter of a second after the sixth of November 1994 at 08:49:37. -/
def quarterPast : Instant := { seconds := 784111777, nanoseconds := 250000000 }

/-- A controller whose page has changed last at that instant, with an interceptor around it. -/
def dated : HandlerChain (Logged Unit) where
  handler := ⟨0, .controller {
    name := "page"
    handle := fun x => (.ok none, x)
    lastModified := fun _ => some quarterPast }⟩
  interceptors := [{ name := "around" }]

/-- A dispatcher that answers every request by the controller. -/
def conditional : Dispatcher (Logged Unit) where
  registry := ⟨[⟨none, { name := "all", find := fun visit => (.ok (some dated), visit) }⟩]⟩

/-- A visit that asks for a later page. -/
def conditionalVisit : Visit (Logged Unit) where
  request := {
    method := .get
    path := "/"
    headers := Dict.ofList [("if-modified-since", "Sun, 06 Nov 1994 08:49:37 GMT")] }
  world := { app := ⟨(), []⟩ }

/-- There is none, and no call is logged. -/
theorem notModified_round_trip_conditional :
    HttpDate.render quarterPast = "Sun, 06 Nov 1994 08:49:37 GMT" ∧
      ∃ response,
        (conditional.recorded.dispatch conditionalVisit).1 = .ok (.notModified response) ∧
          response.header? "Last-Modified" = some "Sun, 06 Nov 1994 08:49:37 GMT" ∧
          (conditional.recorded.dispatch conditionalVisit).2.calls = [] := by
  have rendered : HttpDate.render quarterPast = "Sun, 06 Nov 1994 08:49:37 GMT" := by
    decide +kernel
  have clock : quarterPast.OnClock := .inl (by decide)
  have finds : conditional.recorded.Finds conditionalVisit _ _ _ := .intro rfl rfl rfl
  have header : conditionalVisit.request.header? "if-modified-since" =
      some (HttpDate.render quarterPast) := by
    rw [rendered]
    decide +kernel
  obtain ⟨-, sent_back, -⟩ := notModified_round_trip conditional.recorded clock
    (by decide +kernel) (by decide +kernel)
  obtain ⟨response, ended, -, response_header, app_eq, -⟩ :=
    (sent_back _ _ _ _ finds header (.inl rfl) quarterPast rfl).2 (Int.le_refl _)
  refine ⟨rendered, response, ended, ?_, congrArg Logged.calls app_eq⟩
  rw [response_header, rendered]

end Dispatcher
end WebDispatch
