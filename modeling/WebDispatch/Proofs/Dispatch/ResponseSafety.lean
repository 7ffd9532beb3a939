import WebDispatch.Dispatch.Dispatcher
import WebDispatch.Proofs.Http.FieldValues
import WebDispatch.Proofs.Mapping.EvaluationOrder

/-!
# Responses that are safe to send

A dispatcher whose handlers and hooks touch responses only by the operations on responses sends no
control character in a header, whatever texts it is given: `Dispatcher.controlFree_handle`.  Each
step that gets a response made by operations leaves one, and so does a run of them; the rest is
known about all responses that are made by operations.
-/

namespace WebDispatch

variable {σ : Type}

/-! ## Handlers and hooks that use the operations -/

/-- The hooks of an interceptor change responses by operations only. -/
structure Interceptor.UsesOperations (interceptor : Interceptor σ) : Prop where
  preHandle (handler : Handler σ) {x : Exchange σ} (written : x.response.Written) :
    (interceptor.preHandle handler x).2.response.Written
  postHandle (handler : Handler σ) (view : Option ModelAndView) {x : Exchange σ}
    (written : x.response.Written) : (interceptor.postHandle handler view x).2.2.response.Written
  afterCompletion (handler : Handler σ) (failure : Option Failure) {x : Exchange σ}
    (written : x.response.Written) :
    (interceptor.afterCompletion handler failure x).2.response.Written

/-- A handler makes and changes responses by operations only. -/
def Handler.UsesOperations (handler : Handler σ) : Prop :=
  match handler.kind with
  | .route route => ∀ visit produced, (route.respond visit).1 = .ok produced → produced.Written
  | .controller controller =>
      ∀ x : Exchange σ, x.response.Written → (controller.handle x).2.response.Written
  | .writer writer => ∀ x : Exchange σ, x.response.Written → (writer.handle x).2.response.Written
  | .custom _ _ => True

/-- An adapter changes responses by operations only when it calls a handler that does so. -/
def Adapter.UsesOperations (adapter : Adapter σ) : Prop :=
  ∀ (handler : Handler σ) (x : Exchange σ), handler.UsesOperations → x.response.Written →
    (adapter.handle handler x).2.response.Written

/-- The handler and the interceptors of a chain use the operations. -/
structure HandlerChain.UsesOperations (chain : HandlerChain σ) : Prop where
  handler : chain.handler.UsesOperations
  interceptors : ∀ interceptor ∈ chain.interceptors, interceptor.UsesOperations

/-- The chains that a mapping finds use the operations. -/
def Mapping.UsesOperations (mapping : Mapping σ) : Prop :=
  ∀ visit chain after, mapping.find visit = (.ok (some chain), after) → chain.UsesOperations

/-- The mappings and the adapters of a dispatcher use the operations. -/
structure Dispatcher.UsesOperations (dispatcher : Dispatcher σ) : Prop where
  mappings : ∀ mapping ∈ dispatcher.registry.mappings, mapping.UsesOperations
  adapters : ∀ adapter ∈ dispatcher.registeredAdapters, adapter.UsesOperations

/-- The mapping of routes finds the routes and interceptors that it was given. -/
theorem RouteMapping.usesOperations {mapping : RouteMapping σ}
    (routes : ∀ route ∈ mapping.routes, (Handler.ofRoute route).UsesOperations)
    (interceptors : ∀ interceptor ∈ mapping.interceptors, interceptor.UsesOperations)
    (mapped : ∀ mapped ∈ mapping.mapped, mapped.interceptor.UsesOperations) :
    mapping.toMapping.UsesOperations := by
  intro visit chain after found
  simp only [toMapping, find] at found
  split at found
  · simp at found
  · next route captured matched =>
      simp only [Prod.mk.injEq, Except.ok.injEq, Option.some.injEq] at found
      obtain ⟨rfl, -⟩ := found
      obtain ⟨candidate, listed, answers⟩ := List.exists_of_findSome?_eq_some matched
      obtain rfl : candidate = route := by
        unfold captures? at answers
        split at answers
        · obtain ⟨_, -, pair_eq⟩ := Option.map_eq_some_iff.mp answers
          exact congrArg Prod.fst pair_eq
        · contradiction
      refine ⟨routes candidate listed, ?_⟩
      intro interceptor around
      rcases List.mem_append.mp around with all | some
      · exact interceptors interceptor all
      · obtain ⟨entry, kept, rfl⟩ := List.mem_map.mp some
        exact mapped entry (List.mem_filter.mp kept).1

/-- The mapping of URLs finds the handlers and interceptors that it was given. -/
theorem UrlMapping.usesOperations {mapping : UrlMapping σ}
    (entries : ∀ entry ∈ mapping.entries, entry.2.UsesOperations)
    (defaultHandler : ∀ handler, mapping.defaultHandler = some handler →
      handler.UsesOperations)
    (interceptors : ∀ interceptor ∈ mapping.interceptors, interceptor.UsesOperations) :
    mapping.toMapping.UsesOperations := by
  intro visit chain after found
  simp only [toMapping, find] at found
  split at found
  · simp at found
  · next shown matched =>
      simp only [Prod.mk.injEq, Except.ok.injEq, Option.some.injEq] at found
      obtain ⟨rfl, -⟩ := found
      refine ⟨?_, interceptors⟩
      unfold match? at matched
      split at matched
      · next looked_up found_eq =>
          cases matched
          obtain ⟨⟨pattern, handler⟩, listed, answers⟩ :=
            List.exists_of_findSome?_eq_some found_eq
          obtain ⟨within, -, rfl⟩ := Option.map_eq_some_iff.mp answers
          exact entries _ listed
      · obtain ⟨handler, handler_eq, rfl⟩ := Option.map_eq_some_iff.mp matched
        exact defaultHandler handler handler_eq

theorem MappingRegistry.usesOperations_of_resolve {registry : MappingRegistry σ}
    (uses : ∀ mapping ∈ registry.mappings, mapping.UsesOperations) {visit after : Visit σ}
    {chain : HandlerChain σ} (found : registry.resolve visit = (.ok (some chain), after)) :
    chain.UsesOperations := by
  obtain ⟨count, consulted⟩ := consulted_firstFound registry.mappings visit
  generalize result_eq : firstFound registry.mappings visit = result at consulted
  cases consulted with
  | nothing passed =>
      have nothing_found := result_eq.symm.trans found
      simp at nothing_found
  | @answered front later mapping before order passed answers =>
      have listed : mapping ∈ registry.mappings := by simp [order]
      exact uses mapping listed before chain after (result_eq.symm.trans found)

/-- Changing the locale sets a cookie at most, so a hook that changes it uses the operations. -/
theorem Request.written_changeLocale {request changed : Request} {response left : Response}
    (written : response.Written) {locale : Option Locale}
    (done : request.changeLocale (some response) locale = .ok (changed, some left)) :
    left.Written := by
  rcases resolver_eq : request.resolver? with _ | (_ | _ | resolver) <;>
    simp only [changeLocale, resolver_eq, LocaleResolver.change, reduceCtorEq] at done
  cases kept : resolver.cookieFor locale with
  | error failure => simp [CookieResolver.set, kept] at done
  | ok cookie =>
      simp only [CookieResolver.set, kept, Option.map_some, Except.ok.injEq, Prod.mk.injEq,
        Option.some.injEq] at done
      obtain ⟨-, rfl⟩ := done
      exact written.addCookie cookie

/-! ## The steps of answering a request -/

namespace Interceptor

variable {interceptors : List (Interceptor σ)}

theorem written_enterAll (uses : ∀ interceptor ∈ interceptors, interceptor.UsesOperations)
    (handler : Handler σ) {x : Exchange σ} (written : x.response.Written) :
    (enterAll handler interceptors x).2.response.Written := by
  induction interceptors generalizing x with
  | nil => exact written
  | cons interceptor rest ih =>
      obtain ⟨first_uses, rest_use⟩ := List.forall_mem_cons.mp uses
      have entered := first_uses.preHandle handler written
      unfold enterAll
      split
      · next after entered_eq =>
          rw [entered_eq] at entered
          exact ih rest_use entered
      · next result after _ entered_eq =>
          rw [entered_eq] at entered
          exact entered

theorem written_postAll (uses : ∀ interceptor ∈ interceptors, interceptor.UsesOperations)
    (handler : Handler σ) (view : Option ModelAndView) {x : Exchange σ}
    (written : x.response.Written) :
    (postAll handler interceptors view x).2.2.response.Written := by
  induction interceptors generalizing view x with
  | nil => exact written
  | cons interceptor rest ih =>
      obtain ⟨first_uses, rest_use⟩ := List.forall_mem_cons.mp uses
      have posted := first_uses.postHandle handler view written
      unfold postAll
      split
      · next changed after posted_eq =>
          rw [posted_eq] at posted
          exact ih rest_use _ posted
      · next failure changed after posted_eq =>
          rw [posted_eq] at posted
          exact posted

theorem written_completeAll (uses : ∀ interceptor ∈ interceptors, interceptor.UsesOperations)
    (handler : Handler σ) (failure : Option Failure) {x : Exchange σ}
    (written : x.response.Written) :
    (completeAll handler failure interceptors x).2.response.Written := by
  induction interceptors generalizing x with
  | nil => exact written
  | cons interceptor rest ih =>
      obtain ⟨first_uses, rest_use⟩ := List.forall_mem_cons.mp uses
      have completed := ih rest_use (first_uses.afterCompletion handler failure written)
      simp only [completeAll]
      split <;> exact completed

end Interceptor

namespace Adapter

theorem usesOperations_routes : (routes : Adapter σ).UsesOperations := by
  rintro ⟨number, kind⟩ x uses written
  cases kind with
  | route route =>
      simp only [routes]
      split
      · exact written
      · next produced world respond_eq =>
          have produced_written : produced.Written :=
            uses x.toVisit produced (congrArg Prod.fst respond_eq)
          exact produced_written.replacing written
  | controller controller => exact written
  | writer writer => exact written
  | custom name payload => exact written

theorem usesOperations_controllers : (controllers : Adapter σ).UsesOperations := by
  rintro ⟨number, kind⟩ x uses written
  cases kind with
  | route route => exact written
  | controller controller => exact uses x written
  | writer writer => exact written
  | custom name payload => exact written

theorem usesOperations_writers : (writers : Adapter σ).UsesOperations := by
  rintro ⟨number, kind⟩ x uses written
  cases kind with
  | route route => exact written
  | controller controller => exact written
  | writer writer =>
      have handled := uses x written
      simp only [writers]
      split
      · next failure after handle_eq =>
          rw [handle_eq] at handled
          exact handled
      · next after handle_eq =>
          rw [handle_eq] at handled
          exact handled
  | custom name payload => exact written

theorem usesOperations_of_mem_defaults {adapter : Adapter σ} (listed : adapter ∈ defaults) :
    adapter.UsesOperations := by
  simp only [defaults, List.mem_cons, List.not_mem_nil, or_false] at listed
  rcases listed with rfl | rfl | rfl
  · exact usesOperations_routes
  · exact usesOperations_controllers
  · exact usesOperations_writers

end Adapter

namespace HandlerChain

variable {chain : HandlerChain σ} {adapter : Adapter σ} {x : Exchange σ}

theorem written_runHandler (uses : chain.UsesOperations) (adapter_uses : adapter.UsesOperations)
    (written : x.response.Written) : (chain.runHandler adapter x).2.response.Written := by
  have handled := adapter_uses chain.handler x uses.handler written
  rcases handle_eq : adapter.handle chain.handler x with ⟨failure | view, after⟩
  · rw [handle_eq] at handled
    simp only [runHandler, handle_eq]
    exact handled
  · rw [handle_eq] at handled
    have reversed_use : ∀ interceptor ∈ chain.interceptors.reverse,
        interceptor.UsesOperations := by
      intro interceptor listed
      exact uses.interceptors interceptor (List.mem_reverse.mp listed)
    have posted := Interceptor.written_postAll reversed_use chain.handler
      (view.map (·.withDefaultView (defaultViewName after.request.path))) handled
    simp only [runHandler, handle_eq]
    split
    · next post_eq =>
        rw [post_eq] at posted
        exact posted
    · next post_eq =>
        rw [post_eq] at posted
        exact posted

theorem written_leave (uses : chain.UsesOperations) (entered : Nat) (failure : Option Failure)
    (written : x.response.Written) : (chain.leave entered failure x).2.response.Written := by
  have entered_use : ∀ interceptor ∈ (chain.interceptors.take entered).reverse,
      interceptor.UsesOperations := by
    intro interceptor listed
    exact uses.interceptors interceptor (List.mem_of_mem_take (List.mem_reverse.mp listed))
  exact Interceptor.written_completeAll entered_use chain.handler failure written

theorem written_succeed (uses : chain.UsesOperations) (entered : Nat) (ending : Ending)
    (written : x.response.Written) : (chain.succeed entered ending x).2.response.Written := by
  have left := written_leave uses entered none written
  rcases leave_eq : chain.leave entered none x with ⟨failure | _, after⟩ <;>
    rw [leave_eq] at left <;> simp only [succeed, leave_eq] <;> exact left

theorem written_run (uses : chain.UsesOperations) (adapter_uses : adapter.UsesOperations)
    (written : x.response.Written) : (chain.run adapter x).2.response.Written := by
  have entered := Interceptor.written_enterAll uses.interceptors chain.handler written
  unfold run
  -- Whatever the first hooks say, the last hooks of the entered interceptors run in the end.
  split
  · next enter_eq =>
      rw [enter_eq] at entered
      exact written_leave uses _ _ entered
  · next enter_eq =>
      rw [enter_eq] at entered
      exact written_succeed uses _ _ entered
  · next enter_eq =>
      rw [enter_eq] at entered
      have handled := written_runHandler uses adapter_uses entered
      split
      · next handle_eq =>
          rw [handle_eq] at handled
          exact written_leave uses _ _ handled
      · next handle_eq =>
          rw [handle_eq] at handled
          exact written_succeed uses _ _ handled

end HandlerChain

namespace Dispatcher

variable {dispatcher : Dispatcher σ}

theorem usesOperations_of_find (uses : dispatcher.UsesOperations) {handler : Handler σ}
    {adapter : Adapter σ} (supported : Adapter.find dispatcher.adapters handler = .ok adapter) :
    adapter.UsesOperations := by
  have listed : adapter ∈ dispatcher.adapters := Adapter.mem_of_find supported
  unfold adapters at listed
  split at listed
  · exact Adapter.usesOperations_of_mem_defaults listed
  · exact uses.adapters adapter listed

theorem written_startResponse {response : Response} (written : response.Written)
    (lastModified : Option Instant) : (startResponse response lastModified).Written := by
  cases lastModified with
  | none => exact written
  | some instant => exact written.setHeader _ _

theorem written_answer {chain : HandlerChain σ} {adapter : Adapter σ}
    (uses : chain.UsesOperations) (adapter_uses : adapter.UsesOperations) {visit : Visit σ}
    {outcome : Outcome} (answered : (answer chain adapter visit).1 = .ok outcome) :
    outcome.Written := by
  simp only [answer] at answered
  split at answered
  · cases answered
    rintro response ⟨⟩
    exact written_startResponse (.new 304) _
  · have started : (startResponse .ok (lastModified? chain adapter visit.request)).Written :=
      written_startResponse (.new 200) _
    have run_written := HandlerChain.written_run (x := ⟨visit, startResponse .ok _⟩) uses
      adapter_uses started
    split at answered
    · contradiction
    all_goals
      next run_eq =>
        cases answered
        rintro response ⟨⟩
        rw [run_eq] at run_written
        exact run_written

theorem written_dispatchResolved (uses : dispatcher.UsesOperations) {visit : Visit σ}
    {outcome : Outcome} (ended : (dispatcher.dispatchResolved visit).1 = .ok outcome) :
    outcome.Written := by
  unfold dispatchResolved at ended
  split at ended
  · contradiction
  · split at ended
    · contradiction
    · cases ended
      rintro response ⟨⟩
  · next chain after found =>
      have chain_uses := MappingRegistry.usesOperations_of_resolve uses.mappings found
      split at ended
      · contradiction
      · next adapter supported =>
          exact written_answer chain_uses (usesOperations_of_find uses supported) ended

theorem written_dispatch (uses : dispatcher.UsesOperations) {visit : Visit σ}
    {outcome : Outcome} (ended : (dispatcher.dispatch visit).1 = .ok outcome) :
    outcome.Written := by
  simp only [dispatch] at ended
  split at ended
  · contradiction
  · exact written_dispatchResolved uses ended

/-- A response that is sent is made by the operations on responses. -/
theorem written_handle (uses : dispatcher.UsesOperations) (visit : Visit σ) :
    (dispatcher.handle visit).1.Written := by
  unfold handle
  split
  · next outcome after ended =>
      exact (written_dispatch uses (congrArg Prod.fst ended)).toResponse
  · exact Response.written_ofFailure _

/-- If handlers and hooks touch responses only by the operations on responses, no header and no
cookie of a response that is sent holds a control character. -/
theorem controlFree_handle (uses : dispatcher.UsesOperations) (visit : Visit σ) :
    (∀ header ∈ (dispatcher.handle visit).1.headers.entries, Text.ControlFree header.2) ∧
      ∀ line ∈ (dispatcher.handle visit).1.setCookieHeaders, Text.ControlFree line := by
  have written := written_handle uses visit
  constructor
  · intro header listed
    exact isFieldValue_iff.mp (written.isFieldValue_header header listed)
  · intro line listed
    exact isFieldValue_iff.mp (Response.isFieldValue_of_mem_setCookieHeaders listed)

/-- An interceptor that changes the locale. -/
def changesLocale : Interceptor Unit where
  name := "locale"
  preHandle := fun _ x =>
    match x.request.changeLocale (some x.response) (some .fallback) with
    | .ok (request, some response) => (.ok true, { x with request, response })
    | _ => (.ok true, x)

/-- A controller that sets what would break the lines of headers, and leaves the response to a view
without a name. -/
def breaksLines : Controller Unit where
  name := "page"
  handle x :=
    let response := x.response.setHeader "X-Note" "a\r\nX-More: b"
    let cookie : Cookie := {
      name := "id"
      value := "1"
      path := some "/\r\n\r\nbody"
      domain := some "a\n.example"
      isName_name := by decide
      isValue_value := by decide }
    (.ok (some {}), { x with response := response.addCookie cookie })

/-- A route that answers with a header that would break lines. -/
def redirects : Route Unit where
  number := 1
  method := .get
  pattern := {
    source := "^/old$"
    expression := .sequence [.look .textStart, .literal ['/', 'o', 'l', 'd'], .look .textEnd] }
  respond := fun visit => (.ok (Response.ok.setHeader "Location" "/new\r\nX-More: b"), visit.world)

/-- A dispatcher of the route and of the controller, whose locale cookie has a path that would break
lines too. -/
def breaking : Dispatcher Unit where
  registry :=
    let routes : RouteMapping Unit := { routes := [redirects], interceptors := [changesLocale] }
    let pages : UrlMapping Unit :=
      { defaultHandler := some ⟨0, .controller breaksLines⟩, interceptors := [changesLocale] }
    (MappingRegistry.register {} routes.toMapping).register pages.toMapping
  localeResolver := .cookie { path := "/\r\nX-More: b" }

/-- A visit to it. -/
def breakingVisit (path : String) : Visit Unit where
  request := { method := .get, path }
  world := { app := () }

theorem usesOperations_changesLocale : changesLocale.UsesOperations where
  preHandle := by
    intro handler x written
    simp only [changesLocale]
    split
    · next done => exact Request.written_changeLocale written done
    · exact written
  postHandle := by
    intro handler view x written
    exact written
  afterCompletion := by
    intro handler failure x written
    exact written

theorem usesOperations_breaking : breaking.UsesOperations where
  mappings := by
    have around : ∀ interceptor ∈ [changesLocale], interceptor.UsesOperations := by
      intro interceptor listed
      obtain rfl := List.mem_singleton.mp listed
      exact usesOperations_changesLocale
    intro mapping listed
    rcases List.mem_pair.mp listed with rfl | rfl
    · refine RouteMapping.usesOperations ?_ around (by simp)
      intro route route_listed
      obtain rfl := List.mem_singleton.mp route_listed
      rintro visit produced ⟨⟩
      exact (Response.Written.new 200).setHeader _ _
    · refine UrlMapping.usesOperations (by simp) ?_ around
      rintro handler ⟨⟩ x written
      exact (written.setHeader _ _).addCookie _
  adapters := by
    intro adapter listed
    contradiction

/-- Of what would break lines, nothing is sent: neither by the controller and the view, whose name
comes from the path, nor by the route. -/
theorem controlFree_handle_breaking :
    let page := (breaking.handle (breakingVisit "/a\r\nb")).1
    let old := (breaking.handle (breakingVisit "/old")).1
    page.headers.entries = [("Content-Type", "application/json")] ∧
      page.setCookieHeaders = ["LOCALE=en; SameSite=Lax", "id=1"] ∧
      old.headers.entries = [] ∧ old.setCookieHeaders = ["LOCALE=en; SameSite=Lax"] ∧
      breaking.UsesOperations ∧
      (∀ header ∈ page.headers.entries, Text.ControlFree header.2) ∧
      ∀ line ∈ page.setCookieHeaders, Text.ControlFree line := by
  intro page old
  refine ⟨by decide +kernel, by decide +kernel, by decide +kernel, by decide +kernel,
    usesOperations_breaking, ?_⟩
  exact controlFree_handle usesOperations_breaking (breakingVisit "/a\r\nb")

end Dispatcher
end WebDispatch
