import WebDispatch.Proofs.Dispatch.Moments
import WebDispatch.Proofs.Dispatch.Verdict
import WebDispatch.Proofs.Http.FieldValues

/-!
# The cookies of a dispatch

Setting a cookie replaces the one of its name, so handlers and hooks that write cookies in no other
way never see two of one name, at any moment of a run: `Dispatcher.distinctCookies_dispatch`.  The
answer of a route takes the place of the response under construction, but not of its cookies: those
of other names are kept behind the cookies of the route.
-/

namespace WebDispatch

variable {σ : Type}

namespace Response

/-- No two cookies have the same name. -/
def HasDistinctCookies (response : Response) : Prop := (response.cookies.map Cookie.name).Nodup

/-- From one response to another, cookies are written in no other way than by setting them, on the
response that was there or on a new one. -/
inductive SetsCookies (before : Response) : Response → Prop where
  /-- The cookies stay as they are. -/
  | kept {after : Response} (same : after.cookies = before.cookies) : SetsCookies before after
  /-- A new response takes the place of the one that was there. -/
  | renewed {after : Response} (none_set : after.cookies = []) : SetsCookies before after
  /-- A cookie is set last. -/
  | added {middle after : Response} (earlier : SetsCookies before middle) (cookie : Cookie)
      (last_set : after.cookies = (middle.addCookie cookie).cookies) : SetsCookies before after

namespace SetsCookies

variable {first middle last : Response}

theorem trans (one : first.SetsCookies middle) (two : middle.SetsCookies last) :
    first.SetsCookies last := by
  induction two with
  | kept same =>
      cases one with
      | kept same_before => exact .kept (same.trans same_before)
      | renewed none_set => exact .renewed (same.trans none_set)
      | added earlier cookie last_set => exact .added earlier cookie (same.trans last_set)
  | renewed none_set => exact .renewed none_set
  | added _ cookie last_set ih => exact .added ih cookie last_set

theorem hasDistinctCookies (sets : first.SetsCookies last) (distinct : first.HasDistinctCookies) :
    last.HasDistinctCookies := by
  induction sets with
  | kept same => simpa only [HasDistinctCookies, same] using distinct
  | renewed none_set => simp [HasDistinctCookies, none_set]
  | added _ cookie last_set ih =>
      rw [HasDistinctCookies, last_set]
      exact nodup_names_addCookie ih cookie

/-- Adding the cookies whose names are not among those of a response sets them. -/
theorem completeCookies (sets : first.SetsCookies middle) (cookies : List Cookie) :
    first.SetsCookies (middle.completeCookies cookies) := by
  unfold Response.completeCookies
  induction cookies generalizing middle with
  | nil => exact sets
  | cons cookie rest ih =>
      rw [List.foldl_cons]
      apply ih
      split
      · exact sets
      · next none_same =>
          rw [← addCookie_of_new (by simpa using none_same)]
          exact .added sets cookie rfl

/-- A response whose cookies were set on a new one may take the place of any other. -/
theorem replacing {produced : Response} (sets : ok.SetsCookies produced) (earlier : Response) :
    earlier.SetsCookies (produced.replacing earlier) := by
  have renewed : earlier.SetsCookies produced := (renewed rfl : earlier.SetsCookies ok).trans sets
  exact (renewed.completeCookies earlier.cookies).trans (.kept (cookies_completeHeaders _ _))

end SetsCookies

/-- Of cookies of distinct names, those are added whose names no cookie of the response has. -/
theorem cookies_completeCookies (response : Response) {cookies : List Cookie}
    (distinct : (cookies.map Cookie.name).Nodup) :
    (response.completeCookies cookies).cookies =
      response.cookies ++
        cookies.filter fun cookie => !response.cookies.any (·.name == cookie.name) := by
  unfold completeCookies
  induction cookies generalizing response with
  | nil => simp
  | cons cookie rest ih =>
      obtain ⟨outside, rest_distinct⟩ := List.nodup_cons.mp distinct
      rw [List.foldl_cons, ih _ rest_distinct]
      by_cases listed : response.cookies.any (·.name == cookie.name) = true
      · rw [if_pos listed, List.filter_cons_of_neg (by simp [listed])]
      · -- No later cookie has the name of this one, so adding it holds none of them back.
        have later_same : ∀ later ∈ rest,
            (!(response.cookies ++ [cookie]).any (·.name == later.name)) =
              !response.cookies.any (·.name == later.name) := by
          intro later later_listed
          have apart : (cookie.name == later.name) = false := by
            rw [beq_eq_false_iff_ne]
            exact fun same => outside (same ▸ List.mem_map_of_mem later_listed)
          simp [apart]
        rw [if_neg listed, List.filter_cons_of_pos (by simpa using listed),
          List.filter_congr later_same, List.append_assoc, List.singleton_append]

theorem cookies_replacing (produced : Response) {earlier : Response}
    (distinct : earlier.HasDistinctCookies) :
    (produced.replacing earlier).cookies =
      produced.cookies ++
        earlier.cookies.filter fun cookie => !produced.cookies.any (·.name == cookie.name) :=
  (cookies_completeHeaders _ _).trans (cookies_completeCookies produced distinct)

theorem hasDistinctCookies_of_cookies_eq {response : Response} (none_set : response.cookies = []) :
    response.HasDistinctCookies := by
  simp [HasDistinctCookies, none_set]

end Response

/-- Changing the locale sets a cookie at most. -/
theorem Request.setsCookies_changeLocale {request changed : Request} {response left : Response}
    {locale : Option Locale}
    (done : request.changeLocale (some response) locale = .ok (changed, some left)) :
    response.SetsCookies left := by
  rcases resolver_eq : request.resolver? with _ | (_ | _ | resolver) <;>
    simp only [changeLocale, resolver_eq, LocaleResolver.change, reduceCtorEq] at done
  cases kept : resolver.cookieFor locale with
  | error failure => simp [CookieResolver.set, kept] at done
  | ok cookie =>
      simp only [CookieResolver.set, kept, Option.map_some, Except.ok.injEq, Prod.mk.injEq,
        Option.some.injEq] at done
      obtain ⟨-, rfl⟩ := done
      exact .added (.kept rfl) cookie rfl

/-! ## Handlers and hooks that set cookies -/

/-- The hooks of an interceptor write cookies by setting them only. -/
structure Interceptor.SetsCookies (interceptor : Interceptor σ) : Prop where
  preHandle (handler : Handler σ) (x : Exchange σ) :
    x.response.SetsCookies (interceptor.preHandle handler x).2.response
  postHandle (handler : Handler σ) (view : Option ModelAndView) (x : Exchange σ) :
    x.response.SetsCookies (interceptor.postHandle handler view x).2.2.response
  afterCompletion (handler : Handler σ) (failure : Option Failure) (x : Exchange σ) :
    x.response.SetsCookies (interceptor.afterCompletion handler failure x).2.response

/-- A handler writes cookies by setting them only; a route sets them on a new response. -/
def Handler.SetsCookies (handler : Handler σ) : Prop :=
  match handler.kind with
  | .route route =>
      ∀ visit produced, (route.respond visit).1 = .ok produced → Response.ok.SetsCookies produced
  | .controller controller =>
      ∀ x : Exchange σ, x.response.SetsCookies (controller.handle x).2.response
  | .writer writer => ∀ x : Exchange σ, x.response.SetsCookies (writer.handle x).2.response
  | .custom _ _ => True

/-- An adapter writes cookies by setting them only when it calls a handler that does so. -/
def Adapter.SetsCookies (adapter : Adapter σ) : Prop :=
  ∀ (handler : Handler σ) (x : Exchange σ), handler.SetsCookies →
    x.response.SetsCookies (adapter.handle handler x).2.response

/-- The handler and the interceptors of a chain write cookies by setting them only. -/
structure HandlerChain.SetsCookies (chain : HandlerChain σ) : Prop where
  handler : chain.handler.SetsCookies
  interceptors : ∀ interceptor ∈ chain.interceptors, interceptor.SetsCookies

/-- The chains that a dispatcher may run, and its adapters, write cookies by setting them only. -/
structure Dispatcher.SetsCookies (dispatcher : Dispatcher σ) : Prop where
  chains : ∀ visit chain after, dispatcher.resolve visit = (.ok (some chain), after) →
    chain.SetsCookies
  adapters : ∀ adapter ∈ dispatcher.registeredAdapters, adapter.SetsCookies

namespace Adapter

theorem setsCookies_routes : (routes : Adapter σ).SetsCookies := by
  rintro ⟨number, kind⟩ x sets
  cases kind with
  | route route =>
      simp only [routes]
      split
      · exact .kept rfl
      · next produced world respond_eq =>
          have produced_sets : Response.ok.SetsCookies produced :=
            sets x.toVisit produced (congrArg Prod.fst respond_eq)
          exact produced_sets.replacing x.response
  | controller controller => exact .kept rfl
  | writer writer => exact .kept rfl
  | custom name payload => exact .kept rfl

theorem setsCookies_controllers : (controllers : Adapter σ).SetsCookies := by
  rintro ⟨number, kind⟩ x sets
  cases kind with
  | route route => exact .kept rfl
  | controller controller => exact sets x
  | writer writer => exact .kept rfl
  | custom name payload => exact .kept rfl

theorem setsCookies_writers : (writers : Adapter σ).SetsCookies := by
  rintro ⟨number, kind⟩ x sets
  cases kind with
  | route route => exact .kept rfl
  | controller controller => exact .kept rfl
  | writer writer =>
      have handled := sets x
      simp only [writers]
      rcases handle_eq : writer.handle x with ⟨failure | _, y⟩ <;> rw [handle_eq] at handled <;>
        exact handled
  | custom name payload => exact .kept rfl

end Adapter

/-- A call of a hook or of the handler writes cookies by setting them only. -/
theorem HandlerChain.Calls.setsCookies {chain : HandlerChain σ} {adapter : Adapter σ}
    {x y : Exchange σ} (call : chain.Calls adapter x y) (sets : chain.SetsCookies)
    (adapter_sets : adapter.SetsCookies) : x.response.SetsCookies y.response := by
  cases call with
  | pre listed => exact (sets.interceptors _ listed).preHandle _ _
  | handle => exact adapter_sets _ _ sets.handler
  | post listed => exact (sets.interceptors _ listed).postHandle _ _ _
  | after listed => exact (sets.interceptors _ listed).afterCompletion _ _ _

namespace HandlerChain

variable {chain : HandlerChain σ} {adapter : Adapter σ} {x y : Exchange σ}

/-- At no moment of calls that follow each other are there two cookies of one name. -/
theorem Passes.hasDistinctCookies {moments : List (Exchange σ)}
    (passes : chain.Passes adapter x moments y) (sets : chain.SetsCookies)
    (adapter_sets : adapter.SetsCookies) (start : x.response.HasDistinctCookies) :
    ∀ moment ∈ x :: moments, moment.response.HasDistinctCookies :=
  passes.forall_mem
    (fun call distinct => (call.setsCookies sets adapter_sets).hasDistinctCookies distinct) start

/-- The exchange that a handler is called in, and the one that it leaves, are moments of the run. -/
theorem mem_moments_of_enterAll {entered : Nat}
    (passed : Interceptor.enterAll chain.handler chain.interceptors x = ((.ok true, entered), y)) :
    y ∈ x :: chain.moments adapter x ∧
      (adapter.handle chain.handler y).2 ∈ chain.moments adapter x := by
  have entering := chain.passes_enterMoments adapter (fun _ listed => listed) x
  have last := entering.last_mem
  rw [passed] at last
  constructor
  · rw [moments]
    rcases List.mem_cons.mp last with rfl | listed
    · exact List.mem_cons_self
    · exact List.mem_cons_of_mem _ (List.mem_append_left _ listed)
  · have handled : (adapter.handle chain.handler y).2 ∈ chain.handlerMoments adapter y := by
      unfold handlerMoments
      split <;> simp [*]
    simp only [moments, passed]
    exact List.mem_append_right _ (List.mem_append_left _ handled)

end HandlerChain

namespace Dispatcher

variable {dispatcher : Dispatcher σ} {visit : Visit σ}

theorem setsCookies_of_find (sets : dispatcher.SetsCookies) {handler : Handler σ}
    {adapter : Adapter σ} (supported : Adapter.find dispatcher.adapters handler = .ok adapter) :
    adapter.SetsCookies := by
  have listed : adapter ∈ dispatcher.adapters := Adapter.mem_of_find supported
  unfold adapters at listed
  split at listed
  · simp only [Adapter.defaults, List.mem_cons, List.not_mem_nil, or_false] at listed
    rcases listed with rfl | rfl | rfl
    · exact Adapter.setsCookies_routes
    · exact Adapter.setsCookies_controllers
    · exact Adapter.setsCookies_writers
  · exact sets.adapters adapter listed

theorem cookies_startResponse (response : Response) (lastModified : Option Instant) :
    (startResponse response lastModified).cookies = response.cookies := by
  cases lastModified with
  | none => rfl
  | some instant =>
      rw [startResponse, Response.setHeader]
      split <;> rfl

/-- At no moment of the run of a dispatch are there two cookies of one name. -/
theorem hasDistinctCookies_of_reaches (sets : dispatcher.SetsCookies) {chain : HandlerChain σ}
    {adapter : Adapter σ} {x : Exchange σ} (reaches : dispatcher.Reaches visit chain adapter x) :
    ∀ moment ∈ x :: chain.moments adapter x, moment.response.HasDistinctCookies := by
  cases reaches with
  | @intro guard storage _ after _ parsed found supported stale =>
      have start := Response.hasDistinctCookies_of_cookies_eq
        (cookies_startResponse .ok (lastModified? chain adapter after.request))
      exact (chain.passes_moments adapter _).hasDistinctCookies (sets.chains _ _ _ found)
        (setsCookies_of_find sets supported) start

/-- Nor are there in the response of its outcome. -/
theorem hasDistinctCookies_outcome (sets : dispatcher.SetsCookies) {outcome : Outcome}
    (ended : (dispatcher.dispatch visit).1 = .ok outcome) {response : Response}
    (written : outcome.response? = some response) : response.HasDistinctCookies := by
  rcases dispatcher.stopsEarly_or_reaches visit with ⟨app, stops⟩ | ⟨chain, adapter, x, reaches⟩
  · rcases outcome_of_stopsEarly stops ended with rfl | ⟨lastModified, rfl⟩
    · contradiction
    · cases written
      exact Response.hasDistinctCookies_of_cookies_eq (cookies_startResponse _ lastModified)
  · have last := hasDistinctCookies_of_reaches sets reaches _
      (chain.passes_moments adapter x).last_mem
    rw [dispatch_of_reaches reaches] at ended
    rcases ending_eq : (chain.run adapter x).1 with failure | (_ | _ | view) <;>
      simp only [ending_eq, Except.map, Outcome.ofEnding, reduceCtorEq, Except.ok.injEq] at ended
    all_goals
      subst ended
      cases written
      exact last

theorem hasDistinctCookies_handle (sets : dispatcher.SetsCookies) (visit : Visit σ) :
    (dispatcher.handle visit).1.HasDistinctCookies := by
  unfold handle
  split
  · next outcome after ended =>
      have written : ∀ response, outcome.response? = some response →
          response.HasDistinctCookies :=
        fun _ => hasDistinctCookies_outcome sets (congrArg Prod.fst ended)
      cases outcome with
      | view shown response => exact written response rfl
      | completed response => exact written response rfl
      | shortCircuited response => exact written response rfl
      | notModified response => exact written response rfl
      | notFound => exact Response.hasDistinctCookies_of_cookies_eq rfl
  · next failure after ended =>
      apply Response.hasDistinctCookies_of_cookies_eq
      simp only [Response.ofFailure, Response.setHeader]
      split <;> rfl

/-- If handlers and hooks write cookies by setting them only, then at no moment of a dispatch, nor in
its outcome, nor in what is sent, are there two cookies of one name.  When a route has answered, its
cookies are there in order, and behind them in order those from before with other names, so that
under each name that was set before there still is a cookie. -/
theorem distinctCookies_dispatch (dispatcher : Dispatcher σ) (sets : dispatcher.SetsCookies)
    (visit : Visit σ) :
    (∀ chain adapter x, dispatcher.Reaches visit chain adapter x →
      chain.Passes adapter x (chain.moments adapter x) (chain.run adapter x).2 ∧
        ∀ moment ∈ x :: chain.moments adapter x, moment.response.HasDistinctCookies) ∧
      (∀ chain x, dispatcher.Reaches visit chain .routes x → ∀ entered y,
        Interceptor.enterAll chain.handler chain.interceptors x = ((.ok true, entered), y) →
        ∀ route produced world, chain.handler.kind = .route route →
          route.respond y.toVisit = (.ok produced, world) →
          ∃ after ∈ chain.moments .routes x,
            after = (Adapter.routes.handle chain.handler y).2 ∧
              after.response.cookies = produced.cookies ++ y.response.cookies.filter
                (fun cookie => !produced.cookies.any (·.name == cookie.name)) ∧
              ∀ cookie ∈ y.response.cookies, cookie ∈ after.response.cookies ∨
                ∃ own ∈ produced.cookies, own.name = cookie.name) ∧
      (∀ outcome response, (dispatcher.dispatch visit).1 = .ok outcome →
        outcome.response? = some response → response.HasDistinctCookies) ∧
      (dispatcher.handle visit).1.HasDistinctCookies := by
  refine ⟨?_, ?_, ?_, hasDistinctCookies_handle sets visit⟩
  · intro chain adapter x reaches
    exact ⟨chain.passes_moments adapter x, hasDistinctCookies_of_reaches sets reaches⟩
  · intro chain x reaches entered y passed route produced world is_route responds
    obtain ⟨moment, after_moment⟩ := HandlerChain.mem_moments_of_enterAll passed
    have distinct := hasDistinctCookies_of_reaches sets reaches y moment
    have cookies_eq : (Adapter.routes.handle chain.handler y).2.response.cookies =
        produced.cookies ++ y.response.cookies.filter
          (fun cookie => !produced.cookies.any (·.name == cookie.name)) := by
      simp only [Adapter.routes, is_route, responds]
      exact Response.cookies_replacing produced distinct
    refine ⟨_, after_moment, rfl, cookies_eq, ?_⟩
    intro cookie listed
    rw [cookies_eq, List.mem_append, List.mem_filter]
    by_cases own : produced.cookies.any (·.name == cookie.name) = true
    · obtain ⟨other, other_listed, same⟩ := List.any_eq_true.mp own
      exact .inr ⟨other, other_listed, by simpa using same⟩
    · exact .inl (.inr ⟨listed, by simpa using own⟩)
  · intro outcome response ended written
    exact hasDistinctCookies_outcome sets ended written

/-- A cookie with a light theme. -/
def lightTheme : Cookie where
  name := "theme"
  value := "light"
  isName_name := by decide
  isValue_value := by decide

/-- A cookie with a dark theme. -/
def darkTheme : Cookie where
  name := "theme"
  value := "dark"
  isName_name := by decide
  isValue_value := by decide

/-- An interceptor that keeps the locale in a cookie, and the theme in another. -/
def remembers : Interceptor Unit where
  name := "choices"
  preHandle := fun _ x =>
    match x.request.changeLocale (some x.response) (some .fallback) with
    | .ok (request, some response) =>
        (.ok true, { x with request, response := response.addCookie lightTheme })
    | _ => (.ok true, x)

/-- A route that sets the theme too. -/
def darkens : Route Unit where
  number := 1
  method := .get
  pattern := { source := "^.*$", expression := .sequence [.look .textStart, .look .textEnd] }
  respond := fun visit => (.ok (Response.ok.addCookie darkTheme), visit.world)

/-- The interceptor around the route. -/
def darkening : HandlerChain Unit :=
  { handler := Handler.ofRoute darkens, interceptors := [remembers] }

/-- A dispatcher that answers every request by the route. -/
def themed : Dispatcher Unit where
  registry := ⟨[⟨none, {
    name := "all"
    find := fun visit => (.ok (some darkening), visit) }⟩]⟩
  localeResolver := .cookie {}

/-- A visit to it. -/
def themedVisit : Visit Unit where
  request := { method := .get, path := "/" }
  world := { app := () }

theorem setsCookies_remembers : remembers.SetsCookies where
  preHandle := by
    intro handler x
    simp only [remembers]
    split
    · next done => exact .added (Request.setsCookies_changeLocale done) _ rfl
    · exact .kept rfl
  postHandle := fun _ _ _ => .kept rfl
  afterCompletion := fun _ _ _ => .kept rfl

theorem setsCookies_themed : themed.SetsCookies where
  chains := by
    rintro visit chain after ⟨⟩
    constructor
    · rintro start produced ⟨⟩
      exact .added (.kept rfl) _ rfl
    · intro interceptor listed
      obtain rfl := List.mem_singleton.mp listed
      exact setsCookies_remembers
  adapters := by
    intro adapter listed
    contradiction

/-- Of the themes the one of the route is sent, and the locale behind it. -/
theorem distinctCookies_dispatch_themed :
    themed.SetsCookies ∧ (themed.handle themedVisit).1.setCookieHeaders =
      ["theme=dark", "LOCALE=en; Path=/; SameSite=Lax"] ∧
      (themed.handle themedVisit).1.HasDistinctCookies :=
  ⟨setsCookies_themed, by decide +kernel,
    (distinctCookies_dispatch themed setsCookies_themed themedVisit).2.2.2⟩

end Dispatcher
end WebDispatch
