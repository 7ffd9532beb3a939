import WebDispatch.Handler.Route

/-!
# Routes that need a body

The function of a route that needs a body is called once for each request that carries a body of the
route's type, and is given that body.  Every other request is refused for its body, and nothing is
called: `BodyRoute.respond_recorded`.  Deferred functions make no difference.
-/

namespace WebDispatch

/-! ## Bodies that are carried -/

/-- Whether a content type names a kind of JSON: without its parameters and the blanks around it,
and in lower case, it is `application/json` or ends in `+json`. -/
def NamesJson (contentType : String) : Prop :=
  let named := Text.lower (Text.trimmed (String.ofList (Text.before ';' contentType.toList)))
  named = "application/json" ∨ ∃ front, named = front ++ "+json"

theorem isJsonContentType_iff (contentType : String) :
    isJsonContentType contentType = true ↔ NamesJson contentType := by
  have named_eq : (Text.lower (Text.trimmed
      (String.ofList (Text.before ';' contentType.toList)))).toList =
        (Text.trim Text.isBlank (Text.before ';' contentType.toList)).map Char.toLower := by
    simp [Text.lower, Text.trimmed]
  simp only [isJsonContentType, NamesJson, ← named_eq, Bool.or_eq_true, beq_iff_eq,
    List.isSuffixOf_iff_suffix, String.toList_inj]
  apply or_congr_right
  constructor
  · rintro ⟨front, front_eq⟩
    refine ⟨String.ofList front, ?_⟩
    rw [← String.toList_inj, String.toList_append, String.toList_ofList, front_eq]
  · rintro ⟨front, front_eq⟩
    exact ⟨front.toList, by rw [front_eq, String.toList_append]⟩

/-- Whether a request carries a body: a text of JSON that is not empty and stands for the body, and
a content type that says so. -/
structure Request.Carries {β : Type} (request : Request) (read : Json.Node → Option β)
    (body : β) : Prop where
  contentType : ∃ contentType, request.header? "content-type" = some contentType ∧
    NamesJson contentType
  text : ∃ bytes node, request.body = some bytes ∧ bytes ≠ [] ∧
    Json.Node.parse bytes = .ok node ∧ read node = some body

theorem Json.decode_eq_ok_iff {β : Type} {read : Json.Node → Option β} {bytes : List UInt8}
    {body : β} : Json.decode read bytes = .ok body ↔
      ∃ node, Json.Node.parse bytes = .ok node ∧ read node = some body := by
  unfold Json.decode
  cases Json.Node.parse bytes with
  | error fault => simp
  | ok node =>
      cases read_eq : read node with
      | none => simp [read_eq]
      | some value => simp [read_eq]

/-- A text that cannot be read is a fault of the body. -/
theorem Json.decode_eq_error {β : Type} {read : Json.Node → Option β} {bytes : List UInt8}
    {failure : Failure} (refused : Json.decode read bytes = .error failure) :
    ∃ fault, failure = .body fault := by
  unfold Json.decode at refused
  split at refused
  · exact ⟨_, (Except.error.inj refused).symm⟩
  · split at refused
    · exact ⟨_, (Except.error.inj refused).symm⟩
    · cases refused

namespace Request

variable {β : Type} {request : Request} {read : Json.Node → Option β}

theorem jsonBody_of_empty (empty : request.body.getD [] = []) :
    request.jsonBody read = .ok none := by
  rw [jsonBody, empty]
  rfl

theorem jsonBody_of_noContentType {bytes : List UInt8} (body_eq : request.body = some bytes)
    (nonempty : bytes ≠ []) (no_type : request.header? "content-type" = none) :
    request.jsonBody read = .error (.body .noContentType) := by
  simp [jsonBody, contentType?, body_eq, nonempty, no_type]

theorem jsonBody_of_contentType {bytes : List UInt8} (body_eq : request.body = some bytes)
    (nonempty : bytes ≠ []) {contentType : String}
    (type_eq : request.header? "content-type" = some contentType) :
    request.jsonBody read =
      if isJsonContentType contentType then (Json.decode read bytes).map some
      else .error (.body (.unsupportedType contentType)) := by
  simp [jsonBody, contentType?, json, body_eq, nonempty, type_eq]

/-- The body that is read is the one that the request carries. -/
theorem jsonBody_of_carries {body : β} (carries : request.Carries read body) :
    request.jsonBody read = .ok (some body) := by
  obtain ⟨⟨contentType, type_eq, names_json⟩, bytes, node, body_eq, nonempty, node_eq, read_eq⟩ :=
    carries
  rw [jsonBody_of_contentType body_eq nonempty type_eq,
    if_pos ((isJsonContentType_iff contentType).mpr names_json),
    Json.decode_eq_ok_iff.mpr ⟨node, node_eq, read_eq⟩]
  rfl

/-- Where no body is carried, there is nothing to read or a fault of the body. -/
theorem jsonBody_of_not_carries (carries_none : ∀ body, ¬ request.Carries read body) :
    request.jsonBody read = .ok none ∨ ∃ fault, request.jsonBody read = .error (.body fault) := by
  by_cases empty : request.body.getD [] = []
  · exact .inl (jsonBody_of_empty empty)
  right
  obtain ⟨bytes, body_eq, nonempty⟩ : ∃ bytes, request.body = some bytes ∧ bytes ≠ [] := by
    cases body_eq : request.body with
    | none => simp [body_eq] at empty
    | some bytes => exact ⟨bytes, rfl, by simpa [body_eq] using empty⟩
  cases type_eq : request.header? "content-type" with
  | none => exact ⟨_, jsonBody_of_noContentType body_eq nonempty type_eq⟩
  | some contentType =>
      rw [jsonBody_of_contentType body_eq nonempty type_eq]
      by_cases names_json : isJsonContentType contentType = true
      · rw [if_pos names_json]
        cases decode_eq : Json.decode read bytes with
        | error failure =>
            obtain ⟨fault, rfl⟩ := Json.decode_eq_error decode_eq
            exact ⟨fault, rfl⟩
        | ok body =>
            obtain ⟨node, node_eq, read_eq⟩ := Json.decode_eq_ok_iff.mp decode_eq
            refine absurd ?_ (carries_none body)
            exact ⟨⟨contentType, type_eq, (isJsonContentType_iff contentType).mp names_json⟩,
              bytes, node, body_eq, nonempty, node_eq, read_eq⟩
      · exact ⟨_, if_neg names_json⟩

end Request

/-! ## Functions whose calls are recorded -/

/-- The state of an application with the calls of the function of a route so far. -/
structure Called (σ β : Type) where
  /-- The state. -/
  app : σ
  /-- The bodies that the function was given, each with its request, in order. -/
  calls : List (β × Request)

namespace Deferred

variable {α β : Type}

/-- A computation with a function applied to its result. -/
def map (f : α → β) : Deferred α → Deferred β
  | ready value => ready (f value)
  | pause resume => pause fun u => (resume u).map f

theorem run_map (f : α → β) (computation : Deferred α) :
    (computation.map f).run = f computation.run := by
  induction computation with
  | ready value => rfl
  | pause resume ih => exact ih ()

end Deferred

/-- A route that needs a body, by the way in which it is made. -/
inductive BodyRoute (σ β : Type) where
  | post (act : β → Visit σ → Route.Answer σ)
  | put (act : β → Visit σ → Route.Answer σ)
  | postDeferred (act : β → Visit σ → Deferred (Route.Answer σ))

namespace BodyRoute

variable {σ β : Type}

/-- Make the route. -/
def make (number : Nat) (pattern : String) (read : Json.Node → Option β) :
    BodyRoute σ β → Except Failure (Route σ)
  | post act => Route.post number pattern read act
  | put act => Route.put number pattern read act
  | postDeferred act => Route.postDeferred number pattern read act

/-- What the function of the route comes to. -/
def act : BodyRoute σ β → β → Visit σ → Route.Answer σ
  | post act => act
  | put act => act
  | postDeferred act => fun body visit => (act body visit).run

/-- What a call leaves: whatever it does, the calls are those before it and one more. -/
def afterCall (body : β) (visit : Visit (Called σ β)) (answer : Route.Answer (Called σ β)) :
    Route.Answer (Called σ β) :=
  (answer.1, { answer.2 with
    app := { answer.2.app with calls := visit.world.app.calls ++ [(body, visit.request)] } })

/-- The route with the calls of its function recorded. -/
def recorded : BodyRoute (Called σ β) β → BodyRoute (Called σ β) β
  | post act => post fun body visit => afterCall body visit (act body visit)
  | put act => put fun body visit => afterCall body visit (act body visit)
  | postDeferred act => postDeferred fun body visit =>
      (act body visit).map (afterCall body visit)

theorem act_recorded (route : BodyRoute (Called σ β) β) (body : β) (visit : Visit (Called σ β)) :
    route.recorded.act body visit = afterCall body visit (route.act body visit) := by
  cases route with
  | post act => rfl
  | put act => rfl
  | postDeferred act => exact Deferred.run_map _ _

/-- What a route answers whose function needs a body. -/
def answer (read : Json.Node → Option β) (act : β → Visit σ → Route.Answer σ)
    (visit : Visit σ) : Route.Answer σ :=
  match visit.request.jsonBody read with
  | .error failure => Route.refuse failure visit
  | .ok body => Route.requireBody act body visit

theorem run_requireBodyDeferred (act : β → Visit σ → Deferred (Route.Answer σ)) (body : Option β)
    (visit : Visit σ) :
    (Route.requireBodyDeferred act body visit).run =
      Route.requireBody (fun body visit => (act body visit).run) body visit := by
  cases body <;> rfl

/-- A deferred function makes the same route as the function that waits for its result. -/
theorem postDeferred_eq_post (number : Nat) (pattern : String) (read : Json.Node → Option β)
    (act : β → Visit σ → Deferred (Route.Answer σ)) :
    Route.postDeferred number pattern read act =
      Route.post number pattern read fun body visit => (act body visit).run := by
  simp only [Route.postDeferred, Route.post, Route.makeDeferred, Route.make,
    run_requireBodyDeferred]

theorem respond_of_make {number : Nat} {pattern : String} {read : Json.Node → Option β}
    {builder : BodyRoute σ β} {route : Route σ}
    (made : builder.make number pattern read = .ok route) :
    route.respond = answer read builder.act := by
  have respond_eq {method : Method} {act : β → Visit σ → Route.Answer σ}
      (made : Route.make number method pattern read (Route.requireBody act) = .ok route) :
      route.respond = answer read act := by
    unfold Route.make at made
    cases compiled : PathPattern.compile pattern with
    | error failure => rw [compiled] at made; cases made
    | ok found => rw [compiled] at made; cases made; rfl
  cases builder with
  | post act => exact respond_eq made
  | put act => exact respond_eq made
  | postDeferred act =>
      exact respond_eq ((postDeferred_eq_post number pattern read act).symm.trans made)

theorem answer_of_carries {read : Json.Node → Option β} {visit : Visit σ} {body : β}
    (carries : visit.request.Carries read body) (act : β → Visit σ → Route.Answer σ) :
    answer read act visit = act body visit := by
  rw [answer, Request.jsonBody_of_carries carries]
  rfl

theorem answer_of_not_carries {read : Json.Node → Option β} {visit : Visit σ}
    (carries_none : ∀ body, ¬ visit.request.Carries read body)
    (act : β → Visit σ → Route.Answer σ) :
    ∃ fault, answer read act visit = (.error (.body fault), visit.world) := by
  rcases Request.jsonBody_of_not_carries carries_none with nothing | ⟨fault, refused⟩
  · exact ⟨.required, by rw [answer, nothing]; rfl⟩
  · exact ⟨fault, by rw [answer, refused]; rfl⟩

/-- If a request carries a body of its type, a route that needs a body answers what its function
comes to, which is called once and is given that body.  Every other request is refused for its body,
with the status 400, and the function is not called.  Where the function is deferred, the route is
the same as with the function that waits for its result. -/
theorem respond_recorded {builder : BodyRoute (Called σ β) β} {number : Nat} {pattern : String}
    {read : Json.Node → Option β} {route : Route (Called σ β)}
    (made : builder.recorded.make number pattern read = .ok route) :
    (∀ (visit : Visit (Called σ β)) (body : β), visit.request.Carries read body →
        route.respond visit = afterCall body visit (builder.act body visit) ∧
          (route.respond visit).2.app.calls =
            visit.world.app.calls ++ [(body, visit.request)]) ∧
      (∀ visit : Visit (Called σ β), (∀ body, ¬ visit.request.Carries read body) →
        ∃ fault, route.respond visit = (.error (.body fault), visit.world) ∧
          (Failure.body fault).status = 400) ∧
      ∀ act : β → Visit σ → Deferred (Route.Answer σ),
        Route.postDeferred number pattern read act =
          Route.post number pattern read fun body visit => (act body visit).run := by
  have respond_eq := respond_of_make made
  refine ⟨fun visit body carries => ?_, fun visit carries_none => ?_,
    postDeferred_eq_post number pattern read⟩
  · have called : route.respond visit = afterCall body visit (builder.act body visit) := by
      rw [respond_eq, answer_of_carries carries, act_recorded]
    exact ⟨called, by rw [called]; rfl⟩
  · obtain ⟨fault, refused⟩ := answer_of_not_carries carries_none builder.recorded.act
    exact ⟨fault, by rw [respond_eq, refused], rfl⟩

/-- A function that pauses once and then accepts any text. -/
def acceptsText : BodyRoute (Called Unit String) String :=
  postDeferred fun _ visit => .pause fun _ => .ready (.ok .ok, visit.world)

/-- A request that carries a text. -/
def textVisit : Visit (Called Unit String) where
  request := {
    method := .post
    path := "/notes"
    headers := ⟨[("content-type", " Application/LD+Json ; charset=utf-8")]⟩
    body := some [0x22, 0x61, 0x22] }
  world := { app := ⟨(), []⟩ }

/-- The text is accepted after one call. -/
theorem respond_acceptsText :
    ∃ route, acceptsText.recorded.make 1 "/notes" Json.Node.text? = .ok route ∧
      (route.respond textVisit).1 = .ok .ok ∧
      (route.respond textVisit).2.app.calls = [("a", textVisit.request)] := by
  have carries : textVisit.request.Carries Json.Node.text? "a" := by
    refine ⟨⟨_, rfl, .inr ⟨"application/ld", by decide +kernel⟩⟩, _, _, rfl, by decide, rfl, ?_⟩
    decide +kernel
  have built : (acceptsText.recorded.make 1 "/notes" Json.Node.text?).toOption.isSome = true := by
    decide +kernel
  cases made : acceptsText.recorded.make 1 "/notes" Json.Node.text? with
  | error failure =>
      rw [made] at built
      cases built
  | ok route =>
      obtain ⟨called, -⟩ := respond_recorded made
      obtain ⟨answer_eq, calls_eq⟩ := called textVisit "a" carries
      exact ⟨route, rfl, by rw [answer_eq]; rfl, calls_eq⟩

end BodyRoute
end WebDispatch
