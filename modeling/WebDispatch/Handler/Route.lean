import WebDispatch.Dispatch.World
import WebDispatch.Handler.JsonBody
import WebDispatch.Pattern.PathPattern

/-!
# Routes

A route answers the requests of one method whose path matches a pattern.  Its function gets the body
of the request, read as a type, and a copy of the request.  A function may be deferred: it may pause
before it has its result.  Pauses do not show in the result.
-/

namespace WebDispatch

/-- A computation that may pause before it has its result. -/
inductive Deferred (α : Type) where
  /-- The result is there. -/
  | ready (value : α)
  /-- There is more to do. -/
  | pause (resume : Unit → Deferred α)

namespace Deferred

variable {α : Type}

/-- The result of a computation, after all pauses. -/
def run : Deferred α → α
  | ready value => value
  | pause resume => run (resume ())

end Deferred

/-- A route. -/
structure Route (σ : Type) where
  /-- The number by which copies of the route are known to be the same. -/
  number : Nat
  /-- The method of the requests that the route answers. -/
  method : Method
  /-- The pattern of the paths that the route answers. -/
  pattern : PathPattern
  /-- The media types that the route can produce. -/
  produces : List String := []
  /-- Answer a request, whether it matches or not. -/
  respond : Visit σ → Except Failure Response × World σ

namespace Route

variable {σ β : Type}

/-- What the function of a route has for a result. -/
abbrev Answer (σ : Type) := Except Failure Response × World σ

/-- The answer that reports a failure before anything was done. -/
def refuse (failure : Failure) (visit : Visit σ) : Answer σ := (.error failure, visit.world)

/-- A route whose function may get a body. -/
def make (number : Nat) (method : Method) (pattern : String) (read : Json.Node → Option β)
    (act : Option β → Visit σ → Answer σ) : Except Failure (Route σ) := do
  let pattern ← PathPattern.compile pattern
  return { number, method, pattern, respond := fun visit =>
    match visit.request.jsonBody read with
    | .error failure => refuse failure visit
    | .ok body => act body visit }

/-- A route whose deferred function may get a body. -/
def makeDeferred (number : Nat) (method : Method) (pattern : String)
    (read : Json.Node → Option β) (act : Option β → Visit σ → Deferred (Answer σ)) :
    Except Failure (Route σ) := do
  let pattern ← PathPattern.compile pattern
  return { number, method, pattern, respond := fun visit =>
    match visit.request.jsonBody read with
    | .error failure => refuse failure visit
    | .ok body => (act body visit).run }

/-- Turn a function that needs a body into one that refuses to do without. -/
def requireBody (act : β → Visit σ → Answer σ) : Option β → Visit σ → Answer σ
  | some body, visit => act body visit
  | none, visit => refuse (.body .required) visit

/-- Turn a deferred function that needs a body into one that refuses to do without, at once. -/
def requireBodyDeferred (act : β → Visit σ → Deferred (Answer σ)) :
    Option β → Visit σ → Deferred (Answer σ)
  | some body, visit => act body visit
  | none, visit => .ready (refuse (.body .required) visit)

/-- A route without a body.  A request may still hold one, which has to be `null`. -/
def bodyless (number : Nat) (method : Method) (pattern : String) (act : Visit σ → Answer σ) :
    Except Failure (Route σ) :=
  make number method pattern Json.Node.unit? fun _ visit => act visit

/-- A route without a body and with a deferred function. -/
def bodylessDeferred (number : Nat) (method : Method) (pattern : String)
    (act : Visit σ → Deferred (Answer σ)) : Except Failure (Route σ) :=
  makeDeferred number method pattern Json.Node.unit? fun _ visit => act visit

/-- A route for `GET`. -/
def get (number : Nat) (pattern : String) (act : Visit σ → Answer σ) : Except Failure (Route σ) :=
  bodyless number .get pattern act

/-- A route for `DELETE`. -/
def delete (number : Nat) (pattern : String) (act : Visit σ → Answer σ) :
    Except Failure (Route σ) :=
  bodyless number .delete pattern act

/-- A route for `OPTIONS`. -/
def options (number : Nat) (pattern : String) (act : Visit σ → Answer σ) :
    Except Failure (Route σ) :=
  bodyless number .options pattern act

/-- A route for `POST`, which needs a body. -/
def post (number : Nat) (pattern : String) (read : Json.Node → Option β)
    (act : β → Visit σ → Answer σ) : Except Failure (Route σ) :=
  make number .post pattern read (requireBody act)

/-- A route for `PUT`, which needs a body. -/
def put (number : Nat) (pattern : String) (read : Json.Node → Option β)
    (act : β → Visit σ → Answer σ) : Except Failure (Route σ) :=
  make number .put pattern read (requireBody act)

/-- A route for `GET` with a deferred function. -/
def getDeferred (number : Nat) (pattern : String) (act : Visit σ → Deferred (Answer σ)) :
    Except Failure (Route σ) :=
  bodylessDeferred number .get pattern act

/-- A route for `DELETE` with a deferred function. -/
def deleteDeferred (number : Nat) (pattern : String) (act : Visit σ → Deferred (Answer σ)) :
    Except Failure (Route σ) :=
  bodylessDeferred number .delete pattern act

/-- A route for `POST` with a deferred function, which needs a body. -/
def postDeferred (number : Nat) (pattern : String) (read : Json.Node → Option β)
    (act : β → Visit σ → Deferred (Answer σ)) : Except Failure (Route σ) :=
  makeDeferred number .post pattern read (requireBodyDeferred act)

/-- Add a media type that the route can produce. -/
def withProduces (route : Route σ) (mediaType : String) : Route σ :=
  { route with produces := route.produces ++ [mediaType] }

/-- Answer with a value as JSON. -/
def ofJson : Except Failure Json × World σ → Answer σ
  | (result, world) => (result.map Response.ok.json, world)

/-- The description of a route. -/
def description (route : Route σ) : String :=
  "route " ++ route.method.name ++ " " ++ route.pattern.source

end Route
end WebDispatch
