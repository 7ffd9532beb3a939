import WebDispatch.Dispatch.Dispatcher

/-!
# A small application

An application with a list of items, greetings in the locale of the visitor, uploads and static
resources.  Paths below `/admin` are for visitors with a token.
-/

namespace WebDispatch
namespace Demo

/-- The application keeps no state. -/
abbrev State := Unit

/-- An item. -/
structure Item where
  /-- The identifier. -/
  id : String
  /-- The name. -/
  name : String
  /-- The description. -/
  description : Option String := none
  deriving DecidableEq, Repr

namespace Item

/-- An item as JSON. -/
def toJson (item : Item) : Json :=
  .object [("id", .string item.id), ("name", .string item.name),
    ("description", (item.description.map Json.string).getD .null)]

/-- Read an item; the description may be missing. -/
def read? (node : Json.Node) : Option Item := do
  match ← node.record? ["id", "name", "description"] with
  | [some id, some name, description] =>
      let description ← match description with
        | some node => node.optional? Json.Node.text?
        | none => some none
      return { id := ← id.text?, name := ← name.text?, description }
  | _ => none

end Item

/-- Say that the application is well. -/
def health (visit : Visit State) : Except Failure Json × World State :=
  (.ok (.object [("status", .string "ok"), ("version", .string "0.1.0")]), visit.world)

/-- List the items. -/
def listItems (visit : Visit State) : Except Failure Json × World State :=
  let items : List Item :=
    [{ id := "1", name := "Item 1", description := some "Description for item 1" },
      { id := "2", name := "Item 2" }]
  (.ok (.object [("items", .array (items.map Item.toJson))]), visit.world)

/-- Show the item that the path names. -/
def showItem (visit : Visit State) : Except Failure Json × World State :=
  let captured := visit.request.context.published? Attribute.captured? .uriTemplateVariables
  match captured >>= fun captured => captured.get? "id" with
  | some id => (.ok ({ id, name := "Item " ++ id : Item }).toJson, visit.world)
  | none => (.error (.body (.other "missing item id")), visit.world)

/-- Make an item. -/
def createItem (item : Item) (visit : Visit State) : Except Failure Json × World State :=
  (.ok item.toJson, visit.world)

/-- The greeting in a language. -/
def greetingIn (locale : Locale) : String :=
  match String.ofList locale.language with
  | "ja" => "こんにちは"
  | "fr" => "Bonjour"
  | "de" => "Hallo"
  | _ => "Hello"

/-- Change the locale to the one that a request asks for, if it does. -/
def changeLocale (x : Exchange State) : Except Failure (Exchange State) :=
  match x.request.query.get? "lang" with
  | none => .ok x
  | some text =>
      match Locale.parse text with
      | .error fault =>
          .error (.body (.other ("invalid locale '" ++ text ++ "': " ++ fault.message)))
      | .ok locale => do
          let (request, response) ← x.request.changeLocale (some x.response) (some locale)
          return { x with request, response := response.getD x.response }

/-- Greets in the locale of the visitor. -/
def greeter : Controller State where
  name := "GreetingController"
  handle x :=
    match changeLocale x with
    | .error failure => (.error failure, x)
    | .ok x =>
        let locale := x.request.locale
        let view := ({} : ModelAndView).addObject "greeting" (.string (greetingIn locale))
        (.ok (some (view.addObject "locale" (.string locale.render))), x)

/-- What is said about an uploaded file. -/
def fileSummary (file : UploadedFile) : Json :=
  .ofMembers [("name", .string file.name),
    ("filename", (file.filename.map Json.string).getD .null),
    ("size", .int file.size), ("in_memory", .bool file.inMemory)]

/-- Lists the files of an upload. -/
def uploader : RequestWriter State where
  name := "UploadHandler"
  handle x :=
    match x.request.upload? with
    | none => (.error (.body (.other "multipart body required")), x)
    | some parts =>
        let files := parts.allFiles.map fileSummary
        (.ok (), { x with response := Response.ok.json (.object [("files", .array files)]) })

/-- Names the static resource that a path asks for. -/
def resources : RequestWriter State where
  name := "StaticHandler"
  handle x :=
    let within := x.request.context.published? Attribute.text? .pathWithinMapping
    (.ok (), { x with response := Response.ok.text ("static resource: " ++ within.getD "") })

/-- Marks the requests that are being answered. -/
def marker : Interceptor State where
  name := "TimingInterceptor"
  preHandle _ x :=
    (.ok true, { x with request := x.request.setAttribute "demo.timing.started" (.flag true) })

/-- Lets visitors pass who have the token. -/
def gatekeeper : Interceptor State where
  name := "AuthInterceptor"
  preHandle _ x :=
    if x.request.header? "X-Auth-Token" = some "secret-token" then (.ok true, x)
    else
      (.ok false,
        { x with response := ({ status := 401 } : Response).text "authentication required" })

/-- The routes of the application. -/
def routes : Except Failure (RouteMapping State) := do
  let health ← Route.get 0 "/" fun visit => Route.ofJson (health visit)
  let list ← Route.get 1 "/items" fun visit => Route.ofJson (listItems visit)
  let item ← Route.get 2 "/items/(?P<id>[^/]+)" fun visit => Route.ofJson (showItem visit)
  let create ← Route.post 3 "/items" Item.read? fun item visit =>
    Route.ofJson (createItem item visit)
  let admin ← MappedInterceptor.make ["/admin/.*"] [] gatekeeper
  let mapping : RouteMapping State :=
    { interceptors := [marker], mapped := [admin], order := some 0 }
  return [health, list, item.withProduces "application/json", create].foldl RouteMapping.addRoute
    mapping

/-- The other paths of the application. -/
def urls : Except Failure (UrlMapping State) := do
  let mapping : UrlMapping State := { interceptors := [marker], order := some 10 }
  let mapping ← mapping.map "/static/*" ⟨4, .writer resources⟩
  let mapping ← mapping.map "/greeting" ⟨5, .controller greeter⟩
  mapping.map "/upload" ⟨6, .writer uploader⟩

/-- The application in an environment. -/
def application (environment : Environment) : Except Failure (Dispatcher State) := do
  let routes ← routes
  let urls ← urls
  return {
    registry := (({} : MappingRegistry State).register routes.toMapping).register urls.toMapping
    localeResolver := .cookie {}
    upload := some (.ofEnvironment environment) }

end Demo
end WebDispatch
