import WebDispatch.Demo.Application

/-!
# The command line of the application

Without arguments some sample requests are answered.  With a method, a path and perhaps a body, one
request is answered.
-/

namespace WebDispatch
namespace Demo

/-- What a run of the program writes, and its exit code. -/
structure Report where
  /-- The exit code. -/
  exitCode : Nat := 0
  /-- The text for the standard output. -/
  output : String := ""
  /-- The text for the error output. -/
  errors : String := ""
  deriving DecidableEq, Repr

/-- Lines of text. -/
def ofLines (lines : List String) : String := String.join (lines.map (· ++ "\n"))

/-- Whether one header comes before another in a report. -/
def headerPrecedes (a b : String × String) : Bool :=
  a.1 < b.1 || (a.1 == b.1 && a.2 ≤ b.2)

/-- What is reported about a response. -/
def describe (label : String) (response : Response) : String :=
  let headers := response.headers.entries.mergeSort headerPrecedes
  ofLines ([s!"== {label} -> {response.status}"] ++
    headers.map (fun (name, value) => name ++ ": " ++ value) ++
    response.setCookieHeaders.map ("Set-Cookie: " ++ ·) ++
    (response.body.map Text.decodeLossy).toList)

/-- The sample requests, with their labels. -/
def samples : List (String × Request) :=
  [("GET /", { method := .get, path := "/" }),
    ("GET /items/42", { method := .get, path := "/items/42" }),
    ("POST /items",
      { (({ method := .post, path := "/items" } : Request).withHeader "Content-Type"
          "application/json") with
        body := some (Text.encode
          "\x7b\"id\":\"3\",\"name\":\"Item 3\",\"description\":null\x7d") }),
    ("GET /static/css/app.css", { method := .get, path := "/static/css/app.css" }),
    ("GET /greeting?lang=ja",
      ({ method := .get, path := "/greeting" } : Request).withParameter "lang" "ja"),
    ("GET /admin/users", { method := .get, path := "/admin/users" }),
    ("GET /missing", { method := .get, path := "/missing" })]

/-- The request of a method, a target and perhaps a body, which is taken for JSON. -/
def requestFor (method : Method) (target : String) (body : Option String) : Request :=
  let (path, query) := Text.cutAt '?' target.toList
  let request := ({ method, path := String.ofList path } : Request).withQueryString
    (String.ofList query)
  match body with
  | none => request
  | some body =>
      { request.withHeader "Content-Type" "application/json" with body := some (Text.encode body) }

/-- Answer requests one after the other. -/
def answerAll (dispatcher : Dispatcher State) :
    List (String × Request) → World State → List String × World State
  | [], world => ([], world)
  | (label, request) :: rest, world =>
      let (response, world) := dispatcher.handle { request, world }
      let (reports, world) := answerAll dispatcher rest world
      (describe label response :: reports, world)

/-- Run the program with its arguments. -/
def run (environment : Environment) (arguments : List String) : Report :=
  match application environment with
  | .error failure =>
      { exitCode := 1, errors := ofLines ["Failed to build application: " ++ failure.message] }
  | .ok dispatcher =>
      let report (requests : List (String × Request)) : Report :=
        { output := String.join (answerAll dispatcher requests { app := () }).1 }
      match arguments with
      | method :: target :: rest =>
          match Method.ofString? method with
          | some method => report [(target, requestFor method target rest.head?)]
          | none => { exitCode := 2, errors := ofLines ["Unsupported method: " ++ method] }
      | _ => report samples

end Demo
end WebDispatch
