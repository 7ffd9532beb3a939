import WebDispatch.Http.Request

/-!
# Bodies of JSON

Routes read the body of a request as JSON if there is one.  Its content type has to be some kind of
JSON then.
-/

namespace WebDispatch

/-- Whether a content type is a kind of JSON. -/
def isJsonContentType (contentType : String) : Bool :=
  let main := (Text.trim Text.isBlank (Text.before ';' contentType.toList)).map Char.toLower
  main == "application/json".toList || "+json".toList.isSuffixOf main

/-- The body of a request, read as a type; nothing if there is no body or an empty one. -/
def Request.jsonBody {β : Type} (request : Request) (read : Json.Node → Option β) :
    Except Failure (Option β) :=
  if (request.body.getD []).isEmpty then .ok none
  else
    match request.contentType? with
    | none => .error (.body .noContentType)
    | some contentType =>
        if isJsonContentType contentType then (request.json read).map some
        else .error (.body (.unsupportedType contentType))

end WebDispatch
