import WebDispatch.Text.Basic

/-!
# Default view names

A handler that returns a view without naming it gets the name from the path of the request.
-/

namespace WebDispatch

/-- The view name of a path: without slashes around it, without matrix parameters and without the
extension of the last segment. -/
def defaultViewName (path : String) : String :=
  let segments := ((Text.trim (· == '/') path.toList).splitOn '/').map (Text.before ';')
  let last := segments.getLastD []
  String.ofList (['/'].intercalate (segments.dropLast ++ [Text.beforeLast '.' last]))

end WebDispatch
