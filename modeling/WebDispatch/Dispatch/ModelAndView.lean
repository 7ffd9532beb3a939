import WebDispatch.Http.Response

/-!
# Views with their models

A handler may leave the response to a view: it names the view and gives it the values to show.
Where nothing renders views, the name and the values are sent as JSON.
-/

namespace WebDispatch

/-- A view and the values that it shows. -/
structure ModelAndView where
  /-- The name of the view; a default name is used if there is none. -/
  view : Option String := none
  /-- The values, in ascending order of their names. -/
  model : List (String × Json) := []
  /-- The status of the response, unless it keeps its own. -/
  status : Option Nat := none

namespace ModelAndView

/-- Add a value under a name. -/
def addObject (view : ModelAndView) (name : String) (value : Json) : ModelAndView :=
  { view with model := Json.insert name value view.model }

/-- Remove the value under a name. -/
def removeObject (view : ModelAndView) (name : String) : ModelAndView :=
  { view with model := view.model.filter (·.1 != name) }

/-- Whether the view has a name. -/
def hasView (view : ModelAndView) : Bool := view.view.isSome

/-- Name the view unless it has a name. -/
def withDefaultView (view : ModelAndView) (name : String) : ModelAndView :=
  { view with view := some (view.view.getD name) }

/-- Whether nothing is said about the view. -/
def isDefault (view : ModelAndView) : Bool :=
  view.view.isNone && view.model.isEmpty && view.status.isNone

/-- The name and the values as JSON. -/
def toJson (view : ModelAndView) : Json :=
  .object ((view.view.map fun name => ("view", Json.string name)).toList ++
    [("model", .object view.model)])

/-- The response that shows the name and the values. -/
def toResponse (view : ModelAndView) : Response :=
  (({ status := view.status.getD 200 } : Response).setHeader "X-View-Name"
    (view.view.getD "")).json view.toJson

end ModelAndView
end WebDispatch
