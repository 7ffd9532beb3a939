import WebDispatch.Dict
import WebDispatch.Text.Basic
import WebDispatch.Text.Percent

/-!
# Query strings
-/

namespace WebDispatch
namespace Query

/-- The key and value of one item of a query; an item without a key is dropped.  Keys are judged
before they are decoded. -/
def pair? (item : List Char) : Option (String × String) :=
  let (key, value) := Text.cutAt '=' item
  if key.isEmpty then none
  else some (Text.percentDecode (String.ofList key), Text.percentDecode (String.ofList value))

/-- The pairs of a query in order. -/
def pairs (query : String) : List (String × String) :=
  (query.toList.splitOn '&').filterMap pair?

/-- The parameters of a query; of two equal keys the later wins. -/
def parse (query : String) : Dict String :=
  Dict.ofList (pairs query)

end Query
end WebDispatch
