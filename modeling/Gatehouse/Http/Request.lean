import Gatehouse.Text.PercentEncoding

/-!
Requests. The path is held decoded, the query as it was sent.
-/
namespace Gatehouse.Http
open Text

structure Request where
  method : String
  path : String
  query : List UInt8
  headers : List (String × String)
  body : List UInt8

namespace Request

/-- A request to a target, which is an encoded path with or without a query. -/
def ofTarget (method target : String) (headers : List (String × String)) (body : List UInt8) :
    Request :=
  let (path, query) := (cutFirst '?' target.toList).getD (target.toList, [])
  ⟨method, String.ofList (Percent.decode path), Utf8.encode query, headers, body⟩

/-- The values of a header, whose name is given in lower case, in the order in which they came. -/
def headerValues (r : Request) (name : String) : List String :=
  r.headers.filterMap fun (n, v) => if n.toLower = name then some v else none

def header? (r : Request) (name : String) : Option String := (r.headerValues name).head?

end Request

end Gatehouse.Http
