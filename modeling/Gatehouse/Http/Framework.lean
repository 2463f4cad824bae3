import Gatehouse.Http.Request
import Gatehouse.Http.Response
import Gatehouse.Http.Route
import Gatehouse.Json.Parser

/-!
What is left to the web framework that the service is built with. The path that a response is
treated by and a request is logged under is not the path that it is routed by: it is read from the
address of the request, which is put together from the `Host` header, the path and the query and
then taken apart again, and this may fail. `Framework.standard` does so as addresses are taken apart
in general.
-/
namespace Gatehouse.Http
open Text

structure Framework where
  /-- The path in the address of a request. -/
  addressPath : Request → Except Fault String
  /-- A body without a content type is read as JSON. -/
  untypedIsJson : Bool
  /-- What is read as JSON of bytes that have no Unicode form, unless they cannot be read at all. -/
  looseJson : List UInt8 → Option (Except Json.ParseError Json)
  /-- What a page of documentation shows. -/
  pageContent : Page → Content
  /-- The methods by which pages are read, in an order that is not settled. -/
  pageMethods : String
  /-- The content type and the content of the page that shows a fault in debug mode. -/
  faultPage : Request → Fault → String × Content

namespace Address

/-- The query as it stands in an address, with the mark before it. -/
def queryText (r : Request) : Except Fault (List Char) :=
  if r.query.isEmpty then .ok []
  else
    match Utf8.decode r.query with
    | some cs => .ok ('?' :: cs)
    | none => .error .undecodable

def host (r : Request) : String := (r.header? "host").getD ""

/-- The address of a request behind its scheme, with a given path. -/
def text (r : Request) (path : String) : Except Fault (List Char) :=
  (fun query => (host r).toList ++ path.toList ++ query) <$> queryText r

def isHexGroup (cs : List Char) : Bool :=
  1 ≤ cs.length && cs.length ≤ 4 && cs.all fun c => (hexValue? c).isSome

/-- Eight groups of hexadecimal digits with colons between them, where two colons may stand for
groups of zeros. -/
def isNumeric (cs : List Char) : Bool :=
  let groups := splitOn ':' cs
  let inner := groups.tail.dropLast
  match inner.findIdx? List.isEmpty with
  | none => groups.length = 8 && groups.all isHexGroup
  | some i =>
    -- What the two colons leave on each side; an address may begin and end with them.
    let before := groups.take (i + 1)
    let after := groups.drop (i + 2)
    let ends (side : List (List Char)) : Bool := side = [[]] || side.all isHexGroup
    ends before && ends after && groups.length ≤ 9 &&
      (before ++ after).countP (!·.isEmpty) ≤ 7

/-- Brackets in a host must hold a numeric address. -/
def hostFits (cs : List Char) : Bool :=
  match cutFirst '[' cs, cutFirst ']' cs with
  | none, none => true
  | some (_, behind), some _ => (cutFirst ']' behind).any fun p => isNumeric p.1
  | _, _ => false

def isUnsafe (c : Char) : Bool := c == '\t' || c == '\r' || c == '\n'

/-- The path in an address behind its scheme. -/
def pathOf (cs : List Char) : Except Fault String :=
  let cs := cs.filter (!isUnsafe ·)
  let host := cs.takeWhile fun c => c != '/' && c != '?' && c != '#'
  if hostFits host then
    .ok (String.ofList ((cs.drop host.length).takeWhile fun c => c != '?' && c != '#'))
  else .error .badValue

end Address

/-- Addresses are taken apart at the first slash, question mark or number sign behind the host. -/
def Framework.standard : Framework where
  addressPath r := do
    let cs ← Address.text r r.path
    Address.pathOf cs
  untypedIsJson := false
  looseJson _ := none
  pageContent _ := .empty
  pageMethods := "GET, HEAD"
  faultPage _ f := ("text/plain; charset=utf-8", .text f.reportName)

end Gatehouse.Http
