import Phrasing.Exchange.Address
import Phrasing.Exchange.Header
import Phrasing.Json.Printer

/-!
# Messages of the gateway

What reaches the gateway and what leaves it: a request with its header fields and the bytes of its body, and
a reply with a JSON document or a text.
-/

namespace Phrasing.Gateway

open Text

/-- A request to the gateway. -/
structure Inquiry where
  /-- The method in upper case. -/
  method : String
  /-- The path with its escapes resolved. -/
  path : String
  headers : List (String × String)
  body : List UInt8
  deriving DecidableEq, Repr

namespace Inquiry

/-- The value of a header field; case does not matter in its name. -/
def header? (name : String) (q : Inquiry) : Option String :=
  q.headers.findSome? fun (key, value) =>
    if key.toList.map lowerAscii = name.toList then some value else none

/-- The address that a target leads to: one of the web, or one from the place of the gateway. -/
def addressOf (target : String) : Except Mishap Address := do
  let place ← Address.ofChars target.toList
  let address ← place.requestedAt (some "http".toList) (some "gateway".toList)
  address.checkHost
  return address

/-- An address can be reached if its scheme is one of the web and its host is a name: what follows the first colon
after the user is taken for the port.  The schemes of an open connection ask for more than a reply. -/
def checkReach (address : Address) : Except Mishap Unit := do
  let scheme := String.ofList address.scheme
  unless ["http", "https", "ws", "wss"].contains scheme do
    throw (.reported "KeyError" (quoted scheme))
  if address.host.contains ':' then
    let place := { address with user := [] }
    throw (.notAnIntegerText (quoted (String.ofList ((Address.cutAt (· == ':') place.authority).2.drop 1))))
  if ["ws", "wss"].contains scheme then
    throw (.reported "_Upgrade" "")

/-- The path that an address gives.  Its escapes are resolved twice, on the way and on arrival. -/
def pathOf (address : Address) : String :=
  String.ofList (unescape (unescape (if address.path.isEmpty then ['/'] else address.path)))

/-- Header fields can be sent if their names and values are ASCII texts. -/
def checkFields (headers : List (String × String)) : Except Mishap Unit :=
  headers.forM fun (name, value) => do
    let _ ← Header.ofText name
    let _ ← Header.ofText value

/-- The request with a method to a target. -/
def ofTarget (method target : String) (headers : List (String × String)) (body : List UInt8) :
    Except Mishap Inquiry := do
  let address ← addressOf target
  checkFields headers
  checkReach address
  return ⟨String.ofList (method.toList.map upperAscii), pathOf address, headers, body⟩

end Inquiry

/-- What a reply holds. -/
inductive Content where
  | json (v : Value)
  | text (s : String)

namespace Content

/-- The content type of a reply. -/
def type : Content → String
  | .json _ => "application/json"
  | .text _ => "text/plain; charset=utf-8"

/-- The characters of a reply's body. -/
def chars : Content → List Char
  | .json v => Json.renderChars v
  | .text s => s.toList

end Content

/-- A reply of the gateway. -/
structure Reply where
  status : Nat
  /-- The header fields other than the content type. -/
  headers : List (String × String)
  content : Content

namespace Reply

/-- A reply with a document.  A document with a number that is not finite cannot leave. -/
def ofDocument (status : Nat) (headers : List (String × String)) (v : Value) : Option Reply :=
  match Json.sendable v with
  | .ok v => some ⟨status, headers, .json v⟩
  | .error _ => none

/-- The reply to a request that broke off inside of the gateway. -/
def internalError : Reply := ⟨500, [], .text "Internal Server Error"⟩

/-- The header fields, the content type first. -/
def fields (r : Reply) : List (String × String) :=
  ("content-type", r.content.type) :: r.headers

/-- The characters of the body that goes out to a request with a method. -/
def chars (method : String) (r : Reply) : List Char :=
  if method = "HEAD" then [] else r.content.chars

/-- The words that come with a status. -/
def reason (r : Reply) : String :=
  match r.status with
  | 200 => "OK"
  | 400 => "Bad Request"
  | 401 => "Unauthorized"
  | 404 => "Not Found"
  | 405 => "Method Not Allowed"
  | 422 => "Unprocessable Entity"
  | 500 => "Internal Server Error"
  | 502 => "Bad Gateway"
  | 503 => "Service Unavailable"
  | _ => ""

end Reply

end Phrasing.Gateway
