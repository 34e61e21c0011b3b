import Phrasing.Activity.Validation
import Phrasing.Gateway.Message

/-!
# Refusals of the gateway

Why the gateway answers a request with something else than a result, and the status and the detail that it
gives as the reason.  A fault of the resolver's own is told to the caller; any other mishap is not, and breaks
the request off.
-/

namespace Phrasing.Gateway

/-- Why a request is refused. -/
inductive Refusal where
  /-- Nothing is found at the path. -/
  | notFound
  /-- What is found there takes another method. -/
  | otherMethod (allowed : String)
  /-- The body is no text. -/
  | unreadable
  /-- The body is to be JSON and is not. -/
  | notJson (complaint : Json.Complaint) (place : Nat)
  /-- The body is not what is asked for. -/
  | invalid (flaws : List Flaw)
  /-- There is no resolver. -/
  | unconfigured
  /-- The resolver failed. -/
  | failed (fault : Fault)

/-- The status that tells of a fault: the caller's arguments, the gateway's credential, or the service. -/
def statusOfFault : Fault → Nat
  | .argument _ | .unsupported _ => 400
  | .authentication _ _ => 401
  | _ => 502

namespace Refusal

/-- A step to a part of the body. -/
def stepValue : Step → Value
  | .key name => .text name
  | .index i => .int i

/-- One of the reasons why a body is not what is asked for. -/
def reason (type : String) (place : List Value) (message : String) (input : Value) : List (String × Value) :=
  [("type", .text type), ("loc", .list (.text "body" :: place)), ("msg", .text message), ("input", input)]

/-- A flaw as a reason. -/
def flawReason (f : Flaw) : Value :=
  .object (reason f.complaint.type (f.place.map stepValue) f.complaint.message f.input)

/-- The status of the reply. -/
def status : Refusal → Nat
  | .notFound => 404
  | .otherMethod _ => 405
  | .unreadable => 400
  | .notJson _ _ | .invalid _ => 422
  | .unconfigured => 503
  | .failed fault => statusOfFault fault

/-- The detail of the reply. -/
def detail : Refusal → Value
  | .notFound => .text "Not Found"
  | .otherMethod _ => .text "Method Not Allowed"
  | .unreadable => .text "There was an error parsing the body"
  | .notJson complaint place => .list [.object (reason "json_invalid" [.int place] "JSON decode error" (.mapping []) ++
      [("ctx", .object [("error", .text complaint.text)])])]
  | .invalid flaws => .list (flaws.map flawReason)
  | .unconfigured => .text "LG resolver is not configured"
  | .failed fault => .text fault.message

/-- The header fields of the reply. -/
def headers : Refusal → List (String × String)
  | .otherMethod allowed => [("allow", allowed)]
  | _ => []

/-- A refusal that is told to the caller. -/
def isTold : Refusal → Bool
  | .failed fault => fault.isOwn
  | _ => true

/-- The reply, nothing where the request breaks off. -/
def reply? (r : Refusal) : Option Reply :=
  if r.isTold then Reply.ofDocument r.status r.headers (.object [("detail", r.detail)]) else none

end Refusal

end Phrasing.Gateway
