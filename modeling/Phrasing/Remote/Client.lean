import Phrasing.Charset.Named
import Phrasing.Exchange.Message
import Phrasing.Json.Printer
import Phrasing.Remote.Address

/-!
# The client of a gateway

A `Remote` has activities resolved by a gateway over some transport.  A reply with an error status becomes a
fault that tells the gateway's detail; the document in any other reply is the result.
-/

namespace Phrasing.Remote

open Text

/-! ### Messages -/

/-- A request as it leaves for a gateway. -/
structure Outgoing where
  method : String
  address : String
  timeout : Value
  body : Option Value

/-- A reply as it arrives from a gateway. -/
structure Incoming where
  status : Nat
  /-- The words that come with the status. -/
  reason : String
  contentType : Option String
  body : List UInt8
  deriving DecidableEq, Repr

/-- What comes back for a request. -/
inductive Arrival where
  | reply (r : Incoming)
  | failure (f : Failure)
  deriving DecidableEq, Repr

/-- A way to a gateway, with states of type `τ`. -/
structure Transport (τ : Type) where
  send : τ → Outgoing → Arrival × τ

/-- What a call ends in instead of a result. -/
inductive Fault where
  /-- The reply has an error status. -/
  | refused (message : String) (reply : Incoming)
  /-- Anything else. -/
  | mishap (cause : Mishap)
  deriving DecidableEq, Repr

namespace Fault

/-- The kind of a fault. -/
def label : Fault → String
  | .refused _ _ => "HTTPError"
  | .mishap cause => cause.label

/-- The text of a fault. -/
def message : Fault → String
  | .refused message _ => message
  | .mishap cause => cause.text

end Fault

/-! ### Reading replies -/

/-- A way to guess the text of bytes in a character set that nothing names. -/
class TextGuess where
  text? : List UInt8 → Option (List Char)

/-- Nothing is guessed unless something else is said. -/
instance : TextGuess where
  text? _ := none

namespace Incoming

/-- A reply with an error status. -/
def isError (r : Incoming) : Bool :=
  400 ≤ r.status && r.status < 600

/-- The parameters of a content type by their names in lower case, with their values if they have any. -/
def parameters (contentType : String) : List (List Char × Option (List Char)) :=
  let bare (cs : List Char) : List Char :=
    let quote (c : Char) : Bool := c == '\x22' || c == '\x27' || c == ' '
    dropTrailing quote (cs.dropWhile quote)
  ((splitAtEach ';' contentType.toList).drop 1).filterMap fun part =>
    let cs := trim part
    match cs.dropWhile (· ≠ '=') with
    | _ :: value => some ((bare (cs.takeWhile (· ≠ '='))).map lowerAscii, some (bare value))
    | [] => if cs.isEmpty then none else some (cs.map lowerAscii, none)

/-- One text stands somewhere in another. -/
def occursIn (part : List Char) : List Char → Bool
  | [] => part.isEmpty
  | c :: rest => part.isPrefixOf (c :: rest) || occursIn part rest

/-- The name of the character set that a content type states or implies.  A parameter for it needs a value. -/
def charsetName? (contentType : Option String) : Except Mishap (Option String) :=
  match contentType with
  | none => .ok none
  | some type =>
    let media := type.toList.takeWhile (· ≠ ';')
    match (parameters type).reverse.lookup "charset".toList with
    | some none => .error (.noAttribute "bool" "strip")
    | some (some name) => .ok (if name.isEmpty then none else some (String.ofList name))
    | none =>
      .ok (if occursIn "text".toList media then some "ISO-8859-1"
        else if occursIn "application/json".toList media then some "utf-8"
        else none)

/-- The characters of a reply, misfits replaced.  Where no character set is named or implied they are guessed, and
UTF-8 is read if nothing comes to mind. -/
def chars [TextGuess] (r : Incoming) : Except Mishap (List Char) :=
  if r.body.isEmpty then .ok []
  else do
    match ← charsetName? r.contentType with
    | some name => ((Charset.ofName? name).getD (.unicode .utf8)).decodeWhole r.body
    | none =>
      match TextGuess.text? r.body with
      | some cs => return cs
      | none => (Charset.unicode .utf8).decodeWhole r.body

/-- The encoding that the first bytes of a document show. -/
def shownEncoding? (bytes : List UInt8) : Option Encoding :=
  match bytes.take 4 with
  | [0xFF, 0xFE, 0x00, 0x00] | [0x00, 0x00, 0xFE, 0xFF] => some .utf32Marked
  | 0xEF :: 0xBB :: 0xBF :: _ => some .utf8Signed
  | 0xFF :: 0xFE :: _ | 0xFE :: 0xFF :: _ => some .utf16Marked
  | sample =>
    match sample.map (· == 0) with
    | [false, false, false, false] => some .utf8
    | [true, false, true, false] => some (.utf16 true)
    | [false, true, false, true] => some (.utf16 false)
    | [true, true, true, false] => some (.utf32 true)
    | [false, true, true, true] => some (.utf32 false)
    | _ => none

/-- The characters of a document: in the character set that the content type names, or else in the one that its
bytes show. -/
def documentChars [TextGuess] (r : Incoming) : Except Mishap (List Char) := do
  let name ← charsetName? r.contentType
  if name.isNone && 3 < r.body.length then
    match (shownEncoding? r.body).bind fun e => (e.decodeStrict false r.body).toOption with
    | some cs => return cs
    | none => r.chars
  else r.chars

/-- The document of a reply. -/
def document [TextGuess] (r : Incoming) : Except Mishap Value :=
  r.documentChars.bind Json.parseChars

/-- The mishaps that tell that a reply has no document. -/
def lacksDocument (m : Mishap) : Bool :=
  ["ValueError", "UnicodeError", "UnicodeDecodeError", "JSONDecodeError"].contains m.label

/-- What the gateway says about an error: the detail in its document, the whole document if that has no
detail, or the mere text. -/
def detail [TextGuess] (r : Incoming) : Except Mishap String :=
  match r.document with
  | .ok v@(.mapping _) => .ok ((v.get? "detail").getD v).display
  | .ok v => .error (.noAttribute v.typeName "get")
  | .error m => if lacksDocument m then r.chars.map String.ofList else .error m

/-- The document of a reply that tells of no error, or the fault with the gateway's detail. -/
def result [TextGuess] (r : Incoming) : Except Fault Value :=
  if r.isError then
    match r.detail with
    | .ok detail => .error (.refused ("Gateway Error (" ++ toString r.status ++ "): " ++ detail) r)
    | .error m => .error (.mishap m)
  else r.document.mapError .mishap

/-- The document of a reply that tells of no error, or the fault with the words of the status. -/
def resultAt [TextGuess] (address : String) (r : Incoming) : Except Fault Value :=
  if r.isError then
    let side := if r.status < 500 then " Client Error: " else " Server Error: "
    .error (.refused (toString r.status ++ side ++ r.reason ++ " for url: " ++ address) r)
  else r.document.mapError .mishap

end Incoming

end Remote

/-! ### Calls -/

/-- A gateway by its address, and how long a call may take. -/
structure Remote where
  /-- The address without slashes at its end. -/
  base : String
  timeout : Value

namespace Remote

open Text

variable {τ : Type}

/-- The gateway at an address. -/
def ofAddress (address : String) (timeout : Value) : Remote :=
  ⟨dropTrailingSlashes address, timeout⟩

/-- Where a gateway is expected unless something else is said. -/
def usualBase : String := "http://localhost:8000"

/-- The seconds that a call may take unless something else is said. -/
def usualTimeout : Value := .float (.ofInt 30)

/-- The body of a request.  Numbers that are not finite or too long cannot leave. -/
def bodyOf (v : Value) : Except Mishap Value :=
  (Json.sendable v).mapError fun
    | m@(.notFinite) | m@(.tooManyDigits _) => .reported "InvalidJSONError" m.text
    | m => m

/-- A request to a path of a gateway. -/
def outgoing (r : Remote) (method path : String) (body : Option Value) : Except Mishap Outgoing := do
  let address ← usualAddress (r.base ++ path)
  let body ← body.mapM bodyOf
  if isWebAddress address then return ⟨method, address, r.timeout, body⟩
  else throw (.reported "InvalidSchema" ("No connection adapters were found for " ++ quoted address))

/-- Sends a request and waits for the reply, whose content type has to make sense. -/
def exchange (t : Transport τ) (request : Except Mishap Outgoing) (state : τ) :
    Except Fault (Outgoing × Incoming) × τ :=
  match request with
  | .error m => (.error (.mishap m), state)
  | .ok request =>
    match t.send state request with
    | (.reply r, state) =>
      (((Incoming.charsetName? r.contentType).map fun _ => (request, r)).mapError .mishap, state)
    | (.failure f, state) => (.error (.mishap (.reported f.label f.message)), state)

/-- The document that submits an activity with its entities; a vacant value stands for no entities. -/
def submission (activity entities : Value) : Value :=
  .object [("activity", activity), ("entities", entities.orElse (.mapping []))]

/-- Has an activity resolved. -/
def resolve [TextGuess] (t : Transport τ) (r : Remote) (activity entities : Value) (state : τ) :
    Except Fault Value × τ :=
  let (result, state) :=
    exchange t (r.outgoing "POST" "/activities/resolve" (some (submission activity entities))) state
  (result.bind fun (_, reply) => reply.result, state)

/-- Asks a gateway how it is. -/
def health [TextGuess] (t : Transport τ) (r : Remote) (state : τ) : Except Fault Value × τ :=
  let (result, state) := exchange t (r.outgoing "GET" "/health" none) state
  (result.bind fun (request, reply) => reply.resultAt request.address, state)

/-- Has an activity resolved by the gateway at an address, without further ado. -/
def resolveOnce [TextGuess] (t : Transport τ) (activity entities : Value) (address : String) (state : τ) :
    Except Fault Value × τ :=
  (Remote.ofAddress address usualTimeout).resolve t activity entities state

end Remote

end Phrasing
