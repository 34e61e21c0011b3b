import Phrasing.Exchange.Address
import Phrasing.Value.Basic

/-!
# Requests and answers

The two requests that the service knows, and what may come back: a reply with a status, header fields and
a body, or the report of a failure on the way.  A `Service` is anything that answers requests one
after another, with a state of its own and after some delay.
-/

namespace Phrasing

/-- A request as the service receives it. -/
inductive Request where
  /-- A token for a key. -/
  | token (address : Address) (key : String)
  /-- A phrase, for the bearer of a token. -/
  | generation (address : Address) (authorization : String) (body : Value)

namespace Request

/-- The method of all requests. -/
def method (_ : Request) : String := "POST"

/-- Where a request is sent. -/
def address : Request → Address
  | .token address _ | .generation address _ _ => address

end Request

/-- A reply of the service. -/
structure Reply where
  status : Nat
  headers : List (String × String)
  body : List UInt8
  deriving DecidableEq, Repr

/-- The value of a header field; case does not matter in its name, and the values of fields with the same name
are joined. -/
def Reply.header? (name : String) (r : Reply) : Option String :=
  let values := r.headers.filterMap fun (key, value) =>
    if key.toList.map Text.lowerAscii = name.toList then some value else none
  if values.isEmpty then none else some (", ".intercalate values)

/-- The reply says that the request succeeded. -/
def Reply.isSuccess (r : Reply) : Bool :=
  200 ≤ r.status && r.status ≤ 299

/-- What a failure on the way to the service or back is, by the name of its class. -/
inductive Cause where
  /-- The exchange itself failed. -/
  | exchange (name : String)
  /-- The transport judged a reply of that status to be a failure, and keeps the reply. -/
  | status (code : Nat)
  /-- Something failed that is no matter of the exchange. -/
  | foreign (name : String)
  /-- Nothing failed, but the call is to stop. -/
  | interruption (name : String)
  deriving DecidableEq, Repr

namespace Cause

/-- The classes of failures of the exchange itself. -/
def exchangeNames : List String :=
  ["HTTPError", "RequestError", "TransportError", "TimeoutException", "ConnectTimeout", "ReadTimeout",
    "WriteTimeout", "PoolTimeout", "NetworkError", "ConnectError", "ReadError", "WriteError", "CloseError",
    "ProxyError", "UnsupportedProtocol", "ProtocolError", "LocalProtocolError", "RemoteProtocolError",
    "DecodingError", "TooManyRedirects"]

/-- The classes that are not among the exceptions a program is to handle. -/
def interruptionNames : List String :=
  ["BaseException", "CancelledError", "KeyboardInterrupt", "SystemExit", "GeneratorExit"]

/-- The cause of the class with a name. -/
def ofName (name : String) : Cause :=
  if exchangeNames.contains name then .exchange name
  else if interruptionNames.contains name then .interruption name
  else .foreign name

instance : Coe String Cause := ⟨ofName⟩

/-- The name of the class of a cause. -/
def label : Cause → String
  | .exchange name | .foreign name | .interruption name => name
  | .status _ => "HTTPStatusError"

end Cause

/-- A failure on the way to the service or back. -/
structure Failure where
  cause : Cause
  message : String
  deriving DecidableEq, Repr

/-- The name of the class of a failure. -/
def Failure.label (f : Failure) : String :=
  f.cause.label

/-- What comes back for a request. -/
inductive Answer where
  | reply (r : Reply)
  | failure (f : Failure)
  deriving DecidableEq, Repr

/-- An answer, and after how many ticks it arrives. -/
structure Arrival where
  answer : Answer
  ticks : Nat
  deriving DecidableEq, Repr

/-- Anything that answers requests, with states of type `σ`. -/
structure Service (σ : Type) where
  answer : σ → Request → Arrival × σ

/-- How serious a notice is. -/
inductive Severity where
  | warning
  | error
  deriving DecidableEq, Repr

/-- A notice for the people who run the program. -/
structure Notice where
  severity : Severity
  text : String
  deriving DecidableEq, Repr

/-- A notice as a line. -/
def Notice.line (n : Notice) : String :=
  (match n.severity with | .warning => "WARNING: " | .error => "ERROR: ") ++ n.text

end Phrasing
