import Phrasing.Exchange.ContentType
import Phrasing.Exchange.Header
import Phrasing.Exchange.Join
import Phrasing.Exchange.Receipt
import Phrasing.Exchange.Session
import Phrasing.Generation
import Phrasing.Json.Printer

/-!
# The client of the service

`issueToken` exchanges the key for a token, `generate` asks for one document, and `fetchAll` asks for many
phrases at once: every request is sent before any answer is looked at, all of them are allowed to
finish, and the first failure in the order of the requests is the failure of the whole.  Whatever comes
back for a request is judged by `judge`.
-/

namespace Phrasing.Client

open Text

variable {σ : Type}

/-- Where the service is: the address under which phrases are generated, and that of the token service. -/
structure Location where
  base : String
  token : Value

/-- The address that generates phrases. -/
def Location.generation (l : Location) : String :=
  l.base ++ "/v1/lg"

/-- What a request is for, as notices and faults call it. -/
inductive Purpose where
  | token
  | generation
  deriving DecidableEq, Repr

/-- A purpose in words. -/
def Purpose.text : Purpose → String
  | .token => "token request"
  | .generation => "generation request"

/-! ### Requests -/

/-- The address that a value holds. -/
def address : Value → Except Fault Address
  | .text s => (Address.ofText s).mapError .mishap
  | v => .error (.mishap (.addressNotText v.qualifiedTypeName v.literal))

/-- The request that exchanges a key for a token. -/
def tokenRequest (l : Location) (key : Value) : Except Fault Request := do
  let address ← address l.token
  let key ← (Header.ofValue key).mapError .mishap
  address.checkHost.mapError .mishap
  return .token address key

/-- The request that sends a document for generation.  Credentials in the address of the service come before the
token. -/
def generationRequest (l : Location) (payload token : Value) : Except Fault Request := do
  match payload with
  | .mapping _ =>
    let address ← address (.text l.generation)
    let authorization ← (Header.ofText ("Bearer " ++ token.display)).mapError .mishap
    let body ← (Json.sendable payload).mapError .mishap
    address.checkHost.mapError .mishap
    return .generation address (address.credentials?.getD authorization) body
  | v => throw (.mishap (.noAttribute v.typeName "get"))

/-! ### Answers -/

/-- The statuses with which a credential is refused. -/
def isRejection (status : Nat) : Bool :=
  status == 401 || status == 403

/-- The fault that a status other than one of success stands for, with the notice it is worth.  A status of too
many digits cannot be told. -/
def refuse (purpose : Purpose) (status : Nat) : Except Fault Reply × List Notice :=
  let what := purpose.text
  let shown := toString status
  if isRejection status then
    (.error (.authentication ("Credential rejected (" ++ shown ++ ") on " ++ what) (some status)),
      [⟨.error, what ++ " rejected with " ++ shown⟩])
  else if (Scalar.int status).isWritable then
    (.error (.service ("LG " ++ what ++ " failed (" ++ shown ++ ")") (some status)),
      [⟨.error, what ++ " failed with " ++ shown⟩])
  else (.error (.mishap (.tooManyDigits none)), [])

/-- A successful reply, or the fault that anything else stands for, with the notice it is worth. -/
def judge (purpose : Purpose) : Answer → Except Fault Reply × List Notice
  | .reply r => if r.isSuccess then (.ok r, []) else refuse purpose r.status
  | .failure f =>
    let what := purpose.text
    match f.cause with
    | .exchange _ =>
      (.error (.service ("LG " ++ what ++ " failed: " ++ f.message) none),
        [⟨.error, what ++ " failed: " ++ f.message⟩])
    | .status code => refuse purpose code
    | .foreign name => (.error (.mishap (.reported name f.message)), [])
    | .interruption name => (.error (.mishap (.interrupted name f.message)), [])

/-- The text of a reply, in the character set that its content type names, UTF-8 if that names none. -/
def replyText (r : Reply) : Except Mishap (List Char) :=
  if r.body.isEmpty then .ok []
  else do
    let set ← ContentType.charset? (r.header? "content-type")
    (set.getD (.unicode .utf8)).decodeArriving r.body

/-- The token in a reply: its text without the blanks around it, which must leave something. -/
def readToken (r : Reply) : Except Fault String :=
  match (replyText r).map trim with
  | .error m => .error (.mishap m)
  | .ok [] => .error (.authentication "Token service returned an empty token" (some r.status))
  | .ok token => .ok (String.ofList token)

/-- The document in a reply. -/
def readDocument (r : Reply) : Except Fault Value :=
  match Json.parseBytes r.body with
  | .ok v => .ok v
  | .error m@(.tooDeep _) => .error (.mishap m)
  | .error m => .error (.service ("LG service returned invalid JSON: " ++ m.text) (some r.status))

/-! ### Exchanges -/

/-- A request under way: when its answer arrives, what it comes to, and the notices that this is worth. -/
structure Flight (α : Type) where
  ticks : Nat
  result : Except Fault α
  notices : List Notice

/-- A flight with its result read further. -/
def Flight.bind {α β : Type} (f : Flight α) (read : α → Except Fault β) : Flight β :=
  ⟨f.ticks, f.result.bind read, f.notices⟩

/-- A flight that ended before it started. -/
def Flight.grounded {α : Type} (fault : Fault) : Flight α :=
  ⟨0, .error fault, []⟩

/-- What an answer to a request comes to once it is received. -/
def conclude (purpose : Purpose) (request : Request) (answer : Answer) : Except Fault Reply × List Notice :=
  match answer.received request.address with
  | .ok answer => judge purpose answer
  | .error m => (.error (.mishap m), [])

/-- Sends a request, unless it could not be made or the client is closed. -/
def launch (service : Service σ) (purpose : Purpose) (request : Except Fault Request)
    (s : Session σ) : Flight Reply × Session σ :=
  match request with
  | .error e => (.grounded e, s)
  | .ok request =>
    if s.isOpen then
      let (arrival, s) := s.send service request
      let (result, notices) := conclude purpose request arrival.answer
      (⟨arrival.ticks, result, notices⟩, s)
    else (.grounded (.mishap .clientClosed), s)

/-- Waits for a flight: its notices are given, and its result is the result. -/
def land {α : Type} (f : Flight α) (s : Session σ) : Except Fault α × Session σ :=
  (f.result, { s with notices := s.notices ++ f.notices })

/-- Exchanges a key for a token. -/
def issueToken (service : Service σ) (l : Location) (key : Value) : Run σ String :=
  fun s =>
    let (flight, s) := launch service .token (tokenRequest l key) s
    land (flight.bind readToken) s

/-- Sends a document for generation, without waiting for the answer. -/
def launchDocument (service : Service σ) (l : Location) (payload token : Value)
    (s : Session σ) : Flight Value × Session σ :=
  let (flight, s) := launch service .generation (generationRequest l payload token) s
  (flight.bind readDocument, s)

/-- Sends a document for generation and reads the one that comes back. -/
def generate (service : Service σ) (l : Location) (payload token : Value) : Run σ Value :=
  fun s =>
    let (flight, s) := launchDocument service l payload token s
    land flight s

/-- Asks for a phrase, without waiting for the answer. -/
def launchFetch (service : Service σ) (l : Location) (token : String) (request : GenerationRequest)
    (s : Session σ) : Flight GenerationResponse × Session σ :=
  let (flight, s) := launchDocument service l request.payload (.text token) s
  (flight.bind GenerationResponse.ofValue, s)

/-- Asks for a phrase. -/
def fetch (service : Service σ) (l : Location) (token : String) (request : GenerationRequest) :
    Run σ GenerationResponse :=
  fun s =>
    let (flight, s) := launchFetch service l token request s
    land flight s

/-- Sends all requests, one after another. -/
def launchAll (service : Service σ) (l : Location) (token : String) :
    List GenerationRequest → Session σ → List (Flight GenerationResponse) × Session σ
  | [], s => ([], s)
  | request :: rest, s =>
    let (flight, s) := launchFetch service l token request s
    let (flights, s) := launchAll service l token rest s
    (flight :: flights, s)

/-- Waits for flights in the order they finish and joins their results in the order of the requests. -/
def settle (finished : List (Flight GenerationResponse × Nat)) (count : Nat) :
    List (Except Fault GenerationResponse) × List Notice :=
  ((Join.join count finished).map (·.result), finished.flatMap fun (f, _) => f.notices)

/-- The result of a joint fetch: the responses by the references that were asked for, or the first
failure. -/
def outcome (requests : List GenerationRequest) (results : List (Except Fault GenerationResponse)) :
    Except Fault (List (String × GenerationResponse)) × List Notice :=
  match Join.results results with
  | .ok responses => (.ok ((requests.map (·.template)).zip responses), [])
  | .error e =>
    (.error e,
      [⟨.error, toString (Join.failureCount results) ++ " of " ++ toString requests.length ++
        " template fetches failed"⟩])

/-- Asks for many phrases at once. -/
def fetchAll (service : Service σ) (l : Location) (token : String)
    (requests : List GenerationRequest) : Run σ (List (String × GenerationResponse)) :=
  fun s =>
    let (flights, s) := launchAll service l token requests s
    let (results, notices) := settle (Join.completions (·.ticks) flights) requests.length
    let (result, summary) := outcome requests results
    (result, { s with notices := s.notices ++ notices ++ summary })

end Phrasing.Client
