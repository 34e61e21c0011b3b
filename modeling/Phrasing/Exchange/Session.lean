import Phrasing.Exchange.Message

/-!
# Sessions

A session with a service: the state the service is in, whether the client is still open, the requests the
service has received, and the notices given along the way.  A `Run` is a computation in a session that may
end in a fault; what happened before the fault stays recorded.
-/

namespace Phrasing

/-- A session with a service whose states are of type `σ`. -/
structure Session (σ : Type) where
  service : σ
  isOpen : Bool
  seen : List Request
  notices : List Notice

namespace Session

/-- A session in which nothing happened yet. -/
def start {σ : Type} (service : σ) : Session σ :=
  ⟨service, true, [], []⟩

/-- A session with nothing recorded so far. -/
def fresh {σ : Type} (s : Session σ) : Session σ :=
  { s with seen := [], notices := [] }

/-- Adds a notice. -/
def note {σ : Type} (severity : Severity) (text : String) (s : Session σ) : Session σ :=
  { s with notices := s.notices ++ [⟨severity, text⟩] }

/-- Ends the session on the client's side. -/
def close {σ : Type} (s : Session σ) : Session σ :=
  { s with isOpen := false }

/-- Sends a request and records it. -/
def send {σ : Type} (service : Service σ) (request : Request) (s : Session σ) : Arrival × Session σ :=
  let (arrival, state) := service.answer s.service request
  (arrival, { s with service := state, seen := s.seen ++ [request] })

end Session

/-- A computation in a session. -/
abbrev Run (σ α : Type) := ExceptT Fault (StateM (Session σ)) α

namespace Run

/-- Adds an error notice. -/
def error {σ : Type} (text : String) : Run σ Unit :=
  modify (Session.note .error text)

/-- Goes on with a result or ends in a fault. -/
def ofExcept {σ α : Type} (x : Except Fault α) : Run σ α :=
  ExceptT.mk (pure x)

end Run

end Phrasing
