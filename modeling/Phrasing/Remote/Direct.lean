import Phrasing.Gateway.Routes
import Phrasing.Remote.Client

/-!
# Calls that reach a gateway directly

A transport that hands every request to a gateway on the spot and brings back its reply, so that a client, a
gateway and its resolver work together in one session with the service.
-/

namespace Phrasing.Remote

variable {σ : Type}

/-- The request as the gateway receives it. -/
def Outgoing.inquiry (q : Outgoing) : Except Mishap Gateway.Inquiry :=
  match q.body with
  | some v => Gateway.Inquiry.ofTarget q.method q.address [("content-type", "application/json")] (Text.utf8Bytes (Json.render v))
  | none => Gateway.Inquiry.ofTarget q.method q.address [] []

/-- A reply of the gateway as it arrives. -/
def Incoming.ofReply (method : String) (r : Gateway.Reply) : Incoming :=
  ⟨r.status, r.reason, some r.content.type, Text.utf8Bytes (String.ofList (r.chars method))⟩

/-- The way to a gateway that works in a session with the service. -/
def direct (service : Service σ) (resolver : Option Resolver) (callId now : String) : Transport (Session σ) where
  send session q :=
    match q.inquiry with
    | .error m => (.failure ⟨m.label, m.text⟩, session)
    | .ok inquiry =>
      let o := Gateway.answer service resolver callId now inquiry session
      (.reply (.ofReply q.method o.reply), o.session)

end Phrasing.Remote
