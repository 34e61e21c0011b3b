import Phrasing.Exchange.Session

/-! # What a service is asked and what it answers

A service meets the requests of a session one after another.  `Service.answers` are its answers to
them, `Service.after` is the state they leave it in, and `Session.Sends` says that a session went on
by exactly some requests, notices aside.
-/

namespace Phrasing

variable {σ : Type} {service : Service σ}

namespace Service

/-- The answers to requests that reach a service one after another. -/
def answers (service : Service σ) (state : σ) : List Request → List Arrival
  | [] => []
  | request :: rest =>
    (service.answer state request).1 :: service.answers (service.answer state request).2 rest

/-- The state in which requests one after another leave a service. -/
def after (service : Service σ) (state : σ) : List Request → σ
  | [] => state
  | request :: rest => service.after (service.answer state request).2 rest

theorem after_append (state : σ) (first second : List Request) :
    service.after state (first ++ second) = service.after (service.after state first) second := by
  induction first generalizing state with
  | nil => rfl
  | cons request rest ih => exact ih _

@[simp] theorem length_answers (state : σ) (requests : List Request) :
    (service.answers state requests).length = requests.length := by
  induction requests generalizing state with
  | nil => rfl
  | cons request rest ih => exact congrArg (· + 1) (ih _)

end Service

/-- A session that went on by some requests: the service received these and nothing else, and the
client is open if it was. -/
structure Session.Sends (service : Service σ) (s : Session σ) (requests : List Request)
    (s' : Session σ) :
    Prop where
  seen : s'.seen = s.seen ++ requests
  state : s'.service = service.after s.service requests
  isOpen : s'.isOpen = s.isOpen

namespace Session.Sends

/-- Notices alone send nothing. -/
theorem of_notices (s : Session σ) (notices : List Notice) :
    Sends service s [] { s with notices := notices } :=
  ⟨(List.append_nil _).symm, rfl, rfl⟩

theorem refl (s : Session σ) : Sends service s [] s := of_notices s s.notices

theorem trans {s t u : Session σ} {first second : List Request} (hst : Sends service s first t)
    (htu : Sends service t second u) : Sends service s (first ++ second) u where
  seen := by rw [htu.seen, hst.seen, List.append_assoc]
  state := by rw [htu.state, hst.state, Service.after_append]
  isOpen := htu.isOpen.trans hst.isOpen

/-- What a session has given notice of does not matter. -/
theorem withNotices {s t : Session σ} {requests : List Request} (h : Sends service s requests t)
    (notices : List Notice) : Sends service s requests { t with notices := notices } :=
  ⟨h.seen, h.state, h.isOpen⟩

/-- Sending one request. -/
theorem send (s : Session σ) (request : Request) :
    Sends service s [request] (s.send service request).2 :=
  ⟨rfl, rfl, rfl⟩

end Session.Sends

end Phrasing
