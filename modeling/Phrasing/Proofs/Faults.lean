import Phrasing.Proofs.Answers
import Phrasing.Proofs.Documents
import Phrasing.Proofs.WireFormat

/-! # The faults of each stage

Arguments and entities are refused with faults that no request comes to.  Whatever a request comes
to is a fault of the service, of the credential, of a wire value, or a mishap; and where it has a status, this
was told in a notice and can be told again (`Fault.IsRemote`).
-/

namespace Phrasing

/-- The status in a fault, if there is one, can be told. -/
def Fault.StatusTold (fault : Fault) : Prop :=
  ∀ status, fault.status? = some status → Client.IsTold status

theorem Fault.statusTold_of_none {fault : Fault} (h : fault.status? = none) : fault.StatusTold := by
  intro status hstatus
  cases h.symm.trans hstatus

/-- The faults that requests and their answers come to. -/
inductive Fault.IsRemote : Fault → Prop where
  | authentication {status : Option Nat} (h : ∀ n, status = some n → Client.IsTold n) (m : String) :
    IsRemote (.authentication m status)
  | service {status : Option Nat} (h : ∀ n, status = some n → Client.IsTold n) (m : String) :
    IsRemote (.service m status)
  | malformed (m : String) : IsRemote (.malformed m)
  | mishap (cause : Mishap) : IsRemote (.mishap cause)

/-- The status of a fault that requests come to can be told. -/
theorem Fault.IsRemote.statusTold {fault : Fault} (h : fault.IsRemote) : fault.StatusTold := by
  cases h with
  | authentication h _ | service h _ => exact h
  | malformed | mishap => exact statusTold_of_none rfl

theorem isRemote_of_mapError {α : Type} {x : Except Mishap α} {fault : Fault}
    (h : x.mapError Fault.mishap = .error fault) : fault.IsRemote := by
  obtain ⟨m, _, rfl⟩ := mapError_eq_error.mp h
  exact .mishap m

namespace WireValue

/-- Decoding refuses what it cannot read as a wire value. -/
theorem isRemote_of_decode {data : Value} {fault : Fault} (h : decode data = .error fault) :
    fault.IsRemote := by
  rcases decode_eq_error h with ⟨m, rfl⟩ | ⟨m, rfl⟩
  · exact .malformed m
  · exact .mishap m

end WireValue

namespace Client

theorem isRemote_of_address {v : Value} {fault : Fault} (h : address v = .error fault) :
    fault.IsRemote := by
  unfold address at h
  split at h
  · exact isRemote_of_mapError h
  · cases h
    exact .mishap _

theorem isRemote_of_tokenRequest {l : Location} {key : Value} {fault : Fault}
    (h : tokenRequest l key = .error fault) : fault.IsRemote := by
  rcases bind_eq_error.mp h with h | ⟨_, _, h⟩
  · exact isRemote_of_address h
  rcases bind_eq_error.mp h with h | ⟨_, _, h⟩
  · exact isRemote_of_mapError h
  rcases bind_eq_error.mp h with h | ⟨_, _, h⟩
  · exact isRemote_of_mapError h
  · cases h

theorem isRemote_of_phraseRequests {l : Location} {token : String} {scenario locale : Value}
    {slots : List Slot}
    {fault : Fault} (h : phraseRequests l token scenario locale slots = .error fault) :
    fault.IsRemote := by
  rcases bind_eq_error.mp h with h | ⟨_, _, h⟩
  · exact isRemote_of_address h
  rcases bind_eq_error.mp h with h | ⟨_, _, h⟩
  · exact isRemote_of_mapError h
  rcases bind_eq_error.mp h with h | ⟨_, _, h⟩
  · exact isRemote_of_mapError h
  rcases bind_eq_error.mp h with h | ⟨_, _, h⟩
  · exact isRemote_of_mapError h
  · cases h

theorem told_of_isSuccess {r : Reply} (h : r.isSuccess = true) (n : Nat) (hn : some r.status = some n) :
    IsTold n := by
  cases hn
  exact isTold_of_isSuccess h

theorem isRemote_of_conclude {purpose : Purpose} {request : Request} {answer : Answer}
    {fault : Fault}
    (h : (conclude purpose request answer).1 = .error fault) : fault.IsRemote := by
  unfold conclude at h
  split at h
  · rename_i received _
    have hjudged := judged purpose received
    rw [h] at hjudged
    cases hjudged with
    | rejected _ hrejection m =>
      refine .authentication (fun n hn => ?_) m
      cases hn
      exact isTold_of_isRejection hrejection
    | refused _ _ htold m =>
      refine .service (fun n hn => ?_) m
      cases hn
      exact htold
    | failed _ m => exact .service (fun _ hn => by cases hn) m
    | untold | foreign | interrupted => exact .mishap _
  · cases h
    exact .mishap _

theorem isRemote_of_readToken {reply : Reply} {fault : Fault} (hreply : reply.isSuccess = true)
    (h : readToken reply = .error fault) : fault.IsRemote := by
  unfold readToken at h
  split at h
  · cases h
    exact .mishap _
  · cases h
    exact .authentication (told_of_isSuccess hreply) _
  · cases h

theorem isRemote_of_readDocument {reply : Reply} {fault : Fault} (hreply : reply.isSuccess = true)
    (h : readDocument reply = .error fault) : fault.IsRemote := by
  unfold readDocument at h
  split at h
  · cases h
  · cases h
    exact .mishap _
  · cases h
    exact .service (told_of_isSuccess hreply) _

theorem isRemote_of_tokenResult {request : Request} {answer : Answer} {fault : Fault}
    (h : tokenResult request answer = .error fault) : fault.IsRemote := by
  rcases bind_eq_error.mp h with h | ⟨reply, hreply, h⟩
  · exact isRemote_of_conclude h
  · exact isRemote_of_readToken (conclude_eq_ok.mp hreply).2 h

/-- **What the exchange for a token comes to instead of one.** -/
theorem isRemote_of_tokenOf {σ : Type} {service : Service σ} {l : Location} {key : Value}
    {state : σ}
    {fault : Fault} (h : tokenOf service l key state = .error fault) : fault.IsRemote := by
  rcases bind_eq_error.mp h with h | ⟨request, _, h⟩
  · exact isRemote_of_tokenRequest h
  · exact isRemote_of_tokenResult h

/-- Nor does it come to anything else through a closed client. -/
theorem isRemote_of_issueToken {σ : Type} {service : Service σ} {l : Location} {key : Value} {s t : Session σ}
    {fault : Fault} (h : issueToken service l key s = (.error fault, t)) : fault.IsRemote := by
  cases hopen : s.isOpen with
  | true =>
    have hresult := fst_issueToken service l key hopen
    rw [h] at hresult
    exact isRemote_of_tokenOf hresult.symm
  | false =>
    cases hrequest : tokenRequest l key with
    | error fault' =>
      rw [issueToken_unmade hrequest] at h
      cases h
      exact isRemote_of_tokenRequest hrequest
    | ok request =>
      rw [issueToken_closed hrequest hopen] at h
      cases h
      exact .mishap _

/-- **What a request for a phrase comes to instead of a response.** -/
theorem isRemote_of_phraseResult {request : Request} {answer : Answer} {fault : Fault}
    (h : phraseResult request answer = .error fault) : fault.IsRemote := by
  rcases bind_eq_error.mp h with h | ⟨document, _, h⟩
  · rcases bind_eq_error.mp h with h | ⟨reply, hreply, h⟩
    · exact isRemote_of_conclude h
    · exact isRemote_of_readDocument (conclude_eq_ok.mp hreply).2 h
  · unfold GenerationResponse.ofValue at h
    split at h
    · cases h
    · exact WireValue.isRemote_of_decode (map_eq_error.mp h)

/-- What any of many fetches comes to instead of a response. -/
theorem isRemote_of_fetches {σ : Type} {service : Service σ} {l : Location} {token : String}
    {scenario locale : Value} {slots : List Slot} {names : List String} {state : σ} {fault : Fault}
    (h : .error fault ∈ fetches service l token state
      (GenerationRequest.forReferences scenario locale slots names)) : fault.IsRemote := by
  induction names generalizing state with
  | nil => cases h
  | cons name names ih =>
    rw [GenerationRequest.forReferences, List.map_cons, fetches, requestFor_eq] at h
    cases hmake : phraseRequests l token scenario locale slots with
    | error fault' =>
      rw [hmake] at h
      rcases List.mem_cons.mp h with h | h
      · cases h
        exact isRemote_of_phraseRequests hmake
      · exact ih h
    | ok make =>
      rw [hmake] at h
      rcases List.mem_cons.mp h with h | h
      · exact isRemote_of_phraseResult h.symm
      · exact ih h

/-- What a joint fetch comes to instead of responses. -/
theorem isRemote_of_fetchAll {σ : Type} {service : Service σ} {l : Location} {token : String}
    {scenario locale : Value} {slots : List Slot} {names : List String} {fault : Fault}
    {s t : Session σ} (hopen : s.isOpen = true)
    (h : fetchAll service l token (GenerationRequest.forReferences scenario locale slots names) s =
      (.error fault, t)) : fault.IsRemote := by
  obtain ⟨hjoined, _⟩ := fetchAll_open service l token
    (GenerationRequest.forReferences scenario locale slots names) hopen
  rw [h] at hjoined
  obtain ⟨before, rest, hfetches⟩ := Join.results_eq_error_iff.mp (map_eq_error.mp hjoined.symm)
  refine @isRemote_of_fetches σ service l token scenario locale slots names s.service fault ?_
  rw [hfetches]
  exact List.mem_append_right _ List.mem_cons_self

end Client

end Phrasing
