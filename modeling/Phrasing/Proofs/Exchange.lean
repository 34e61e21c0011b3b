import Phrasing.Client
import Phrasing.Proofs.Except
import Phrasing.Proofs.Join
import Phrasing.Proofs.Transcript

/-! # What the client asks for and makes of the answers

`tokenResult` and `phraseResult` say what a single answer to a single request comes to.  The token
exchange sends its one request and ends in the result of its answer (`issueToken_open`).  A joint
fetch sends every request that could be made, whatever becomes of the others, and ends in all
responses or in the first fault in the order of the requests (`fetchAll_open`); when the answers
arrive plays no part in that.
-/

namespace Phrasing.Client

variable {σ : Type} {service : Service σ} {l : Location}

/-! ## Single answers -/

/-- What an answer to a request for a token comes to. -/
def tokenResult (request : Request) (answer : Answer) : Except Fault String :=
  (conclude .token request answer).1.bind readToken

/-- What an answer to a request for a phrase comes to. -/
def phraseResult (request : Request) (answer : Answer) : Except Fault GenerationResponse :=
  ((conclude .generation request answer).1.bind readDocument).bind GenerationResponse.ofValue

/-- The request for the phrase of one template that is sent for the bearer of a token. -/
def requestFor (l : Location) (token : String) (g : GenerationRequest) : Except Fault Request :=
  generationRequest l g.payload (.text token)

/-- A request is refused with a status: by a reply that does not tell of success, or by the transport, which
keeps a reply back. -/
inductive Refuses : Answer → Nat → Prop where
  | reply {r : Reply} (h : r.isSuccess = false) : Refuses (.reply r) r.status
  | failure (status : Nat) (m : String) : Refuses (.failure ⟨.status status, m⟩) status

/-- A status that can be told: it does not have too many digits. -/
def IsTold (status : Nat) : Prop :=
  (Scalar.int status).isWritable = true

theorem isTold_of_lt {status : Nat} (h : status < 1000) : IsTold status := by
  -- The power stays a variable, so that it is not evaluated.
  have hall (most : Nat) (hmost : 3 ≤ most) : decide (status < Nat.pow 10 most) = true :=
    decide_eq_true (Nat.lt_of_lt_of_le h (Nat.pow_le_pow_right (Nat.zero_lt_succ 9) hmost))
  exact hall mostDigits (by decide)

/-- A status with which a credential is refused can be told. -/
theorem isTold_of_isRejection {status : Nat} (h : isRejection status = true) : IsTold status := by
  rcases Bool.or_eq_true_iff.mp h with h | h
  · cases beq_iff_eq.mp h
    exact isTold_of_lt (by decide)
  · cases beq_iff_eq.mp h
    exact isTold_of_lt (by decide)

/-- A status of success can be told. -/
theorem isTold_of_isSuccess {r : Reply} (h : r.isSuccess = true) : IsTold r.status := by
  have hle : r.status ≤ 299 := of_decide_eq_true (Bool.and_eq_true_iff.mp h).2
  exact isTold_of_lt (Nat.lt_of_le_of_lt hle (by decide))

/-- What an answer is judged to be. -/
inductive Judged : Answer → Except Fault Reply → Prop where
  | success {r : Reply} (h : r.isSuccess = true) : Judged (.reply r) (.ok r)
  | rejected {answer : Answer} {status : Nat} (h : Refuses answer status)
    (hrejection : isRejection status = true) (m : String) :
    Judged answer (.error (.authentication m (some status)))
  | refused {answer : Answer} {status : Nat} (h : Refuses answer status)
    (hrejection : isRejection status = false) (htold : IsTold status) (m : String) :
    Judged answer (.error (.service m (some status)))
  | untold {answer : Answer} {status : Nat} (h : Refuses answer status)
    (hrejection : isRejection status = false) (htold : ¬ IsTold status) :
    Judged answer (.error (.mishap (.tooManyDigits none)))
  | failed {f : Failure} {name : String} (h : f.cause = .exchange name) (m : String) :
    Judged (.failure f) (.error (.service m none))
  | foreign {f : Failure} {name : String} (h : f.cause = .foreign name) :
    Judged (.failure f) (.error (.mishap (.reported name f.message)))
  | interrupted {f : Failure} {name : String} (h : f.cause = .interruption name) :
    Judged (.failure f) (.error (.mishap (.interrupted name f.message)))

/-- A refusal is judged by its status. -/
theorem judged_refuse (purpose : Purpose) {answer : Answer} {status : Nat} (h : Refuses answer status) :
    Judged answer (refuse purpose status).1 := by
  unfold refuse
  dsimp only
  by_cases hrejection : isRejection status = true
  · rw [if_pos hrejection]
    exact .rejected h hrejection _
  · rw [if_neg hrejection]
    rw [Bool.not_eq_true] at hrejection
    by_cases htold : (Scalar.int status).isWritable = true
    · rw [if_pos htold]
      exact .refused h hrejection htold _
    · rw [if_neg htold]
      exact .untold h hrejection htold

/-- **Every answer is judged by its status or by the class of the failure.** -/
theorem judged (purpose : Purpose) (answer : Answer) : Judged answer (judge purpose answer).1 := by
  cases answer with
  | reply r =>
    by_cases hsuccess : r.isSuccess = true
    · rw [judge, if_pos hsuccess]
      exact .success hsuccess
    · rw [judge, if_neg hsuccess]
      exact judged_refuse purpose (.reply (Bool.not_eq_true _ ▸ hsuccess))
  | failure f =>
    obtain ⟨cause, m⟩ := f
    cases cause with
    | exchange name => exact .failed rfl _
    | status code => exact judged_refuse purpose (.failure code m)
    | foreign name => exact .foreign rfl
    | interruption name => exact .interrupted rfl

/-! ## The token -/

/-- Nothing is sent if the request for a token cannot be made. -/
theorem issueToken_unmade {key : Value} {fault : Fault} (h : tokenRequest l key = .error fault)
    (s : Session σ) : issueToken service l key s = (.error fault, s) := by
  simp only [issueToken, h, launch, Flight.grounded, Flight.bind, land, List.append_nil]
  rfl

/-- Nothing is sent by a closed client. -/
theorem issueToken_closed {key : Value} {request : Request} (h : tokenRequest l key = .ok request)
    {s : Session σ} (hopen : s.isOpen = false) :
    issueToken service l key s = (.error (.mishap .clientClosed), s) := by
  obtain ⟨state, isOpen, seen, notices⟩ := s
  cases hopen
  simp only [issueToken, h, launch, Bool.false_eq_true, if_false, Flight.grounded, Flight.bind,
    land, List.append_nil]
  rfl

/-- **An open client sends one request for a token and ends in what its answer comes to.** -/
theorem issueToken_open (service : Service σ) {key : Value} {request : Request}
    (h : tokenRequest l key = .ok request) {s : Session σ} (hopen : s.isOpen = true) :
    (issueToken service l key s).1 =
        tokenResult request (service.answer s.service request).1.answer ∧
      s.Sends service [request] (issueToken service l key s).2 := by
  simp only [issueToken, h, launch, hopen, if_true]
  exact ⟨rfl, (Session.Sends.send s request).withNotices _⟩

/-- What the exchange of a key for a token comes to through an open client. -/
def tokenOf (service : Service σ) (l : Location) (key : Value) (state : σ) : Except Fault String :=
  (tokenRequest l key).bind fun request =>
    tokenResult request (service.answer state request).1.answer

theorem fst_issueToken (service : Service σ) (l : Location) (key : Value) {s : Session σ}
    (hopen : s.isOpen = true) :
    (issueToken service l key s).1 = tokenOf service l key s.service := by
  unfold tokenOf
  cases hr : tokenRequest l key with
  | error fault => rw [issueToken_unmade hr]; rfl
  | ok request => exact (issueToken_open service hr hopen).1

/-- A token shows that the client is open and has sent the request for it. -/
theorem made_of_issueToken {key : Value} {s t : Session σ} {token : String}
    (h : issueToken service l key s = (.ok token, t)) :
    ∃ request, tokenRequest l key = .ok request ∧ s.isOpen = true ∧
      tokenResult request (service.answer s.service request).1.answer = .ok token ∧
      s.Sends service [request] t := by
  cases hr : tokenRequest l key with
  | error fault =>
    rw [issueToken_unmade hr] at h
    cases h
  | ok request =>
    cases hopen : s.isOpen with
    | true =>
      obtain ⟨hresult, hsends⟩ := issueToken_open service hr hopen
      rw [h] at hresult hsends
      exact ⟨request, rfl, rfl, hresult.symm, hsends⟩
    | false =>
      rw [issueToken_closed hr hopen] at h
      cases h

/-! ## Single documents -/

/-- Nothing is sent if the request for a document cannot be made. -/
theorem generate_unmade {payload bearer : Value} {fault : Fault}
    (h : generationRequest l payload bearer = .error fault) (s : Session σ) :
    generate service l payload bearer s = (.error fault, s) := by
  simp only [generate, launchDocument, h, launch, Flight.grounded, Flight.bind, land,
    List.append_nil]
  rfl

/-- **An open client sends one request for a document and ends in what its answer comes to.** -/
theorem generate_open (service : Service σ) {payload bearer : Value} {request : Request}
    (h : generationRequest l payload bearer = .ok request) {s : Session σ}
    (hopen : s.isOpen = true) :
    (generate service l payload bearer s).1 = (conclude .generation request
        (service.answer s.service request).1.answer).1.bind readDocument ∧
      s.Sends service [request] (generate service l payload bearer s).2 := by
  simp only [generate, launchDocument, h, launch, hopen, if_true]
  exact ⟨rfl, (Session.Sends.send s request).withNotices _⟩

/-! ## Joint fetches -/

/-- What each of many fetches through an open client comes to; a request that cannot be made does
not reach the service. -/
def fetches (service : Service σ) (l : Location) (token : String) (state : σ) :
    List GenerationRequest → List (Except Fault GenerationResponse)
  | [] => []
  | g :: rest =>
    match requestFor l token g with
    | .error fault => .error fault :: fetches service l token state rest
    | .ok request =>
      phraseResult request (service.answer state request).1.answer ::
        fetches service l token (service.answer state request).2 rest

@[simp] theorem length_fetches (token : String) (state : σ) (gs : List GenerationRequest) :
    (fetches service l token state gs).length = gs.length := by
  induction gs generalizing state with
  | nil => rfl
  | cons g rest ih =>
    rw [fetches]
    split
    · exact congrArg (· + 1) (ih _)
    · exact congrArg (· + 1) (ih _)

/-- The requests that can be made. -/
def requestsFor (l : Location) (token : String) (gs : List GenerationRequest) : List Request :=
  gs.filterMap fun g => (requestFor l token g).toOption

/-- Launching one fetch after another sends all requests that can be made, and what the flights come
to is what the fetches come to. -/
theorem launchAll_open (service : Service σ) (l : Location) (token : String)
    (gs : List GenerationRequest) {s : Session σ} (hopen : s.isOpen = true) :
    (launchAll service l token gs s).1.map (·.result) = fetches service l token s.service gs ∧
      s.Sends service (requestsFor l token gs) (launchAll service l token gs s).2 := by
  -- The session goes on with every request, so the induction is for all sessions.
  induction gs generalizing s with
  | nil => exact ⟨rfl, Session.Sends.refl s⟩
  | cons g rest ih =>
    cases hr : requestFor l token g with
    | error fault =>
      have hlaunch : launchFetch service l token g s = (.grounded fault, s) := by
        unfold requestFor at hr
        simp only [launchFetch, launchDocument, hr, launch]
        rfl
      obtain ⟨hresults, hsends⟩ := ih hopen
      simp only [launchAll, hlaunch, fetches, hr, requestsFor, List.filterMap_cons, Except.toOption]
      exact ⟨congrArg (_ :: ·) hresults, hsends⟩
    | ok request =>
      have hflight : (launchFetch service l token g s).1.result =
          phraseResult request (service.answer s.service request).1.answer := by
        unfold requestFor at hr
        simp only [launchFetch, launchDocument, hr, launch, hopen, if_true]
        rfl
      have hsession : (launchFetch service l token g s).2 = (s.send service request).2 := by
        unfold requestFor at hr
        simp only [launchFetch, launchDocument, hr, launch, hopen, if_true]
      obtain ⟨hresults, hsends⟩ := ih (s := (s.send service request).2) hopen
      simp only [launchAll, fetches, hr, requestsFor, List.filterMap_cons, Except.toOption]
      rw [List.map_cons, hflight, hsession]
      exact ⟨congrArg (_ :: ·) hresults, (Session.Sends.send s request).trans hsends⟩

theorem length_launchAll (service : Service σ) (l : Location) (token : String)
    (gs : List GenerationRequest) (s : Session σ) :
    (launchAll service l token gs s).1.length = gs.length := by
  induction gs generalizing s with
  | nil => rfl
  | cons g rest ih => exact congrArg (· + 1) (ih _)

/-- The responses under the references that were asked for, or the first fault. -/
def joined (gs : List GenerationRequest) (results : List (Except Fault GenerationResponse)) :
    Except Fault (List (String × GenerationResponse)) :=
  (Join.results results).map ((gs.map (·.template)).zip ·)

/-- **A joint fetch through an open client** sends every request that can be made, and ends in what
the fetches come to in the order of the requests. -/
theorem fetchAll_open (service : Service σ) (l : Location) (token : String)
    (gs : List GenerationRequest) {s : Session σ} (hopen : s.isOpen = true) :
    (fetchAll service l token gs s).1 = joined gs (fetches service l token s.service gs) ∧
      s.Sends service (requestsFor l token gs) (fetchAll service l token gs s).2 := by
  obtain ⟨hresults, hsends⟩ := launchAll_open service l token gs hopen
  -- The flights land in any order, and the join puts them back into that of the requests.
  have hsettle : ∀ flights : List (Flight GenerationResponse), flights.length = gs.length →
      (settle (Join.completions (·.ticks) flights) gs.length).1 = flights.map (·.result) := by
    intro flights hlength
    rw [settle, ← hlength, Join.join_of_perm (Join.completions_perm _ flights)]
  have houtcome : ∀ results, (outcome gs results).1 = joined gs results := by
    intro results
    unfold outcome joined
    cases Join.results results <;> rfl
  refine ⟨?_, hsends.withNotices _⟩
  show (outcome gs (settle _ _).1).1 = _
  rw [houtcome, hsettle _ (length_launchAll service l token gs s), hresults]

/-! ## All requests made -/

/-- If all requests can be made, the service answers them one after another. -/
theorem fetches_made {token : String} {gs : List GenerationRequest} {requests : List Request}
    (h : gs.map (requestFor l token) = requests.map .ok) (state : σ) :
    fetches service l token state gs =
      List.zipWith (fun request arrival => phraseResult request arrival.answer) requests
        (service.answers state requests) := by
  induction gs generalizing requests state with
  | nil =>
    cases requests with
    | nil => rfl
    | cons request rest => cases h
  | cons g gs ih =>
    cases requests with
    | nil => cases h
    | cons request rest =>
      obtain ⟨hg, hgs⟩ := List.cons.inj h
      simp only [fetches, hg, Service.answers, List.zipWith_cons_cons]
      exact congrArg (_ :: ·) (ih hgs _)

theorem requestsFor_made {token : String} {gs : List GenerationRequest} {requests : List Request}
    (h : gs.map (requestFor l token) = requests.map .ok) : requestsFor l token gs = requests := by
  have hfilter : requestsFor l token gs =
      (gs.map (requestFor l token)).filterMap Except.toOption := by
    rw [requestsFor, List.filterMap_map]
    rfl
  have hsome : Except.toOption ∘ (Except.ok : Request → Except Fault Request) = some := rfl
  rw [hfilter, h, List.filterMap_map, hsome, List.filterMap_some]

end Phrasing.Client
