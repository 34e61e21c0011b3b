import Phrasing.Proofs.Answers
import Phrasing.Proofs.Endpoints
import Phrasing.Proofs.FailureTexts
import Phrasing.Proofs.Resolution
import Phrasing.Proofs.Translation

/-! # Where the credentials of a call get to

Two runs of a call that differ in the key of the endpoint, and in the token that the service gives
for it, differ in the requests only where these carry the credentials, and else at most in the texts of failures:
a transport that is given a header may report that it cannot send it, and quote it.  What it reports gets into the
fault of the call, the notices and the journal (`Resolver.not_alike_quoted`).  Where it is the same for both
runs, nothing else differs: not the result, the subject, the journal or the notices (`Resolver.resolve_alike`).  Run by
run and stage by stage the two go side by side: a stage ends in akin faults in both or in values that
belong together, and leaves two calls that are akin if it was given two such.
-/

namespace Phrasing

variable {σ τ : Type} {α α' β β' : Type}

/-! ## Requests without their credentials -/

namespace Request

/-- A request with its credentials blotted out. -/
def withoutCredentials : Request → Request
  | .token address _ => .token address ""
  | .generation address _ body => .generation address "" body

/-- The request for a phrase that the bearer of a token makes.  Credentials in the address come
before the token. -/
def ofBearer (address : Address) (token : String) (body : Value) : Request :=
  .generation address (address.credentials?.getD ("Bearer " ++ token)) body

end Request

/-- What stands in a header is the text that it was made of. -/
theorem Header.eq_of_ofText {s text : String} (h : Header.ofText s = .ok text) : text = s := by
  unfold Header.ofText at h
  split at h
  · exact (Except.ok.inj h).symm
  · cases h

/-- Two texts that may both stand in a header, or that are one and the same. -/
def Interchangeable (text text' : String) : Prop :=
  text = text' ∨ text.toList.all Text.isAscii = true ∧ text'.toList.all Text.isAscii = true

namespace Client

/-- Requests for a token differ in the key. -/
theorem paired_tokenRequest (l : Location) {key key' : String}
    (hkey : key.toList.all Text.isAscii = true) (hkey' : key'.toList.all Text.isAscii = true) :
    Paired Eq (fun request request' =>
        ∃ address, request = .token address key ∧ request' = .token address key')
      (tokenRequest l (.text key)) (tokenRequest l (.text key')) := by
  refine (Paired.refl (fun _ => rfl) (address l.token)).bind fun address _ haddress => ?_
  cases haddress
  simp only [Header.ofValue, Header.ofText_ascii hkey, Header.ofText_ascii hkey', mapError_ok]
  refine (Paired.refl (fun _ => rfl) (address.checkHost.mapError Fault.mishap)).bind fun _ _ _ => ?_
  exact .ok ⟨address, rfl, rfl⟩

/-- Requests for a phrase differ in the token. -/
theorem paired_generationRequest (l : Location) (payload : Value) {token token' : String}
    (h : Interchangeable token token') :
    Paired Eq (fun request request' => ∃ address body,
        request = Request.ofBearer address token body ∧
          request' = Request.ofBearer address token' body)
      (generationRequest l payload (.text token)) (generationRequest l payload (.text token')) := by
  cases payload with
  | mapping entries =>
    refine (Paired.refl (fun _ => rfl) (address (.text l.generation))).bind fun address _ haddress => ?_
    cases haddress
    have hbearer : Paired Eq (fun authorization authorization' =>
          authorization = "Bearer " ++ token ∧ authorization' = "Bearer " ++ token')
        ((Header.ofText ("Bearer " ++ token)).mapError .mishap)
        ((Header.ofText ("Bearer " ++ token')).mapError .mishap) := by
      rcases h with rfl | ⟨hascii, hascii'⟩
      · cases htext : Header.ofText ("Bearer " ++ token) with
        | error m => exact .error rfl
        | ok text => exact .ok ⟨Header.eq_of_ofText htext, Header.eq_of_ofText htext⟩
      · rw [Header.ofText_bearer hascii, Header.ofText_bearer hascii']
        exact .ok ⟨rfl, rfl⟩
    refine hbearer.bind fun authorization authorization' hauthorization => ?_
    obtain ⟨rfl, rfl⟩ := hauthorization
    refine (Paired.refl (fun _ => rfl) ((Json.sendable (.mapping entries)).mapError Fault.mishap)).bind
      fun body _ hbody => ?_
    cases hbody
    refine (Paired.refl (fun _ => rfl) (address.checkHost.mapError Fault.mishap)).bind fun _ _ _ => ?_
    exact .ok ⟨address, body, rfl, rfl⟩
  | scalar | list | tuple | set | record => exact .error rfl

end Client

/-! ## Answers that differ in the token -/

/-- A reply carries a token: with the codings of the body undone and the blanks around it cut off, there
is a text left. -/
def Reply.Carries (r : Reply) (token : String) : Prop :=
  ∃ expanded, r.expanded = .ok expanded ∧ Client.readToken expanded = .ok token

/-- Two arrivals with the same answer, with akin failures, or with replies of the same status that refer to the same
place and each carry a token.  A token in one belongs together with the token in the other. -/
inductive Arrival.SameButToken (Tokens Texts : String → String → Prop) : Arrival → Arrival → Prop where
  | same (x : Arrival)
    (h : ∀ r token, x.answer = .reply r → r.isSuccess = true → r.Carries token →
      Tokens token token) :
    SameButToken Tokens Texts x x
  | failing (cause : Cause) {text text' : String} (ticks : Nat) (h : Texts text text') :
    SameButToken Tokens Texts ⟨.failure ⟨cause, text⟩, ticks⟩ ⟨.failure ⟨cause, text'⟩, ticks⟩
  | carrying {r r' : Reply} {token token' : String} (ticks : Nat) (hstatus : r.status = r'.status)
    (hlocation : r.location? = r'.location?) (h : r.Carries token) (h' : r'.Carries token')
    (htokens : Tokens token token') : SameButToken Tokens Texts ⟨.reply r, ticks⟩ ⟨.reply r', ticks⟩

/-- What is received as a reply is a reply with its codings undone. -/
theorem Answer.expanded_of_received {answer : Answer} {address : Address} {reply : Reply}
    (h : answer.received address = .ok (.reply reply)) :
    ∃ r, answer = .reply r ∧ r.expanded = .ok reply := by
  cases answer with
  | failure f => cases h
  | reply r =>
    refine ⟨r, rfl, ?_⟩
    cases hexpanded : r.expanded with
    | error stop =>
      simp only [received, hexpanded] at h
      cases h
    | ok expanded =>
      simp only [received, hexpanded] at h
      split at h
      · cases h
      · split at h
        · cases h
          rfl
        · split at h
          · cases h
          · obtain ⟨_, _, hreply⟩ := map_eq_ok.mp h
            cases hreply
            rfl

namespace Client

/-- What an answer comes to depends on the address of the request only. -/
theorem conclude_congr (purpose : Purpose) (request request' : Request)
    (h : request.address = request'.address) (answer : Answer) :
    conclude purpose request answer = conclude purpose request' answer := by
  unfold conclude
  rw [h]

/-- A reply is judged by its status. -/
theorem judge_congr (purpose : Purpose) {e e' : Reply} (h : e.status = e'.status) :
    Paired Eq (fun x x' => x = e ∧ x' = e') (judge purpose (.reply e)).1 (judge purpose (.reply e')).1 ∧
      (judge purpose (.reply e)).2 = (judge purpose (.reply e')).2 := by
  have hsuccess : e.isSuccess = e'.isSuccess := by rw [Reply.isSuccess, Reply.isSuccess, h]
  unfold judge
  simp only [hsuccess, h]
  cases e'.isSuccess with
  | true => exact ⟨.ok ⟨rfl, rfl⟩, rfl⟩
  | false =>
    simp only [Bool.false_eq_true, if_false, and_true]
    unfold refuse
    dsimp only
    split
    · exact .error rfl
    · split
      · exact .error rfl
      · exact .error rfl

/-- Two replies with the same status that refer to the same place come to the same, but for their
bodies. -/
theorem conclude_reply (purpose : Purpose) {request request' : Request}
    (haddress : request.address = request'.address) {r r' e e' : Reply}
    (hstatus : r.status = r'.status) (hplace : r.location? = r'.location?)
    (he : r.expanded = .ok e) (he' : r'.expanded = .ok e') :
    Paired Eq (fun x x' => x = e ∧ x' = e') (conclude purpose request (.reply r)).1
        (conclude purpose request' (.reply r')).1 ∧
      (conclude purpose request (.reply r)).2 = (conclude purpose request' (.reply r')).2 := by
  obtain ⟨hestatus, _, helocation⟩ := eq_of_expanded he
  obtain ⟨hestatus', _, helocation'⟩ := eq_of_expanded he'
  have hjudge := judge_congr purpose (hestatus.trans (hstatus.trans hestatus'.symm))
  have hlocation := helocation.trans (hplace.trans helocation'.symm)
  simp only [conclude, Answer.received, he, he', haddress, hlocation]
  cases habsolute : request'.address.isAbsolute with
  | false => exact ⟨.error rfl, rfl⟩
  | true =>
    cases e'.location? with
    | none => exact hjudge
    | some place =>
      dsimp only
      cases Address.ofChars place.toList with
      | error m => exact ⟨.error rfl, rfl⟩
      | ok place' =>
        dsimp only
        cases request'.address.checkReferral place' with
        | error m => exact ⟨.error rfl, rfl⟩
        | ok _ => exact hjudge

/-- **Answers that differ only in the token**, or in the text of a failure, come to tokens that belong together, or to
akin faults, and are worth akin notices. -/
theorem akin_tokenResult {Tokens Texts : String → String → Prop} (request request' : Request)
    (haddress : request.address = request'.address) {x x' : Arrival}
    (h : x.SameButToken Tokens Texts x') :
    x.ticks = x'.ticks ∧
      Paired (Fault.Akin Texts) Tokens ((conclude .token request x.answer).1.bind readToken)
        ((conclude .token request' x'.answer).1.bind readToken) ∧
      List.Forall₂ (Notice.Akin Texts) (conclude .token request x.answer).2
        (conclude .token request' x'.answer).2 := by
  cases h with
  | same x hsame =>
    rw [conclude_congr .token request request' haddress]
    refine ⟨rfl, ?_, Notice.akin_refl _⟩
    cases hresult : (conclude .token request' x.answer).1.bind readToken with
    | error fault => exact .error (.same fault)
    | ok token =>
      obtain ⟨reply, hreply, htoken⟩ := bind_eq_ok.mp hresult
      obtain ⟨hreceived, hsuccess⟩ := conclude_eq_ok.mp hreply
      obtain ⟨r, hanswer, hexpanded⟩ := Answer.expanded_of_received hreceived
      rw [(eq_of_expanded hexpanded).2.1] at hsuccess
      exact .ok (hsame r token hanswer hsuccess ⟨reply, hexpanded, htoken⟩)
  | @failing cause text text' ticks htexts =>
    obtain ⟨hresults, hnotices⟩ := akin_conclude .token haddress (.failing cause htexts)
    refine ⟨rfl, ?_, hnotices⟩
    -- A failure is no reply, so there is nothing to read a token from.
    have hnot (reply : Reply) : (conclude .token request (.failure ⟨cause, text⟩)).1 ≠ .ok reply := by
      intro h
      cases (conclude_eq_ok.mp h).1
    dsimp only
    generalize (conclude .token request _).1 = result at hresults hnot ⊢
    generalize (conclude .token request' _).1 = result' at hresults ⊢
    cases hresults with
    | error h => exact .error h
    | ok h => exact absurd rfl (hnot _)
  | carrying ticks hstatus hplace hr hr' htokens =>
    obtain ⟨e, he, htoken⟩ := hr
    obtain ⟨e', he', htoken'⟩ := hr'
    obtain ⟨hpaired, hnotices⟩ := conclude_reply .token haddress hstatus hplace he he'
    refine ⟨rfl, (hpaired.mono fun _ _ h => h ▸ .same _).bind fun a a' ha => ?_, ?_⟩
    · obtain ⟨rfl, rfl⟩ := ha
      rw [htoken, htoken']
      exact .ok htokens
    · rw [hnotices]
      exact Notice.akin_refl _

end Client

/-! ## Services that go by the credentials only where they give them -/

/-- Two services answer alike, the one under a key and the other under another key, as long as they
are in states that belong together: on a request for a token they may give different tokens, and
bearers of tokens that belong together get the same answers.  The texts in which failures are reported need only
stand for each other. -/
structure Service.Counterparts (service : Service σ) (service' : Service τ) (key key' : String)
    (Tokens Texts : String → String → Prop) (R : σ → τ → Prop) : Prop where
  interchangeable : ∀ token token', Tokens token token' → Interchangeable token token'
  token : ∀ s t address, R s t →
    (service.answer s (.token address key)).1.SameButToken Tokens Texts
        (service'.answer t (.token address key')).1 ∧
      R (service.answer s (.token address key)).2 (service'.answer t (.token address key')).2
  generation : ∀ s t address token token' body, R s t → Tokens token token' →
    (service.answer s (.ofBearer address token body)).1.ticks =
        (service'.answer t (.ofBearer address token' body)).1.ticks ∧
      (service.answer s (.ofBearer address token body)).1.answer.Akin Texts
        (service'.answer t (.ofBearer address token' body)).1.answer ∧
      R (service.answer s (.ofBearer address token body)).2
        (service'.answer t (.ofBearer address token' body)).2

/-- Two sessions are akin: the services are in states that belong together, what was sent is the same, credentials
aside, and the notices given are akin. -/
structure Session.Akin (Texts : String → String → Prop) (R : σ → τ → Prop) (s : Session σ) (t : Session τ) :
    Prop where
  service : R s.service t.service
  isOpen : s.isOpen = t.isOpen
  seen : s.seen.map Request.withoutCredentials = t.seen.map Request.withoutCredentials
  notices : List.Forall₂ (Notice.Akin Texts) s.notices t.notices

/-- They are alike if the notices are the same. -/
structure Session.Alike (R : σ → τ → Prop) (s : Session σ) (t : Session τ) : Prop where
  service : R s.service t.service
  isOpen : s.isOpen = t.isOpen
  seen : s.seen.map Request.withoutCredentials = t.seen.map Request.withoutCredentials
  notices : s.notices = t.notices

namespace Session

variable {service : Service σ} {service' : Service τ} {Texts : String → String → Prop} {R : σ → τ → Prop}
  {s : Session σ} {t : Session τ}

theorem Alike.akin (h : s.Alike R t) : s.Akin Texts R t :=
  ⟨h.service, h.isOpen, h.seen, h.notices ▸ Notice.akin_refl _⟩

/-- Where only equal texts stand for each other, akin sessions are alike. -/
theorem Akin.alike (h : s.Akin Texts R t) (hT : ∀ text text', Texts text text' → text = text') : s.Alike R t :=
  ⟨h.service, h.isOpen, h.seen, Notice.eq_of_akin hT h.notices⟩

namespace Akin

/-- Akin sessions with akin notices added are akin. -/
theorem withNotices (h : s.Akin Texts R t) {notices notices' : List Notice}
    (hnotices : List.Forall₂ (Notice.Akin Texts) notices notices') :
    Session.Akin Texts R { s with notices := s.notices ++ notices }
      { t with notices := t.notices ++ notices' } :=
  ⟨h.service, h.isOpen, h.seen, Notice.akin_append h.notices hnotices⟩

/-- Sending requests that are the same but for the credentials leaves akin sessions akin. -/
theorem send (h : s.Akin Texts R t) (request request' : Request)
    (hrequest : request.withoutCredentials = request'.withoutCredentials)
    (hstate : R (service.answer s.service request).2 (service'.answer t.service request').2) :
    (s.send service request).2.Akin Texts R (t.send service' request').2 := by
  refine ⟨hstate, h.isOpen, ?_, h.notices⟩
  simp only [Session.send, List.map_append, h.seen, List.map_cons, List.map_nil, hrequest]

end Akin

end Session

namespace Client

section Runs

variable {service : Service σ} {service' : Service τ} {key key' : String}
  {Tokens Texts : String → String → Prop} {R : σ → τ → Prop} {s : Session σ} {t : Session τ}

/-- A token is obtained in both sessions, or neither. -/
theorem akin_issueToken (h : service.Counterparts service' key key' Tokens Texts R)
    (hkey : key.toList.all Text.isAscii = true) (hkey' : key'.toList.all Text.isAscii = true)
    (l : Location) (hs : s.Akin Texts R t) :
    Paired (Fault.Akin Texts) Tokens (issueToken service l (.text key) s).1
        (issueToken service' l (.text key') t).1 ∧
      (issueToken service l (.text key) s).2.Akin Texts R (issueToken service' l (.text key') t).2 := by
  have hrequest := paired_tokenRequest l hkey hkey'
  unfold issueToken
  generalize tokenRequest l (.text key) = request at hrequest
  generalize tokenRequest l (.text key') = request' at hrequest
  cases hrequest with
  | error hfault =>
    subst hfault
    exact ⟨.error (.same _), hs.withNotices .nil⟩
  | ok hmade =>
    obtain ⟨address, rfl, rfl⟩ := hmade
    unfold launch
    simp only [hs.isOpen]
    cases t.isOpen with
    | false => exact ⟨.error (.same _), hs.withNotices .nil⟩
    | true =>
      obtain ⟨hsame, hstate⟩ := h.token s.service t.service address hs.service
      obtain ⟨_, hresult, hnotices⟩ :=
        akin_tokenResult (.token address key) (.token address key') rfl hsame
      have hsent := hs.send (.token address key) (.token address key') rfl hstate
      exact ⟨hresult, hsent.withNotices hnotices⟩

/-- A request for a phrase comes to akin flights in both sessions, if the bearers belong together. -/
theorem akin_launchFetch (h : service.Counterparts service' key key' Tokens Texts R)
    {token token' : String} (htokens : Tokens token token') (l : Location) (g : GenerationRequest)
    (hs : s.Akin Texts R t) :
    (launchFetch service l token g s).1.Akin Texts (launchFetch service' l token' g t).1 ∧
      (launchFetch service l token g s).2.Akin Texts R (launchFetch service' l token' g t).2 := by
  have hgrounded (fault : Fault) :
      (Flight.grounded fault : Flight GenerationResponse).Akin Texts (.grounded fault) :=
    ⟨rfl, .error (.same fault), .nil⟩
  have hrequest := paired_generationRequest l g.payload (h.interchangeable token token' htokens)
  unfold launchFetch launchDocument
  generalize generationRequest l g.payload (.text token) = request at hrequest
  generalize generationRequest l g.payload (.text token') = request' at hrequest
  cases hrequest with
  | error hfault =>
    subst hfault
    exact ⟨hgrounded _, hs⟩
  | ok hmade =>
    obtain ⟨address, body, rfl, rfl⟩ := hmade
    unfold launch
    simp only [hs.isOpen]
    cases t.isOpen with
    | false => exact ⟨hgrounded _, hs⟩
    | true =>
      obtain ⟨hticks, hsame, hstate⟩ :=
        h.generation s.service t.service address token token' body hs.service htokens
      have haddress : (Request.ofBearer address token body).address =
          (Request.ofBearer address token' body).address := rfl
      obtain ⟨hresult, hnotices⟩ := akin_conclude .generation haddress hsame
      refine ⟨⟨hticks, ?_, hnotices⟩, hs.send _ _ rfl hstate⟩
      exact (hresult.bind_same .same readDocument).bind_same .same GenerationResponse.ofValue

/-- **All requests for phrases** come to akin flights. -/
theorem akin_launchAll (h : service.Counterparts service' key key' Tokens Texts R)
    {token token' : String} (htokens : Tokens token token') (l : Location)
    (gs : List GenerationRequest) (hs : s.Akin Texts R t) :
    List.Forall₂ (Flight.Akin Texts) (launchAll service l token gs s).1 (launchAll service' l token' gs t).1 ∧
      (launchAll service l token gs s).2.Akin Texts R (launchAll service' l token' gs t).2 := by
  induction gs generalizing s t with
  | nil => exact ⟨.nil, hs⟩
  | cons g gs ih =>
    obtain ⟨hflight, hnext⟩ := akin_launchFetch h htokens l g hs
    obtain ⟨hflights, hlast⟩ := ih hnext
    exact ⟨.cons hflight hflights, hlast⟩

/-- So does the joint fetch. -/
theorem akin_fetchAll (h : service.Counterparts service' key key' Tokens Texts R)
    {token token' : String} (htokens : Tokens token token') (l : Location)
    (gs : List GenerationRequest) (hs : s.Akin Texts R t) :
    Paired (Fault.Akin Texts) Eq (fetchAll service l token gs s).1 (fetchAll service' l token' gs t).1 ∧
      (fetchAll service l token gs s).2.Akin Texts R (fetchAll service' l token' gs t).2 := by
  obtain ⟨hflights, hsessions⟩ := akin_launchAll h htokens l gs hs
  have hlength := length_launchAll service l token gs s
  have hlength' := length_launchAll service' l token' gs t
  obtain ⟨hresults, hnotices⟩ := akin_settled hflights
  rw [hlength, hlength'] at hresults hnotices
  obtain ⟨houtcome, hsummary⟩ := akin_outcome gs hresults
  unfold fetchAll
  dsimp only
  refine ⟨houtcome, (hsessions.withNotices hnotices).withNotices ?_⟩
  rw [hsummary]
  exact Notice.akin_refl _

end Runs

end Client

/-! ## Calls side by side -/

/-- Two calls are akin: their sessions and their journals are, and they have the same subject. -/
structure Call.Akin (Texts : String → String → Prop) (R : σ → τ → Prop) (c : Call σ) (d : Call τ) : Prop where
  session : c.session.Akin Texts R d.session
  subject : c.subject = d.subject
  journal : Option.Rel (Journal.Writer.Akin Texts) c.journal d.journal

namespace Call.Akin

variable {Texts : String → String → Prop} {R : σ → τ → Prop} {c : Call σ} {d : Call τ}

/-- Akin journals that get akin entries are akin. -/
theorem recorded (h : c.Akin Texts R d) {event event' : Journal.Event}
    (hevents : ∀ callId scenario,
      Journal.Entry.Akin Texts ⟨callId, scenario, event⟩ ⟨callId, scenario, event'⟩) :
    (c.recorded event).Akin Texts R (d.recorded event') := by
  refine ⟨h.session, h.subject, ?_⟩
  have hjournal := h.journal
  rw [Call.recorded, Call.recorded]
  generalize c.journal = journal at hjournal
  generalize d.journal = journal' at hjournal
  cases hjournal with
  | none => exact .none
  | @some w w' hw =>
    refine .some ⟨hw.callId, hw.scenario, hw.isOpen, List.rel_append hw.entries (.cons ?_ .nil)⟩
    rw [Journal.Writer.entry, Journal.Writer.entry, hw.callId, hw.scenario]
    exact hevents _ _

theorem note (h : c.Akin Texts R d) {notices notices' : List Notice}
    (hnotices : List.Forall₂ (Notice.Akin Texts) notices notices') :
    (c.note notices).Akin Texts R (d.note notices') :=
  ⟨h.session.withNotices hnotices, h.subject, h.journal⟩

/-- Akin journals refuse the same entries. -/
theorem check_eq (h : c.Akin Texts R d) {event event' : Journal.Event}
    (hevents : ∀ callId scenario, Journal.Entry.check ⟨callId, scenario, event⟩ =
      Journal.Entry.check ⟨callId, scenario, event'⟩) : c.check event = d.check event' := by
  have hjournal := h.journal
  rw [Call.check, Call.check]
  generalize c.journal = journal at hjournal
  generalize d.journal = journal' at hjournal
  cases hjournal with
  | none => rfl
  | @some w w' hw =>
    dsimp only
    rw [Journal.Writer.entry, Journal.Writer.entry, hw.callId, hw.scenario]
    exact hevents _ _

theorem bond (Texts : String → String → Prop) (R : σ → τ → Prop) :
    Call.Bond (Fault.Akin Texts) (Call.Akin Texts R) where
  refl := .same
  stops h := h.isInterruption_eq
  subject h := h.subject
  check h _ := h.check_eq fun _ _ => rfl
  checkEnd h hfaults := h.check_eq hfaults.check_eq
  recorded h _ := h.recorded fun _ _ => .same _
  recordedEnd h hfaults := h.recorded fun callId scenario => .failed callId scenario hfaults
  note h notices := h.note (Notice.akin_refl notices)
  noteEnd h hfaults callId := h.note (.cons (.ended callId hfaults) .nil)
  fill h _ := ⟨h.session, rfl, h.journal⟩

end Call.Akin

namespace Stage

/-- Two stages go abreast: from akin calls they come to results that belong together and to calls
that are akin again. -/
def Abreast (Texts : String → String → Prop) (R : σ → τ → Prop) (P : α → α' → Prop) (x : Stage σ α)
    (y : Stage τ α') : Prop :=
  SideBySide (Fault.Akin Texts) (Call.Akin Texts R) P x y

theorem Abreast.inSession {Texts : String → String → Prop} {R : σ → τ → Prop} {P : α → α' → Prop} {run : Run σ α}
    {run' : Run τ α'} (h : ∀ s t, s.Akin Texts R t →
      Paired (Fault.Akin Texts) P (run s).1 (run' t).1 ∧ (run s).2.Akin Texts R (run' t).2) :
    Abreast Texts R P (Stage.inSession run) (Stage.inSession run') := by
  intro c d hcalls
  obtain ⟨hresults, hsessions⟩ := h c.session d.session hcalls.session
  exact ⟨hresults, ⟨hsessions, hcalls.subject, hcalls.journal⟩⟩

end Stage

namespace Resolver

/-- A resolver with another key. -/
def withKey (r : Resolver) (key : String) : Resolver :=
  { r with endpoint := { r.endpoint with key := .text key } }

section Stages

variable {service : Service σ} {service' : Service τ} {key key' : String}
  {Tokens Texts : String → String → Prop} {R : σ → τ → Prop}

/-- Fetching a table goes abreast: the tokens go no further than the requests. -/
theorem abreast_fetchTable (h : service.Counterparts service' key key' Tokens Texts R)
    (hkey : key.toList.all Text.isAscii = true) (hkey' : key'.toList.all Text.isAscii = true)
    (r : Resolver) (locale : Value) (slots : List Slot) (names : List String) :
    Stage.Abreast Texts R Eq (fetchTable service (r.withKey key) locale slots names)
      (fetchTable service' (r.withKey key') locale slots names) := by
  have hissue := Stage.Abreast.inSession fun s t (hs : s.Akin Texts R t) =>
    Client.akin_issueToken h hkey hkey' r.endpoint.location hs
  unfold fetchTable
  refine Stage.SideBySide.bind hissue fun token token' htokens => ?_
  dsimp only
  have hfetch := Stage.Abreast.inSession fun s t (hs : s.Akin Texts R t) =>
    Client.akin_fetchAll h htokens r.endpoint.location
      (GenerationRequest.forReferences r.endpoint.app locale slots names) hs
  refine Stage.SideBySide.bind hfetch fun pairs _ hpairs => ?_
  cases hpairs
  refine .bind (.modify fun _ _ hcalls => (Call.Akin.bond Texts R).note hcalls _) fun _ _ _ => ?_
  exact .ofExcept (.ok rfl)

/-- **All stages of a call go abreast.** -/
theorem abreast_stages (h : service.Counterparts service' key key' Tokens Texts R)
    (hkey : key.toList.all Text.isAscii = true) (hkey' : key'.toList.all Text.isAscii = true)
    (r : Resolver) (entities : Value) :
    Stage.Abreast Texts R Eq (stages service (r.withKey key) entities)
      (stages service' (r.withKey key') entities) :=
  sideBySide_stages (Call.Akin.bond Texts R) entities (fun _ => .record (Call.Akin.bond Texts R) _)
    fun s slots names => abreast_fetchTable h hkey hkey' r (r.localeOf s) slots names

/-! ## Whole calls -/

/-- What two calls have left behind is akin: they ended in akin results, with the same subject and akin journals, and in
akin sessions. -/
structure Outcome.Akin (Texts : String → String → Prop) (R : σ → τ → Prop) (o : Outcome σ) (o' : Outcome τ) :
    Prop where
  result : Paired (Fault.Akin Texts) Eq o.result o'.result
  subject : o.subject = o'.subject
  journal : Option.Rel (Journal.Writer.Akin Texts) o.journal o'.journal
  session : o.session.Akin Texts R o'.session

/-- Two calls have left the same behind: they ended in the same result, with the same subject and
the same journal, and in sessions that are alike. -/
structure Outcome.Alike (R : σ → τ → Prop) (o : Outcome σ) (o' : Outcome τ) : Prop where
  result : o.result = o'.result
  subject : o.subject = o'.subject
  journal : o.journal = o'.journal
  session : o.session.Alike R o'.session

/-- Where only equal texts stand for each other, akin outcomes are alike. -/
theorem Outcome.Akin.alike {o : Outcome σ} {o' : Outcome τ} (h : o.Akin Texts R o')
    (hT : ∀ text text', Texts text text' → text = text') : o.Alike R o' := by
  refine ⟨(h.result.mono fun _ _ hfaults => hfaults.eq hT).eq, h.subject, ?_, h.session.alike hT⟩
  have hjournal := h.journal
  generalize o.journal = journal at hjournal
  generalize o'.journal = journal' at hjournal
  cases hjournal with
  | none => rfl
  | some hw => rw [hw.eq hT]

/-- A call with one key and the same call with another leave what is akin behind, if the services are counterparts. -/
theorem resolve_akin (h : service.Counterparts service' key key' Tokens Texts R)
    (hkey : key.toList.all Text.isAscii = true) (hkey' : key'.toList.all Text.isAscii = true)
    (r : Resolver) (callId : String) (subject : Option Subject) (entities : Value) {s : Session σ}
    {t : Session τ} (hs : s.Akin Texts R t) :
    (resolve service (r.withKey key) callId subject entities s).Akin Texts R
      (resolve service' (r.withKey key') callId subject entities t) := by
  have hjournals (journal : Option Journal.Writer) :
      Option.Rel (Journal.Writer.Akin Texts) journal journal := by
    cases journal with
    | none => exact .none
    | some w => exact .some ⟨rfl, rfl, rfl, List.forall₂_same.mpr fun e _ => .same e⟩
  have hclose {journal journal' : Option Journal.Writer}
      (h : Option.Rel (Journal.Writer.Akin Texts) journal journal') :
      Option.Rel (Journal.Writer.Akin Texts) (journal.map (·.close)) (journal'.map (·.close)) := by
    cases h with
    | none => exact .none
    | some hw => exact .some ⟨hw.callId, hw.scenario, rfl, hw.entries⟩
  cases hchecked : checkArguments subject entities with
  | error fault =>
    rw [resolve_unchecked hchecked, resolve_unchecked hchecked]
    exact ⟨.error (.same fault), rfl, .none, hs⟩
  | ok checked =>
    cases hjournal : r.startJournal callId with
    | error m =>
      rw [resolve_unrecorded (r := r.withKey key) hchecked hjournal,
        resolve_unrecorded (r := r.withKey key') hchecked hjournal]
      exact ⟨.error (.same _), rfl, .none, hs⟩
    | ok journal =>
      obtain ⟨hresults, hcalls⟩ := abreast_stages h hkey hkey' r entities ⟨s, checked, journal⟩
        ⟨t, checked, journal⟩ ⟨hs, rfl, hjournals journal⟩
      obtain ⟨hended, hclosed⟩ := bond_closing (Call.Akin.bond Texts R) callId hresults hcalls
      rw [resolve_run (r := r.withKey key) service s hchecked hjournal rfl,
        resolve_run (r := r.withKey key') service' t hchecked hjournal rfl]
      exact ⟨hended, congrArg some hclosed.subject, hclose hclosed.journal, hclosed.session⟩

/-- **Where the credentials of a call get to.**  A call with one key and the same call with another leave the same
behind, if the services are counterparts, but for the texts in which failures were reported; and if these are the same
for both, they leave the same behind. -/
theorem resolve_alike (h : service.Counterparts service' key key' Tokens Texts R)
    (hkey : key.toList.all Text.isAscii = true) (hkey' : key'.toList.all Text.isAscii = true)
    (r : Resolver) (callId : String) (subject : Option Subject) (entities : Value) {s : Session σ}
    {t : Session τ} (hs : s.Alike R t) :
    (resolve service (r.withKey key) callId subject entities s).Akin Texts R
        (resolve service' (r.withKey key') callId subject entities t) ∧
      ((∀ text text', Texts text text' → text = text') →
        (resolve service (r.withKey key) callId subject entities s).Alike R
          (resolve service' (r.withKey key') callId subject entities t)) := by
  have hakin := resolve_akin h hkey hkey' r callId subject entities hs.akin
  exact ⟨hakin, hakin.alike⟩

end Stages

/-- A service that gives a token for its key, and a greeting to the bearer of the token; anyone else
is turned away. -/
def doorkeeper (key token : String) : Service Unit where
  answer state request :=
    match request with
    | .token _ shown =>
      if shown = key then (⟨.reply ⟨200, [], Text.utf8Bytes token⟩, 0⟩, state)
      else (⟨.reply ⟨401, [], []⟩, 0⟩, state)
    | .generation _ shown _ =>
      if shown = "Bearer " ++ token then greeter.answer state request
      else (⟨.reply ⟨403, [], []⟩, 0⟩, state)

/-- Credentials in an address are not those of a bearer. -/
theorem credentials?_ne_bearer (address : Address) (token : String) :
    address.credentials? ≠ some ("Bearer " ++ token) := by
  intro h
  unfold Address.credentials? at h
  dsimp only at h
  split at h
  · cases h
  · have hletters := congrArg String.toList (Option.some.inj h)
    simp at hletters

/-- What bearers are told does not depend on the token. -/
theorem doorkeeper_bearer (key token : String) (address : Address) (body : Value) :
    (doorkeeper key token).answer () (.ofBearer address token body) =
      if address.credentials? = none then greeter.answer () (.ofBearer address "" body)
      else (⟨.reply ⟨403, [], []⟩, 0⟩, ()) := by
  unfold Request.ofBearer doorkeeper
  cases hcredentials : address.credentials? with
  | none => simp only [Option.getD_none, if_true]; rfl
  | some credentials =>
    have hne : credentials ≠ "Bearer " ++ token := fun h =>
      credentials?_ne_bearer address token (hcredentials.trans (congrArg some h))
    simp [hne]

/-- Two doorkeepers who ask for different keys and give different tokens. -/
theorem counterparts_doorkeeper :
    (doorkeeper "key" "guest").Counterparts (doorkeeper "other" "visitor") "key" "other"
      (fun token token' => token = "guest" ∧ token' = "visitor") Eq (fun _ _ => True) where
  interchangeable token token' h := by
    obtain ⟨rfl, rfl⟩ := h
    exact .inr ⟨by decide, by decide⟩
  token s t address _ := by
    refine ⟨.carrying 0 rfl rfl ⟨_, rfl, ?_⟩ ⟨_, rfl, ?_⟩ ⟨rfl, rfl⟩, trivial⟩
    · decide +kernel
    · decide +kernel
  generation s t address token token' body _ h := by
    obtain ⟨rfl, rfl⟩ := h
    rw [doorkeeper_bearer, doorkeeper_bearer]
    exact ⟨rfl, .same _, trivial⟩

/-- The doorkeepers let both in, and no one can tell from the call by which door. -/
theorem resolve_alike_doorkeeper :
    (doorkeeper "key" "guest").Counterparts (doorkeeper "other" "visitor") "key" "other"
        (fun token token' => token = "guest" ∧ token' = "visitor") Eq (fun _ _ => True) ∧
      "key".toList.all Text.isAscii = true ∧ "other".toList.all Text.isAscii = true ∧
      (Session.start ()).Alike (fun _ _ => True) (Session.start ()) ∧
      Outcome.Alike (fun _ _ => True)
        (resolve (doorkeeper "key" "guest") (lobby.withKey "key") "call" (some (.activity greeted))
          .null (.start ()))
        (resolve (doorkeeper "other" "visitor") (lobby.withKey "other") "call"
          (some (.activity greeted)) .null (.start ())) ∧
      (resolve (doorkeeper "key" "guest") (lobby.withKey "key") "call" (some (.activity greeted))
        .null (.start ())).result = .ok () := by
  have hkey : "key".toList.all Text.isAscii = true := by decide
  have hother : "other".toList.all Text.isAscii = true := by decide
  have hstart : (Session.start ()).Alike (fun _ _ => True) (Session.start ()) :=
    ⟨trivial, rfl, rfl, rfl⟩
  exact ⟨counterparts_doorkeeper, hkey, hother, hstart,
    (resolve_alike counterparts_doorkeeper hkey hother lobby "call" _ .null hstart).2 fun _ _ h => h,
    by decide +kernel⟩

/-- A transport that sends no header with a line feed in it, and quotes the header in its report. -/
def strict : Service Unit where
  answer state request :=
    match request with
    | .token _ shown =>
      if shown.toList.contains '\n' then
        (⟨.failure ⟨"LocalProtocolError", "Illegal header value " ++ (Value.bytes (Text.utf8Bytes shown)).literal⟩, 0⟩,
          state)
      else greeter.answer state request
    | .generation _ _ _ => greeter.answer state request

/-- **What a transport reports of a key gets out**: two calls with keys that cannot be sent end in faults that quote
them, and so do the notices and the journals. -/
theorem not_alike_quoted :
    "secretA\n".toList.all Text.isAscii = true ∧ "secretB\n".toList.all Text.isAscii = true ∧
      (resolve strict (lobby.withKey "secretA\n") "call" (some (.activity greeted)) .null (.start ())).result =
        .error (.service "LG token request failed: Illegal header value b'secretA\\n'" none) ∧
      (resolve strict (lobby.withKey "secretB\n") "call" (some (.activity greeted)) .null (.start ())).result =
        .error (.service "LG token request failed: Illegal header value b'secretB\\n'" none) ∧
      ¬ Outcome.Alike (fun _ _ => True)
        (resolve strict (lobby.withKey "secretA\n") "call" (some (.activity greeted)) .null (.start ()))
        (resolve strict (lobby.withKey "secretB\n") "call" (some (.activity greeted)) .null (.start ())) := by
  have hfirst : (resolve strict (lobby.withKey "secretA\n") "call" (some (.activity greeted)) .null
      (.start ())).result =
      .error (.service "LG token request failed: Illegal header value b'secretA\\n'" none) := by
    decide +kernel
  have hsecond : (resolve strict (lobby.withKey "secretB\n") "call" (some (.activity greeted)) .null
      (.start ())).result =
      .error (.service "LG token request failed: Illegal header value b'secretB\\n'" none) := by
    decide +kernel
  refine ⟨by decide, by decide, hfirst, hsecond, fun halike => ?_⟩
  have hsame := hfirst.symm.trans (halike.result.trans hsecond)
  revert hsame
  decide

end Resolver

end Phrasing
