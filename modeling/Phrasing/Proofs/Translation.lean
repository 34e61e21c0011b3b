import Phrasing.Proofs.Endpoints
import Phrasing.Proofs.Exchange

/-! # What every answer comes to

`Due` says what is due for whatever comes back for a request: a value where it brings one, and
otherwise a fault of the credential or of the service, with the status of the reply if there was
one.  This is what the client makes of an answer exactly if the answer is orderly (`Orderly`).  Any
other goes astray (`Astray`): a mishap passes through to the caller, or the status of a reply is
lost.
-/

namespace Phrasing

open Text

namespace Client

variable {α : Type}

/-! ## What is due -/

/-- What is due for an answer, given what is due for the content of a reply that tells of
success. -/
inductive Due (content : Reply → Except Fault α → Prop) : Answer → Except Fault α → Prop where
  /-- A failure on the way is a fault of the service without a status. -/
  | failed {f : Failure} {name : String} (h : f.cause = .exchange name ∨ f.cause = .foreign name)
    (m : String) : Due content (.failure f) (.error (.service m none))
  /-- A refused credential is told with the status that refuses it. -/
  | rejected {answer : Answer} {status : Nat} (h : Refuses answer status)
    (hrejection : isRejection status = true) (m : String) :
    Due content answer (.error (.authentication m (some status)))
  /-- Any other refusal is a fault of the service with its status. -/
  | refused {answer : Answer} {status : Nat} (h : Refuses answer status)
    (hrejection : isRejection status = false) (m : String) :
    Due content answer (.error (.service m (some status)))
  /-- Success is what the content makes of it. -/
  | read {r expanded : Reply} {result : Except Fault α} (hsuccess : r.isSuccess = true)
    (hexpanded : r.expanded = .ok expanded) (h : content expanded result) :
    Due content (.reply r) result
  /-- Success with a body that cannot be expanded is a fault of the service. -/
  | garbled {r : Reply} {stop : Deflate.Stop} (hsuccess : r.isSuccess = true)
    (hexpanded : r.expanded = .error stop) (m : String) :
    Due content (.reply r) (.error (.service m (some r.status)))

/-- What is due for the content of a reply that brings a token: the text without the blanks around
it, a fault of the credential if that leaves nothing, or a fault of the service if it is no text. -/
inductive TokenDue (r : Reply) : Except Fault String → Prop where
  | blank {text : List Char} (h : replyText r = .ok text) (hblank : trim text = []) (m : String) :
    TokenDue r (.error (.authentication m (some r.status)))
  | token {text : List Char} (h : replyText r = .ok text) (hrest : trim text ≠ []) :
    TokenDue r (.ok (String.ofList (trim text)))
  | noText {cause : Mishap} (h : replyText r = .error cause) (m : String) :
    TokenDue r (.error (.service m (some r.status)))

/-- What is due for the content of a reply that brings a document: the document, or a fault of the
service if there is none. -/
inductive DocumentDue (r : Reply) : Except Fault Value → Prop where
  | document {v : Value} (h : Json.parseBytes r.body = .ok v) : DocumentDue r (.ok v)
  | noDocument {cause : Mishap} (h : Json.parseBytes r.body = .error cause) (m : String) :
    DocumentDue r (.error (.service m (some r.status)))

/-! ## Orderly answers -/

/-- If a reply refers to another place, then to one that makes sense as seen from an address. -/
def RefersWell (address : Address) (r : Reply) : Prop :=
  ∀ place, r.location? = some place →
    ∃ a, Address.ofChars place.toList = .ok a ∧ address.checkReferral a = .ok ()

/-- An answer is orderly: a failure is one of the exchange itself, or the transport refuses the request with a
status that can be told; the codings of a reply can be undone, its status can be told, it refers to a place that
makes sense if to any, and its content is legible if it tells of success. -/
inductive Orderly (address : Address) (legible : Reply → Prop) : Answer → Prop where
  | failure {f : Failure} {name : String} (h : f.cause = .exchange name) :
    Orderly address legible (.failure f)
  | refusal {status : Nat} (htold : IsTold status) (m : String) :
    Orderly address legible (.failure ⟨.status status, m⟩)
  | reply {r expanded : Reply} (hexpanded : r.expanded = .ok expanded) (htold : IsTold r.status)
    (hplace : RefersWell address r) (hlegible : r.isSuccess = true → legible expanded) :
    Orderly address legible (.reply r)

/-- The content of a reply that brings a token is legible if its character set can be read. -/
def TokenLegible (r : Reply) : Prop :=
  ∃ text, replyText r = .ok text

/-- The content of a reply that brings a document is legible unless it nests too deep. -/
def DocumentLegible (r : Reply) : Prop :=
  ∀ work, Json.parseBytes r.body ≠ .error (.tooDeep work)

/-- What an answer comes to that went astray. -/
inductive Astray : Answer → Except Fault α → Prop where
  /-- Something other than a fault of the resolver's own passes through. -/
  | mishap (answer : Answer) (cause : Mishap) : Astray answer (.error (.mishap cause))
  /-- There was a reply, but its status is not told. -/
  | statusLost (r : Reply) (m : String) : Astray (.reply r) (.error (.service m none))

/-! ## Reading content -/

/-- A way to read the content of replies: where it is legible it gives what is due, elsewhere a
mishap, and what is due is neither a mishap nor a fault without a status. -/
structure Reading (read : Reply → Except Fault α) (legible : Reply → Prop)
    (content : Reply → Except Fault α → Prop) : Prop where
  due_of_legible : ∀ r, legible r → content r (read r)
  mishap_of_illegible : ∀ r, ¬ legible r → ∃ cause, read r = .error (.mishap cause)
  tells : ∀ {r : Reply} {result : Except Fault α}, content r result →
    (∀ cause, result ≠ .error (.mishap cause)) ∧ ∀ m, result ≠ .error (.service m none)

theorem reading_token : Reading readToken TokenLegible TokenDue where
  due_of_legible := by
    rintro r ⟨text, htext⟩
    unfold readToken
    rw [htext]
    simp only [Except.map]
    split
    · rename_i h
      cases h
    · rename_i h
      exact .blank htext (Except.ok.inj h) _
    · rename_i hrest h
      cases h
      exact .token htext hrest
  mishap_of_illegible := by
    intro r h
    unfold readToken
    cases htext : replyText r with
    | error cause => exact ⟨cause, rfl⟩
    | ok text => exact absurd ⟨text, htext⟩ h
  tells := by
    intro r result h
    cases h with
    | blank _ _ m => exact ⟨nofun, nofun⟩
    | token _ _ => exact ⟨nofun, nofun⟩
    | noText _ m => exact ⟨nofun, nofun⟩

theorem reading_document : Reading readDocument DocumentLegible DocumentDue where
  due_of_legible := by
    intro r h
    unfold readDocument
    split
    · rename_i v hv
      exact .document hv
    · rename_i work hdeep
      exact absurd hdeep (h work)
    · rename_i cause _ hcause
      exact .noDocument hcause _
  mishap_of_illegible := by
    intro r h
    obtain ⟨work, hdeep⟩ := Classical.not_forall_not.mp h
    exact ⟨.tooDeep work, by rw [readDocument, hdeep]⟩
  tells := by
    intro r result h
    cases h with
    | document _ => exact ⟨nofun, nofun⟩
    | noDocument _ m => exact ⟨nofun, nofun⟩

/-! ## What is made of an answer -/

/-- Undoing the codings changes the body of a reply only. -/
theorem eq_of_expanded {r expanded : Reply} (h : r.expanded = .ok expanded) :
    expanded.status = r.status ∧ expanded.isSuccess = r.isSuccess ∧
      expanded.location? = r.location? := by
  obtain ⟨body, _, rfl⟩ := map_eq_ok.mp h
  exact ⟨rfl, rfl, rfl⟩

/-- **A reply is received** with its codings undone, if it refers to a place that makes sense or to
none; otherwise there is a failure in its stead, or a mishap. -/
theorem received_reply {address : Address} (habsolute : address.isAbsolute = true) (r : Reply) :
    (∃ expanded, r.expanded = .ok expanded ∧ RefersWell address r ∧
        (Answer.reply r).received address = .ok (.reply expanded)) ∨
      ((∀ expanded, r.expanded = .ok expanded → ¬ RefersWell address r) ∧
        ((∃ (f : Failure) (name : String), f.cause = .exchange name ∧
            (Answer.reply r).received address = .ok (.failure f)) ∨
          ∃ cause, (Answer.reply r).received address = .error cause)) := by
  unfold Answer.received
  dsimp only
  cases hexpanded : r.expanded with
  | error stop => exact .inr ⟨nofun, .inl ⟨_, _, rfl, rfl⟩⟩
  | ok expanded =>
    obtain ⟨_, _, hlocation⟩ := eq_of_expanded hexpanded
    simp only [habsolute, Bool.not_true, Bool.false_eq_true, if_false, hlocation]
    cases hplace : r.location? with
    | none =>
      refine .inl ⟨expanded, rfl, fun place h => ?_, rfl⟩
      rw [hplace] at h
      cases h
    | some place =>
      dsimp only
      cases hspelled : Address.ofChars place.toList with
      | error cause =>
        refine .inr ⟨fun _ _ hwell => ?_, .inl ⟨_, _, rfl, rfl⟩⟩
        obtain ⟨a, ha, _⟩ := hwell place hplace
        rw [hspelled] at ha
        cases ha
      | ok a =>
        dsimp only
        cases hreferral : address.checkReferral a with
        | error cause =>
          refine .inr ⟨fun _ _ hwell => ?_, .inr ⟨cause, rfl⟩⟩
          obtain ⟨a', ha', hgood⟩ := hwell place hplace
          cases hspelled.symm.trans ha'
          rw [hreferral] at hgood
          cases hgood
        | ok _ =>
          refine .inl ⟨expanded, rfl, fun place' h => ?_, rfl⟩
          cases hplace.symm.trans h
          exact ⟨a, hspelled, hreferral⟩

section Reading

variable {read : Reply → Except Fault α} {legible : Reply → Prop}
  {content : Reply → Except Fault α → Prop} (hreading : Reading read legible content)
include hreading

/-- What is due is never what comes of an answer that went astray. -/
theorem Due.not_astray {answer : Answer} {result : Except Fault α} (h : Due content answer result) :
    ¬ Astray answer result := by
  intro hastray
  cases h with
  | failed _ m => cases hastray
  | rejected _ _ m => cases hastray
  | refused _ _ m => cases hastray
  | read _ _ h =>
    cases hastray with
    | mishap _ cause => exact (hreading.tells h).1 cause rfl
    | statusLost _ m => exact (hreading.tells h).2 m rfl
  | garbled _ _ m => cases hastray

/-- A reply that is received comes to what is due, unless its status cannot be told, or it tells of success and
its content is illegible. -/
theorem due_or_astray_reply {address : Address} {r expanded : Reply}
    (hexpanded : r.expanded = .ok expanded) (hplace : RefersWell address r) (purpose : Purpose) :
    (Orderly address legible (.reply r) ∧
        Due content (.reply r) ((judge purpose (.reply expanded)).1.bind read)) ∨
      (¬ Orderly address legible (.reply r) ∧
        Astray (.reply r) ((judge purpose (.reply expanded)).1.bind read)) := by
  obtain ⟨hstatus, hsuccess, _⟩ := eq_of_expanded hexpanded
  -- The reply as it was sent refuses the request with the status of the one that is received.
  have hrefuses {status : Nat} (h : Refuses (.reply expanded) status) :
      Refuses (.reply r) status ∧ r.isSuccess = false ∧ status = r.status := by
    cases h with
    | reply hno =>
      rw [hsuccess] at hno
      rw [hstatus]
      exact ⟨.reply hno, hno, rfl⟩
  have horderly (hno : r.isSuccess = false) (htold : IsTold r.status) : Orderly address legible (.reply r) :=
    .reply hexpanded htold hplace fun hyes => absurd (hno.symm.trans hyes) Bool.false_ne_true
  have hjudged := judged purpose (.reply expanded)
  generalize (judge purpose (.reply expanded)).1 = result at hjudged ⊢
  cases hjudged with
  | success hyes =>
    rw [hsuccess] at hyes
    by_cases hlegible : legible expanded
    · exact .inl ⟨.reply hexpanded (isTold_of_isSuccess hyes) hplace fun _ => hlegible,
        .read hyes hexpanded (hreading.due_of_legible _ hlegible)⟩
    · obtain ⟨cause, hread⟩ := hreading.mishap_of_illegible _ hlegible
      refine .inr ⟨fun h => ?_, ?_⟩
      · cases h with
        | reply hexpanded' _ _ hlegible' =>
          cases hexpanded.symm.trans hexpanded'
          exact hlegible (hlegible' hyes)
      · show Astray _ (read expanded)
        rw [hread]
        exact .mishap _ cause
  | rejected h hrejection m =>
    obtain ⟨hr, hno, rfl⟩ := hrefuses h
    exact .inl ⟨horderly hno (isTold_of_isRejection hrejection), .rejected hr hrejection m⟩
  | refused h hrejection htold m =>
    obtain ⟨hr, hno, rfl⟩ := hrefuses h
    exact .inl ⟨horderly hno htold, .refused hr hrejection m⟩
  | untold h _ htold =>
    obtain ⟨_, _, rfl⟩ := hrefuses h
    refine .inr ⟨fun horderly => ?_, .mishap _ _⟩
    cases horderly with
    | reply _ htold' _ _ => exact htold htold'

omit hreading in
/-- A failure comes to what is due if it is one of the exchange itself, or a refusal whose status can be told. -/
theorem due_or_astray_failure (address : Address) (f : Failure) (purpose : Purpose) :
    (Orderly address legible (.failure f) ∧
        Due content (.failure f) ((judge purpose (.failure f)).1.bind read)) ∨
      (¬ Orderly address legible (.failure f) ∧
        Astray (.failure f) ((judge purpose (.failure f)).1.bind read)) := by
  have hjudged := judged purpose (.failure f)
  generalize (judge purpose (.failure f)).1 = result at hjudged ⊢
  cases hjudged with
  | rejected h hrejection m =>
    cases h with
    | failure status text =>
      exact .inl ⟨.refusal (isTold_of_isRejection hrejection) _, .rejected (.failure _ _) hrejection m⟩
  | refused h hrejection htold m =>
    cases h with
    | failure status text => exact .inl ⟨.refusal htold _, .refused (.failure _ _) hrejection m⟩
  | untold h hrejection htold =>
    cases h with
    | failure status text =>
      refine .inr ⟨fun horderly => ?_, .mishap _ _⟩
      cases horderly with
      | failure h => cases h
      | refusal htold' => exact htold htold'
  | failed h m => exact .inl ⟨.failure h, .failed (.inl h) m⟩
  | foreign h =>
    refine .inr ⟨fun horderly => ?_, .mishap _ _⟩
    cases horderly with
    | failure h' => cases h.symm.trans h'
    | refusal => cases h
  | interrupted h =>
    refine .inr ⟨fun horderly => ?_, .mishap _ _⟩
    cases horderly with
    | failure h' => cases h.symm.trans h'
    | refusal => cases h

/-- **An orderly answer comes to what is due, and any other goes astray.** -/
theorem due_or_astray {request : Request} (habsolute : request.address.isAbsolute = true)
    (purpose : Purpose) (answer : Answer) :
    (Orderly request.address legible answer ∧
        Due content answer ((conclude purpose request answer).1.bind read)) ∨
      (¬ Orderly request.address legible answer ∧
        Astray answer ((conclude purpose request answer).1.bind read)) := by
  unfold conclude
  cases answer with
  | failure f => exact due_or_astray_failure request.address f purpose
  | reply r =>
    rcases received_reply habsolute r with
      ⟨expanded, hexpanded, hplace, hreceived⟩ | ⟨hbad, hreceived⟩
    · rw [hreceived]
      exact due_or_astray_reply hreading hexpanded hplace purpose
    · refine .inr ⟨fun h => ?_, ?_⟩
      · cases h with
        | reply hexpanded _ hplace _ => exact hbad _ hexpanded hplace
      · rcases hreceived with ⟨f, name, hf, hreceived⟩ | ⟨cause, hreceived⟩
        · rw [hreceived]
          dsimp only
          rw [judge, hf]
          exact .statusLost r _
        · rw [hreceived]
          exact .mishap _ cause

end Reading

/-! ## Calls -/

section Calls

variable {σ : Type} {service : Service σ}

/-- How a call ends that sends one request: it comes to what is due exactly if the answer to the
request is orderly, and goes astray exactly if it is not. -/
structure Translates (service : Service σ) (s : Session σ) (request : Request)
    (legible : Reply → Prop) (content : Reply → Except Fault α → Prop)
    (ending : Except Fault α × Session σ) : Prop where
  sends : s.Sends service [request] ending.2
  due_iff : Due content (service.answer s.service request).1.answer ending.1 ↔
    Orderly request.address legible (service.answer s.service request).1.answer
  astray_iff : Astray (service.answer s.service request).1.answer ending.1 ↔
    ¬ Orderly request.address legible (service.answer s.service request).1.answer

theorem translates_of_reading {read : Reply → Except Fault α} {legible : Reply → Prop}
    {content : Reply → Except Fault α → Prop} (hreading : Reading read legible content)
    {s : Session σ} {request : Request} (habsolute : request.address.isAbsolute = true)
    {purpose : Purpose} {ending : Except Fault α × Session σ}
    (hresult : ending.1 =
      (conclude purpose request (service.answer s.service request).1.answer).1.bind read)
    (hsends : s.Sends service [request] ending.2) :
    Translates service s request legible content ending := by
  rcases due_or_astray hreading habsolute purpose (service.answer s.service request).1.answer with
    ⟨horderly, hdue⟩ | ⟨horderly, hastray⟩
  · rw [← hresult] at hdue
    exact ⟨hsends, iff_of_true hdue horderly,
      iff_of_false (hdue.not_astray hreading) (not_not_intro horderly)⟩
  · rw [← hresult] at hastray
    exact ⟨hsends, iff_of_false (fun hdue => hdue.not_astray hreading hastray) horderly,
      iff_of_true hastray horderly⟩

/-- **Both calls of an open client come to what is due exactly if the answer to their request is
orderly.**  For the bearer of a token outside ASCII nothing is sent at all, and a mishap passes
through. -/
theorem calls_translate (service : Service σ) {e : Endpoint} {key app : String}
    {place token : Address} (h : e.WellFormed key app place token)
    {entries : List (Scalar × Value)} {body : Value}
    (hbody : Json.sendable (.mapping entries) = .ok body) {s : Session σ}
    (hopen : s.isOpen = true) :
    Translates service s (.token token key) TokenLegible TokenDue
        (issueToken service e.location e.key s) ∧
      ∀ bearer : String,
        (bearer.toList.all isAscii = true → ∃ request,
          generationRequest e.location (.mapping entries) (.text bearer) = .ok request ∧
          Translates service s request DocumentLegible DocumentDue
            (generate service e.location (.mapping entries) (.text bearer) s)) ∧
        (bearer.toList.all isAscii = false → ∃ first last c,
          generate service e.location (.mapping entries) (.text bearer) s =
            (.error (.mishap (.headerNotAscii first last c)), s)) := by
  refine ⟨?_, fun bearer => ⟨fun hascii => ?_, fun hascii => ?_⟩⟩
  · obtain ⟨hresult, hsends⟩ := issueToken_open service h.tokenRequest_eq hopen
    obtain ⟨_, _, hspells⟩ := h.tokenUri_eq
    refine translates_of_reading reading_token ?_ hresult hsends
    exact hspells.absolute
  · obtain ⟨request, hrequest, habsolute⟩ := h.generationRequest_ascii hbody hascii
    obtain ⟨hresult, hsends⟩ := generate_open service hrequest hopen
    exact ⟨request, hrequest,
      translates_of_reading reading_document habsolute hresult hsends⟩
  · obtain ⟨first, last, c, hrequest⟩ := h.generationRequest_not_ascii entries hascii
    exact ⟨first, last, c, generate_unmade hrequest s⟩

/-- A service that always gives one answer. -/
def constant (answer : Answer) : Service Unit :=
  ⟨fun _ _ => (⟨answer, 0⟩, ())⟩

/-- An endpoint that asks for tokens below its own address. -/
def office : Endpoint :=
  ⟨.text "secret", .text "app", "https://lg.example.com",
    .text "https://lg.example.com/sts/v1.0/issueToken"⟩

/-- The address of the office. -/
def officePlace : Address :=
  ⟨"https".toList, [], "lg.example.com".toList, none, [], none, none⟩

/-- The address at which the office asks for tokens. -/
def officeToken : Address :=
  { officePlace with path := "/sts/v1.0/issueToken".toList }

theorem office_wellFormed : office.WellFormed "secret" "app" officePlace officeToken where
  key_eq := rfl
  ascii := by decide
  app_eq := rfl
  spells := ⟨by decide +kernel, by decide +kernel, by decide +kernel⟩
  short := by decide
  tokenUri_eq := ⟨_, rfl, by decide +kernel, by decide +kernel, by decide +kernel⟩

/-- A token between blanks, which is no document. -/
def padded : Reply :=
  ⟨201, [("Content-Type", "text/plain; charset=utf-8")], utf8Bytes " t\n"⟩

theorem orderly_padded (address : Address) {legible : Reply → Prop} (h : legible padded) :
    Orderly address legible (.reply padded) := by
  have hexpanded : padded.expanded = .ok padded := by decide +kernel
  have hlocation : padded.location? = none := by decide +kernel
  refine .reply hexpanded (isTold_of_lt (by decide)) (fun place hplace => ?_) fun _ => h
  rw [hlocation] at hplace
  cases hplace

/-- The token is taken from between the blanks, and as a document it is refused with its status. -/
theorem calls_translate_padded :
    office.WellFormed "secret" "app" officePlace officeToken ∧
      Json.sendable (.mapping []) = .ok (.mapping []) ∧ (Session.start ()).isOpen = true ∧
      Due TokenDue (.reply padded)
        (issueToken (constant (.reply padded)) office.location office.key (.start ())).1 ∧
      (issueToken (constant (.reply padded)) office.location office.key (.start ())).1 = .ok "t" ∧
      Due DocumentDue (.reply padded) (generate (constant (.reply padded)) office.location
        (.mapping []) (.text "t") (.start ())).1 ∧
      ((generate (constant (.reply padded)) office.location (.mapping []) (.text "t")
        (.start ())).1.map fun _ => ()).mapError Fault.status? = .error (some 201) := by
  have hbody : Json.sendable (.mapping []) = .ok (.mapping []) := rfl
  obtain ⟨htoken, hdocument⟩ :=
    @calls_translate Unit (constant (.reply padded)) _ _ _ _ _ office_wellFormed [] _ hbody
      (.start ()) rfl
  obtain ⟨request, _, hrequest⟩ := (hdocument "t").1 (by decide)
  have htext : TokenLegible padded := ⟨" t\n".toList, by decide +kernel⟩
  have hshallow : DocumentLegible padded := by
    have hlabel : ((Json.parseBytes padded.body).map fun _ => ()).mapError Mishap.label =
        .error "JSONDecodeError" := by
      decide +kernel
    intro work hdeep
    rw [hdeep] at hlabel
    have hsame : "RecursionError" = "JSONDecodeError" := Except.error.inj hlabel
    exact absurd hsame (by decide)
  exact ⟨office_wellFormed, hbody, rfl, htoken.due_iff.mpr (orderly_padded _ htext),
    by decide +kernel, hrequest.due_iff.mpr (orderly_padded _ hshallow), by decide +kernel⟩

/-- **Failures other than those of the exchange pass through**, where a fault of the service is
due. -/
theorem not_due_of_invalid_address :
    office.WellFormed "secret" "app" officePlace officeToken ∧
      (issueToken (constant (.failure ⟨"InvalidURL", ""⟩)) office.location office.key
        (.start ())).1 = .error (.mishap (.reported "InvalidURL" "")) ∧
      ¬ Due TokenDue (.failure ⟨"InvalidURL", ""⟩)
        (issueToken (constant (.failure ⟨"InvalidURL", ""⟩)) office.location office.key
          (.start ())).1 := by
  have hresult : (issueToken (constant (.failure ⟨"InvalidURL", ""⟩)) office.location office.key
      (.start ())).1 = .error (.mishap (.reported "InvalidURL" "")) := by
    decide +kernel
  refine ⟨office_wellFormed, hresult, fun h => ?_⟩
  rw [hresult] at h
  cases h

end Calls

end Client

end Phrasing
