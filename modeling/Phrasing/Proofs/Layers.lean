import Phrasing.Proofs.Accepted
import Phrasing.Proofs.Resolution
import Phrasing.Proofs.Summaries
import Phrasing.Remote.Direct

/-! # The layers of a call

A client that calls a gateway directly gets what the gateway's resolver comes to.  What is submitted arrives
as it was meant (`accept_submission`), the document of a reply arrives as it was written
(`Incoming.document_ofDocument`), and so the two ways to have an activity resolved agree (`Remote.resolve_agrees`):
a call that returns brings the resolved activity with the references it held before, and a fault of the
resolver's own is told with its message under a status of its kind.
-/

namespace Phrasing

/-! ## What is submitted -/

namespace Gateway

/-- The header fields with which a document is submitted. -/
def jsonHeaders : List (String × String) := [("content-type", "application/json")]

/-- **The bytes of a document of JSON** are read as itself; there are some. -/
theorem readBytes_render {v : Value} (hjson : v.IsJson) (hlevels : Json.nesting v ≤ Json.mostLevels) :
    Json.readBytes (Text.utf8Bytes (Json.render v)) = .ok v ∧
      (Text.utf8Bytes (Json.render v)).isEmpty = false := by
  have hparse := Json.parseBytes_render hlevels hjson.isWritable
  rw [hjson.reading_eq] at hparse
  have hread := mapError_eq_ok.mp hparse
  refine ⟨hread, ?_⟩
  cases hbytes : Text.utf8Bytes (Json.render v) with
  | nil =>
    rw [hbytes] at hread
    cases hread
  | cons => rfl

theorem documentIn_render {v : Value} (hjson : v.IsJson) (hlevels : Json.nesting v ≤ Json.mostLevels) :
    Submission.documentIn (some "application/json") (Text.utf8Bytes (Json.render v)) = .ok (some v) := by
  obtain ⟨hread, hsome⟩ := readBytes_render hjson hlevels
  have htype : (some "application/json").all Submission.isJsonType = true := by decide
  unfold Submission.documentIn
  rw [hsome, htype, hread]
  rfl

/-- Entities in an object are submitted as they are. -/
theorem orElse_object (entities : List (String × Value)) :
    (Value.object entities).orElse (.mapping []) = .object entities := by
  cases entities with
  | nil => rfl
  | cons => rfl

theorem submission_eq (activity : Value) (entities : List (String × Value)) :
    Remote.submission activity (.object entities) =
      .object [("activity", activity), ("entities", .object entities)] := by
  unfold Remote.submission
  rw [orElse_object]

/-- **An activity that is accepted directly** is accepted as a part of what is submitted. -/
theorem ofDocument_submission {activity : Value} {entities : List (String × Value)} {a : Activity}
    (h : Activity.ofValue .direct activity = .ok a) :
    Submission.ofDocument (some (Remote.submission activity (.object entities))) =
      .ok ⟨a, .object entities⟩ := by
  have hactivity := Activity.ofValue_of_accepted h .body
  rw [submission_eq]
  refine mapError_eq_ok.mpr (Checked.and_eq_ok.mpr ⟨_, _, Checked.and_eq_ok.mpr ⟨_, a, rfl, ?_, rfl⟩, ?_, rfl⟩)
  · exact Checked.under_eq_ok.mpr hactivity
  · exact Checked.under_eq_ok.mpr rfl

/-- A value of JSON that can be a part of what is submitted: nothing in it stands too deep in something else. -/
structure Submittable (v : Value) : Prop where
  isJson : v.IsJson
  nesting_lt : Json.nesting v < Json.mostLevels

/-- What is submitted is a document of JSON that can be written and read. -/
theorem isJson_submission {activity : Value} {entities : List (String × Value)} (hactivity : Submittable activity)
    (hentities : Submittable (.object entities)) :
    (Remote.submission activity (.object entities)).IsJson ∧
      Json.nesting (Remote.submission activity (.object entities)) ≤ Json.mostLevels := by
  rw [submission_eq]
  exact ⟨Value.isJson_pair (by decide) hactivity.isJson hentities.isJson,
    Json.nesting_pair_le (Nat.le_of_lt_succ hactivity.nesting_lt) (Nat.le_of_lt_succ hentities.nesting_lt)⟩

/-- **What is submitted arrives.** -/
theorem accept_submission {activity : Value} {entities : List (String × Value)} {a : Activity} {q : Inquiry}
    (resolver : Resolver) (hactivity : Submittable activity) (hentities : Submittable (.object entities))
    (haccepted : Activity.ofValue .direct activity = .ok a) (hheaders : q.headers = jsonHeaders)
    (hbody : q.body = Text.utf8Bytes (Json.render (Remote.submission activity (.object entities)))) :
    accept (some resolver) q = .ok (resolver, ⟨a, .object entities⟩) := by
  have hheader : q.header? "content-type" = some "application/json" := by
    unfold Inquiry.header?
    rw [hheaders]
    decide
  obtain ⟨hjson, hlevels⟩ := isJson_submission hactivity hentities
  refine bind_eq_ok.mpr ⟨some (Remote.submission activity (.object entities)), ?_, ?_⟩
  · rw [hheader, hbody]
    exact documentIn_render hjson hlevels
  · exact bind_eq_ok.mpr ⟨_, ofDocument_submission haccepted, rfl⟩

/-! ## The reply -/

section Replies

variable {σ : Type}

/-- The reply with what a call came to. -/
def replyTo (o : Resolver.Outcome σ) (references : List String) : Option Reply :=
  match o.result, o.subject with
  | .ok (), some (.activity a) => resolvedReply a references
  | .ok (), _ => none
  | .error fault, _ => (Refusal.failed fault).reply?

/-- **A request for resolution** is answered with what the resolver comes to. -/
theorem answer_resolution {service : Service σ} {resolver : Resolver} {callId now : String} {q : Inquiry}
    {session : Session σ} {a : Activity} {entities : Value} {reply : Reply}
    (hmethod : q.method = "POST") (hpath : Resource.at? q.path = some .resolution)
    (hheaders : q.headers = jsonHeaders)
    (haccept : accept (some resolver) q = .ok (resolver, ⟨a, entities⟩))
    (hreply : replyTo (resolver.resolve service callId (some (.activity a)) entities session) a.references =
      some reply) :
    (answer service (some resolver) callId now q session).reply = reply ∧
      (answer service (some resolver) callId now q session).session =
        (resolver.resolve service callId (some (.activity a)) entities session).session := by
  have hquestion : Origin.question? q = none := by
    unfold Origin.question?
    rw [hmethod]
    exact if_neg (by decide)
  have hdirection : q.direction = .ok .resolution := by
    unfold Inquiry.direction
    rw [hpath]
    exact if_pos hmethod
  have hpermit : Origin.permit q reply = reply := by
    have horigin : q.header? "origin" = none := by
      unfold Inquiry.header?
      rw [hheaders]
      decide
    unfold Origin.permit
    rw [horigin]
  have hhandle : handle service (some resolver) callId now q session =
      (some reply, (resolver.resolve service callId (some (.activity a)) entities session).session,
        (resolver.resolve service callId (some (.activity a)) entities session).journal) := by
    unfold handle
    rw [hdirection]
    show resolution service (some resolver) callId q session = _
    unfold resolution
    rw [haccept]
    exact Prod.ext hreply rfl
  unfold answer
  rw [hquestion]
  dsimp only
  rw [hhandle]
  exact ⟨hpermit, rfl⟩

/-- A document of JSON can leave as a reply. -/
theorem ofDocument_eq {v : Value} (h : v.IsJson) (status : Nat) :
    Reply.ofDocument status [] v = some ⟨status, [], .json v⟩ := by
  unfold Reply.ofDocument
  rw [h.sendable_eq]

/-- What tells of a resolved activity and of the references it held before. -/
def resolvedDocument (a : Activity) (references : List String) : Value :=
  .object [("activity", a.toWire), ("references", .texts references)]

theorem isJson_resolvedDocument {a : Activity} (h : a.IsJson) (references : List String) :
    (resolvedDocument a references).IsJson :=
  Value.isJson_pair (by decide) h.toWire (Value.isJson_texts references)

/-- What a reply tells of an activity can be read if the reply can be made. -/
theorem nesting_resolvedDocument {a : Activity} (hdepth : depth a.toWire ≤ mostLevels + 1)
    (references : List String) : Json.nesting (resolvedDocument a references) ≤ Json.mostLevels := by
  have hactivity : Json.nesting a.toWire < Json.mostLevels :=
    Nat.lt_of_le_of_lt ((Value.nesting_le_depth _).trans hdepth) (by decide)
  have hreferences : Json.nesting (.texts references) ≤ 969 := (Json.check_eq_ok (Json.check_texts references)).2
  exact Json.nesting_pair_le (Nat.le_of_lt_succ hactivity) hreferences

/-- An activity of JSON that is not too deep is replied with as it is. -/
theorem resolvedReply_eq {a : Activity} (h : a.IsJson) (hdepth : depth a.toWire ≤ mostLevels + 1)
    (references : List String) :
    resolvedReply a references = some ⟨200, [], .json (resolvedDocument a references)⟩ := by
  unfold resolvedReply
  rw [if_neg (Nat.not_lt.mpr hdepth), h.toWire.finite_eq]
  exact ofDocument_eq (isJson_resolvedDocument h references) 200

/-- What tells of a fault. -/
def faultDocument (fault : Fault) : Value :=
  .object [("detail", .text fault.message)]

theorem isJson_faultDocument (fault : Fault) : (faultDocument fault).IsJson :=
  Value.isJson_single "detail" (Value.isJson_text fault.message)

/-- The status under which a fault of the resolver's own is told, by the kind of the fault: one for arguments
that cannot be used, one for a refused credential, and one for whatever else fails. -/
def toldStatus (fault : Fault) : Nat :=
  if fault.label = "InvalidArgumentError" ∨ fault.label = "UnsupportedValueTypeError" then 400
  else if fault.label = "AuthenticationError" then 401
  else 502

theorem statusOfFault_eq {fault : Fault} (h : fault.isOwn = true) : statusOfFault fault = toldStatus fault := by
  cases fault with
  | mishap => cases h
  | resolver | configuration | argument | authentication | service | unsupported | malformed | incomplete => rfl

theorem toldStatus_range (fault : Fault) : 400 ≤ toldStatus fault ∧ toldStatus fault < 600 := by
  unfold toldStatus
  split
  · decide
  · split <;> decide

/-- A fault of the resolver's own is told. -/
theorem reply?_failed {fault : Fault} (h : fault.isOwn = true) :
    (Refusal.failed fault).reply? = some ⟨statusOfFault fault, [], .json (faultDocument fault)⟩ := by
  unfold Refusal.reply?
  have htold : (Refusal.failed fault).isTold = true := h
  rw [if_pos htold]
  exact ofDocument_eq (isJson_faultDocument fault) _

end Replies

end Gateway

/-! ## The client -/

namespace Remote

/-- The content type of a document names UTF-8. -/
theorem charsetName?_json : Incoming.charsetName? (some "application/json") = .ok (some "utf-8") := by
  decide +kernel

theorem ofName?_utf8 : Charset.ofName? "utf-8" = some (.unicode .utf8) := by
  decide +kernel

/-- A reply with a document as it arrives. -/
def Incoming.ofDocument (status : Nat) (v : Value) : Incoming :=
  .ofReply "POST" ⟨status, [], .json v⟩

/-- **The document of a reply arrives** as it was written. -/
theorem Incoming.document_ofDocument [TextGuess] {v : Value} (hjson : v.IsJson) (hlevels : Json.nesting v ≤ Json.mostLevels)
    (status : Nat) : (ofDocument status v).document = .ok v := by
  obtain ⟨_, hsome⟩ := Gateway.readBytes_render hjson hlevels
  have hdecode : Text.Encoding.utf8.decodeTolerant (Text.utf8Bytes (Json.render v)) = Json.renderChars v :=
    Text.decodeTolerant_utf8Bytes (Json.plain_renderChars v).allAscii
  have hbody : (ofDocument status v).body = Text.utf8Bytes (Json.render v) := rfl
  have htype : (ofDocument status v).contentType = some "application/json" := rfl
  have hchars : (ofDocument status v).chars = .ok (Json.renderChars v) := by
    unfold Incoming.chars
    rw [hbody, hsome, htype, charsetName?_json]
    show ((Charset.ofName? "utf-8").getD (.unicode .utf8)).decodeWhole _ = _
    rw [ofName?_utf8]
    exact congrArg Except.ok hdecode
  have hnamed : (ofDocument status v).documentChars = .ok (Json.renderChars v) := by
    unfold Incoming.documentChars
    rw [htype, charsetName?_json]
    exact hchars
  have hparse := Json.parseChars_renderChars hlevels hjson.isWritable (.inl rfl)
  rw [List.append_nil, hjson.reading_eq] at hparse
  unfold Incoming.document
  rw [hnamed]
  exact hparse

/-- A reply that tells of no error brings its document. -/
theorem Incoming.result_ofDocument [TextGuess] {v : Value} (hjson : v.IsJson)
    (hlevels : Json.nesting v ≤ Json.mostLevels) : (ofDocument 200 v).result = .ok v := by
  have herror : (ofDocument 200 v).isError = false := rfl
  unfold Incoming.result
  rw [herror, if_neg Bool.false_ne_true, document_ofDocument hjson hlevels]
  rfl

/-- **A reply that tells of a fault** is refused with its message. -/
theorem Incoming.result_faultDocument [TextGuess] (fault : Phrasing.Fault) {status : Nat}
    (hstatus : 400 ≤ status ∧ status < 600) :
    (ofDocument status (Gateway.faultDocument fault)).result =
      .error (.refused ("Gateway Error (" ++ toString status ++ "): " ++ fault.message)
        (ofDocument status (Gateway.faultDocument fault))) := by
  have herror : (ofDocument status (Gateway.faultDocument fault)).isError = true := by
    unfold Incoming.isError
    rw [Bool.and_eq_true]
    exact ⟨decide_eq_true hstatus.1, decide_eq_true hstatus.2⟩
  have hdocument := document_ofDocument (Gateway.isJson_faultDocument fault)
    (by decide : 1 ≤ Json.mostLevels) status
  have hdetail : (ofDocument status (Gateway.faultDocument fault)).detail = .ok fault.message := by
    unfold Incoming.detail
    rw [hdocument]
    rfl
  unfold Incoming.result
  rw [if_pos herror, hdetail]
  rfl

/-- A gateway is reached: a request for resolution goes to an address of the web, and this leads to the
resource that resolves. -/
structure Reaches (r : Remote) (address : String) (place : Address) : Prop where
  usual : usualAddress (r.base ++ "/activities/resolve") = .ok address
  isWeb : isWebAddress address = true
  leads : Gateway.Inquiry.addressOf address = .ok place
  allowed : Gateway.Inquiry.checkReach place = .ok ()
  found : Gateway.Resource.at? (Gateway.Inquiry.pathOf place) = some .resolution

section Calls

variable {σ : Type} {service : Service σ} {resolver : Resolver} {callId now : String} {r : Remote}
  {address : String} {place : Address} {session : Session σ}

/-- A document of JSON leaves as a request to a gateway that is reached. -/
theorem Reaches.outgoing_eq (h : r.Reaches address place) {v : Value} (hjson : v.IsJson) :
    r.outgoing "POST" "/activities/resolve" (some v) = .ok ⟨"POST", address, r.timeout, some v⟩ := by
  have hbody : bodyOf v = .ok v := by
    unfold bodyOf
    rw [hjson.sendable_eq]
    rfl
  refine bind_eq_ok.mpr ⟨address, h.usual, bind_eq_ok.mpr ⟨some v, ?_, ?_⟩⟩
  · exact bind_eq_ok.mpr ⟨v, hbody, rfl⟩
  · exact if_pos h.isWeb

/-- The request as a gateway that is reached receives it. -/
theorem Reaches.inquiry_eq (h : r.Reaches address place) (v : Value) :
    Outgoing.inquiry ⟨"POST", address, r.timeout, some v⟩ =
      .ok ⟨"POST", Gateway.Inquiry.pathOf place, Gateway.jsonHeaders, Text.utf8Bytes (Json.render v)⟩ := by
  have hmethod : String.ofList ("POST".toList.map Text.upperAscii) = "POST" := by decide
  refine bind_eq_ok.mpr ⟨place, h.leads, bind_eq_ok.mpr ⟨(), by decide, bind_eq_ok.mpr ⟨(), h.allowed, ?_⟩⟩⟩
  rw [hmethod]
  rfl

/-- **A call that reaches a gateway** brings what the reply of the gateway's resolver comes to. -/
theorem Reaches.resolve_eq [TextGuess] (hreaches : r.Reaches address place) {activity : Value}
    {entities : List (String × Value)} {a : Activity} {status : Nat} {v : Value}
    (hactivity : Gateway.Submittable activity) (hentities : Gateway.Submittable (.object entities))
    (haccepted : Activity.ofValue .direct activity = .ok a)
    (hreply : Gateway.replyTo
      (resolver.resolve service callId (some (.activity a)) (.object entities) session) a.references =
        some ⟨status, [], .json v⟩) :
    resolve (direct service (some resolver) callId now) r activity (.object entities) session =
      ((Incoming.ofDocument status v).result,
        (resolver.resolve service callId (some (.activity a)) (.object entities) session).session) := by
  obtain ⟨hjson, _⟩ := Gateway.isJson_submission hactivity hentities
  have hinquiry := hreaches.inquiry_eq (submission activity (.object entities))
  generalize hq : (⟨"POST", Gateway.Inquiry.pathOf place, Gateway.jsonHeaders,
    Text.utf8Bytes (Json.render (submission activity (.object entities)))⟩ : Gateway.Inquiry) = q at hinquiry
  have hmethod : q.method = "POST" := hq ▸ rfl
  have hpath : Gateway.Resource.at? q.path = some .resolution := hq ▸ hreaches.found
  have hheaders : q.headers = Gateway.jsonHeaders := hq ▸ rfl
  have haccept := Gateway.accept_submission resolver hactivity hentities haccepted hheaders (hq ▸ rfl)
  have hanswer := @Gateway.answer_resolution _ service resolver callId now q session a _ _ hmethod hpath hheaders
    haccept hreply
  have hsent : (direct service (some resolver) callId now).send session
      ⟨"POST", address, r.timeout, some (submission activity (.object entities))⟩ =
      (.reply (Incoming.ofDocument status v),
        (resolver.resolve service callId (some (.activity a)) (.object entities) session).session) := by
    unfold direct
    dsimp only
    rw [hinquiry]
    dsimp only
    rw [hanswer.1, hanswer.2]
    rfl
  have htype : Incoming.charsetName? (Incoming.ofDocument status v).contentType = .ok (some "utf-8") :=
    charsetName?_json
  unfold resolve exchange
  rw [hreaches.outgoing_eq hjson]
  dsimp only
  rw [hsent]
  dsimp only
  rw [htype]
  rfl

/-- A call that returns has filled the activity in and asked for a phrase under each of its references. -/
theorem asked_of_returns {a : Activity} {entities : Value}
    (h : (resolver.resolve service callId (some (.activity a)) entities session).result = .ok ()) :
    ∃ table sent,
      (resolver.resolve service callId (some (.activity a)) entities session).subject =
        some (.activity (a.fill table)) ∧
      session.Sends service sent
        (resolver.resolve service callId (some (.activity a)) entities session).session ∧
      sent.filterMap Request.template? = a.references := by
  cases hchecked : Resolver.checkArguments (some (.activity a)) entities with
  | error fault =>
    rw [Resolver.resolve_unchecked hchecked] at h
    cases h
  | ok s =>
    cases Resolver.subject_of_checkArguments hchecked
    cases hjournal : resolver.startJournal callId with
    | error m =>
      rw [Resolver.resolve_unrecorded hchecked hjournal] at h
      cases h
    | ok journal =>
      obtain ⟨result, call, hcourse, hresolve⟩ :=
        Resolver.resolve_course service session hchecked hjournal
      rw [hresolve] at h ⊢
      cases h
      obtain ⟨sent, table, hresolved⟩ := hcourse.resolved
      exact ⟨table, sent, hresolved.once trivial, hresolved.sends, (Except.ok.inj hresolved.asked).symm⟩

/-- **The layers agree.**  A client that calls a gateway which it reaches, with an activity that is accepted and
with entities, leaves the session of the service as the gateway's resolver does when it is called directly.  If
that call returns, the client gets the written form of the resolved activity with the references that it held
before, one for each request for a phrase that was sent, in their order; if it ends in a fault of the resolver's
own, the client is refused with the message of the fault under the status of its kind. -/
theorem resolve_agrees [TextGuess] (hreaches : r.Reaches address place) {activity : Value} {entities : List (String × Value)}
    {a : Activity} (hactivity : Gateway.Submittable activity)
    (hentities : Gateway.Submittable (.object entities)) (haccepted : Activity.ofValue .direct activity = .ok a)
    (hdepth : Gateway.depth a.toWire ≤ Gateway.mostLevels + 1) :
    let o := resolver.resolve service callId (some (.activity a)) (.object entities) session
    let called := resolve (direct service (some resolver) callId now) r activity (.object entities) session
    (o.result = .ok () →
      ∃ resolved sent, o.subject = some (.activity resolved) ∧
        called = (.ok (.object [("activity", resolved.toWire), ("references", .texts a.references)]), o.session) ∧
        session.Sends service sent o.session ∧ sent.filterMap Request.template? = a.references) ∧
      ∀ fault, o.result = .error fault → fault.isOwn = true →
        ∃ reply, reply.status = Gateway.toldStatus fault ∧
          called = (.error (.refused
            ("Gateway Error (" ++ toString (Gateway.toldStatus fault) ++ "): " ++ fault.message) reply),
            o.session) := by
  intro o called
  constructor
  · intro hreturns
    obtain ⟨table, sent, hsubject, hsends, hasked⟩ := asked_of_returns hreturns
    have hjson : (a.fill table).IsJson := (Activity.isJson_of_ofValue hactivity.isJson haccepted).fill table
    have hshallow : Gateway.depth (a.fill table).toWire ≤ Gateway.mostLevels + 1 :=
      (Activity.depth_toWire_fill table a).symm ▸ hdepth
    have hreply : Gateway.replyTo o a.references =
        some ⟨200, [], .json (Gateway.resolvedDocument (a.fill table) a.references)⟩ := by
      unfold Gateway.replyTo
      rw [hreturns, hsubject]
      exact Gateway.resolvedReply_eq hjson hshallow a.references
    have hcalled := @Reaches.resolve_eq _ _ _ _ now _ _ _ _ _ hreaches _ _ _ _ _ hactivity hentities haccepted hreply
    rw [Incoming.result_ofDocument (Gateway.isJson_resolvedDocument hjson a.references)
      (Gateway.nesting_resolvedDocument hshallow a.references)] at hcalled
    exact ⟨a.fill table, sent, hsubject, hcalled, hsends, hasked⟩
  · intro fault hfails hown
    have hreply : Gateway.replyTo o a.references =
        some ⟨Gateway.toldStatus fault, [], .json (Gateway.faultDocument fault)⟩ := by
      unfold Gateway.replyTo
      rw [hfails, ← Gateway.statusOfFault_eq hown]
      exact Gateway.reply?_failed hown
    have hcalled := @Reaches.resolve_eq _ _ _ _ now _ _ _ _ _ hreaches _ _ _ _ _ hactivity hentities haccepted hreply
    rw [Incoming.result_faultDocument fault (Gateway.toldStatus_range fault)] at hcalled
    exact ⟨Incoming.ofDocument (Gateway.toldStatus fault) (Gateway.faultDocument fault), rfl, hcalled⟩

end Calls

/-! ## A greeting -/

section Greeting

/-- The gateway where one is expected. -/
def usual : Remote := .ofAddress usualBase usualTimeout

/-- The place that the usual gateway resolves at. -/
def usualPlace : Address :=
  ⟨"http".toList, [], "localhost".toList, some 8000, "/activities/resolve".toList, none, none⟩

theorem usual_reaches : usual.Reaches "http://localhost:8000/activities/resolve" usualPlace where
  usual := by decide +kernel
  isWeb := by decide +kernel
  leads := by decide +kernel
  allowed := by decide +kernel
  found := by decide +kernel

/-- A greeting as it is submitted. -/
def submittedGreeting : Value := .object [("text", .text "[greeting]!")]

theorem submittable_greeting : Gateway.Submittable submittedGreeting where
  isJson := Value.isJson_single "text" (Value.isJson_text _)
  nesting_lt := (by decide : 1 < Json.mostLevels)

/-- Entities with a guest. -/
def guest (s : Scalar) : List (String × Value) := [("guest", .scalar s)]

theorem submittable_guest {s : Scalar} (h : s.isJson = true) : Gateway.Submittable (.object (guest s)) where
  isJson := Value.isJson_single "guest" (.scalar h)
  nesting_lt := (by decide : 1 < Json.mostLevels)

/-- The text that a call has left in an activity. -/
def textOf {σ : Type} (o : Resolver.Outcome σ) : Option String :=
  match o.subject with
  | some (.activity a) => a.text
  | _ => none

/-- A greeting of a guest is resolved, and one of a guest without a wire form is refused. -/
theorem resolve_agrees_greeted :
    usual.Reaches "http://localhost:8000/activities/resolve" usualPlace ∧
      Gateway.Submittable submittedGreeting ∧ Gateway.Submittable (.object (guest (.text "Ada"))) ∧
      Gateway.Submittable (.object (guest .null)) ∧
      Activity.ofValue .direct submittedGreeting = .ok Resolver.greeted ∧
      Gateway.depth Resolver.greeted.toWire ≤ Gateway.mostLevels + 1 ∧
      (∃ resolved : Activity, resolved.text = some "Hello!" ∧
        (resolve (direct Resolver.greeter (some Resolver.lobby) "call" "now") usual submittedGreeting
          (.object (guest (.text "Ada"))) (.start ())).1 =
          .ok (.object [("activity", resolved.toWire), ("references", .texts ["greeting"])])) ∧
      ∃ reply, reply.status = 400 ∧
        (resolve (direct Resolver.greeter (some Resolver.lobby) "call" "now") usual submittedGreeting
          (.object (guest .null)) (.start ())).1 =
          .error (.refused "Gateway Error (400): Cannot encode value of type NoneType" reply) := by
  have hada := @submittable_guest (.text "Ada") rfl
  have hnull := @submittable_guest .null rfl
  have haccepted : Activity.ofValue .direct submittedGreeting = .ok Resolver.greeted := rfl
  have hdepth : Gateway.depth Resolver.greeted.toWire ≤ Gateway.mostLevels + 1 := by decide
  refine ⟨usual_reaches, submittable_greeting, hada, hnull, haccepted, hdepth, ?_, ?_⟩
  · obtain ⟨hreturned, _⟩ := @resolve_agrees _ Resolver.greeter Resolver.lobby "call" "now" _ _ _ (.start ())
      _ usual_reaches _ _ _ submittable_greeting hada haccepted hdepth
    obtain ⟨resolved, _, hsubject, hcalled, _⟩ := hreturned (by decide +kernel)
    have htext : textOf (Resolver.lobby.resolve Resolver.greeter "call" (some (.activity Resolver.greeted))
        (.object (guest (.text "Ada"))) (.start ())) = some "Hello!" := by
      decide +kernel
    unfold textOf at htext
    rw [hsubject] at htext
    have hnames : Resolver.greeted.references = ["greeting"] := by decide +kernel
    exact ⟨resolved, htext, hnames ▸ congrArg Prod.fst hcalled⟩
  · obtain ⟨_, hfailed⟩ := @resolve_agrees _ Resolver.greeter Resolver.lobby "call" "now" _ _ _ (.start ())
      _ usual_reaches _ _ _ submittable_greeting hnull haccepted hdepth
    obtain ⟨reply, hstatus, hcalled⟩ := hfailed (.unsupported "Cannot encode value of type NoneType")
      (by decide +kernel) rfl
    exact ⟨reply, hstatus, congrArg Prod.fst hcalled⟩

end Greeting

end Remote

end Phrasing
