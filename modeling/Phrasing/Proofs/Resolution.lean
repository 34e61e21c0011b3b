import Phrasing.Proofs.Answers
import Phrasing.Proofs.Course
import Phrasing.Proofs.Documents
import Phrasing.Proofs.Places
import Phrasing.Proofs.Reference
import Phrasing.Proofs.Tables

/-! # What a call that returns has done

A call that returns has asked for a phrase under each reference of the activity, and the phrases
that the answers brought make up the table from which the searched texts are filled in.  Lookup goes
by the template that was asked for, never by the one that a response reports, and not by the time at
which an answer arrived.
-/

namespace Phrasing

variable {σ : Type} {service : Service σ}

/-- A request that was sent asked for a template, and what came back for it brought a phrase. -/
def Service.Brought (service : Service σ) (state : σ) (sent : List Request)
    (template phrase : String) : Prop :=
  ∃ request arrival, (request, arrival) ∈ sent.zip (service.answers state sent) ∧
    request.template? = some template ∧ Client.Brings request arrival.answer phrase

/-- A request for a token brings no phrase. -/
theorem Service.brought_cons_token {state : σ} {address : Address} {key : String}
    {sent : List Request} {template phrase : String} :
    service.Brought state (.token address key :: sent) template phrase ↔
      service.Brought (service.answer state (.token address key)).2 sent template phrase := by
  unfold Brought
  simp only [answers, List.zip_cons_cons, List.mem_cons]
  constructor
  · rintro ⟨request, arrival, hfirst | hmem, htemplate, hbrings⟩
    · cases hfirst
      cases htemplate
    · exact ⟨request, arrival, hmem, htemplate, hbrings⟩
  · rintro ⟨request, arrival, hmem, htemplate, hbrings⟩
    exact ⟨request, arrival, .inr hmem, htemplate, hbrings⟩

theorem Client.isToken_of_tokenRequest {l : Location} {key : Value} {request : Request}
    (h : tokenRequest l key = .ok request) : ∃ address text, request = .token address text := by
  obtain ⟨address, _, h⟩ := bind_eq_ok.mp h
  obtain ⟨text, _, h⟩ := bind_eq_ok.mp h
  obtain ⟨_, _, h⟩ := bind_eq_ok.mp h
  cases h
  exact ⟨address, text, rfl⟩

/-- **The table of a joint fetch** holds exactly the phrases that were brought. -/
theorem Resolver.get?_tableOf_brought {state : σ} {names : List String} (hd : names.Nodup)
    {make : String → Request} (hmake : ∀ name, (make name).template? = some name)
    {responses : List GenerationResponse}
    (h : Client.phraseResults service state (names.map make) = responses.map .ok)
    (name phrase : String) :
    (tableOf (names.zip responses)).1.get? name = some phrase ↔
      service.Brought state (names.map make) name phrase := by
  have hlength : names.length = responses.length := by
    simpa using congrArg List.length h
  have hfst : (names.zip responses).map Prod.fst = names := List.map_fst_zip (Nat.le_of_eq hlength)
  have hpairs := Client.mem_zip_responses (by simp) h
  rw [get?_tableOf_eq_some (hfst.symm ▸ hd)]
  constructor
  · rintro ⟨response, hmem, hresolved, htext⟩
    obtain ⟨arrival, hmem, hresult⟩ := (hpairs name response).mp hmem
    refine ⟨make name, arrival, ?_, hmake name,
      Client.brings_iff.mpr ⟨response, hresult, hresolved, htext⟩⟩
    rw [List.zip_map_left]
    exact List.mem_map.mpr ⟨(name, arrival), hmem, rfl⟩
  · rintro ⟨request, arrival, hmem, htemplate, hbrings⟩
    rw [List.zip_map_left] at hmem
    obtain ⟨⟨name', arrival'⟩, hanswer, hpair⟩ := List.mem_map.mp hmem
    cases hpair
    -- A template belongs to one request only, so the request is the one that was made for it.
    have hname : name' = name := Option.some.inj ((hmake name').symm.trans htemplate)
    subst hname
    obtain ⟨response, hresult, hresolved, htext⟩ := Client.brings_iff.mp hbrings
    exact ⟨response, (hpairs name' response).mpr ⟨arrival', hanswer, hresult⟩, hresolved, htext⟩

namespace Resolver

variable {r : Resolver} {callId : String} {entities : Value} {session : Session σ}

/-- A service that gives everyone the same token, and for every template the same greeting under a
name of its own. -/
def greeter : Service Unit where
  answer _ request :=
    let body := match request with
      | .token _ _ => "guest"
      | .generation _ _ _ => Json.render (.object [("templateId", .text "welcome"),
        ("Outputs", .object [("DisplayText", (WireValue.text "Hello").toWire)])])
    (⟨.reply ⟨200, [], Text.utf8Bytes body⟩, 0⟩, ())

/-- A resolver for that service. -/
def lobby : Resolver :=
  ⟨⟨.text "key", .text "app", "https://lg.example.com", .text "https://lg.example.com/token"⟩,
    .default⟩

/-- An activity with one reference. -/
def greeted : Activity :=
  ⟨"message", some "[greeting]!", none, none, none, []⟩

/-- A subject was resolved: one request was sent for every reference, in their order, besides the one for the token;
what the answers brought is the table, which knows every reference in the texts that are searched; these texts were
filled in from it, once each unless the places of an object in memory are shared, and all the rest stayed. -/
structure Resolved (service : Service σ) (session : Session σ) (s : Subject) (session' : Session σ)
    (s' : Option Subject) (sent : List Request) (table : Reference.Table) : Prop where
  sends : session.Sends service sent session'
  asked : s.references = .ok (sent.filterMap Request.template?)
  brought : ∀ name phrase, table.get? name = some phrase ↔
    service.Brought session.service sent name phrase
  complete : ∀ text ∈ s.searched, ∀ name ∈ Reference.names text, (table.get? name).isSome
  filled : ∃ filled, s' = some filled ∧ s.FilledFrom table filled
  once : s.Unshared → s' = some (s.rewrite (Reference.fill table))

/-- A subject without references is resolved as it is. -/
theorem Resolved.of_nothing {s : Subject} (h : s.references = .ok []) :
    Resolved service session s session (some s) [] [] where
  sends := Session.Sends.refl session
  asked := h
  brought := by
    intro name phrase
    constructor
    · intro hget
      cases hget
    · rintro ⟨_, _, hmem, _⟩
      cases hmem
  complete := by
    intro text htext name hname
    have hmem := (Subject.mem_references h).mpr ⟨text, htext, hname⟩
    cases hmem
  filled := by
    have hfilled := Subject.filledFrom_of_fill h (by rw [Subject.fill_nil h])
    rw [Subject.fill_nil h] at hfilled
    exact ⟨s, rfl, hfilled⟩
  once := fun _ => congrArg some (Subject.rewrite_eq_self fun text _ => Reference.fill_nil text).symm

/-- A token and a joint fetch that leaves no reference without a phrase resolve a subject that does not refuse. -/
theorem Resolved.of_fetchAll {s : Subject} {names : List String} {slots : List Slot} {token : String}
    {pairs : List (String × GenerationResponse)} {session₁ session₂ : Session σ}
    (hnames : s.references = .ok names) (hne : names ≠ [])
    (htoken : Client.issueToken service r.endpoint.location r.endpoint.key session =
      (.ok token, session₁))
    (hfetch : Client.fetchAll service r.endpoint.location token (r.requests s slots names) session₁ =
      (.ok pairs, session₂))
    (hmissing : missingFrom (tableOf pairs).1 names = []) (hfill : (s.fill (tableOf pairs).1).2 = none)
    (notices : List Notice) :
    ∃ sent, Resolved service session s { session₂ with notices := notices }
      (some (s.fill (tableOf pairs).1).1) sent (tableOf pairs).1 := by
  obtain ⟨request, hrequest, hopen, _, hfirst⟩ := Client.made_of_issueToken htoken
  obtain ⟨make, responses, hmake, hsends, hpairs, hresults⟩ :=
    Client.made_of_fetchAll hne (hfirst.isOpen.trans hopen) hfetch
  obtain ⟨address, key, rfl⟩ := Client.isToken_of_tokenRequest hrequest
  have htemplate := Client.template?_of_phraseRequests hmake
  have hfilled := Subject.filledFrom_of_fill hnames hfill
  subst hpairs
  refine ⟨.token address key :: names.map make, (hfirst.trans hsends).withNotices _,
    ?_, ?_, ?_, ⟨_, rfl, hfilled⟩, fun hunshared => congrArg some (hfilled.eq_rewrite hunshared)⟩
  · have hsome : Request.template? ∘ make = some := funext htemplate
    rw [List.filterMap_cons_none rfl, List.filterMap_map, hsome, List.filterMap_some]
    exact hnames
  · intro name phrase
    rw [Service.brought_cons_token]
    rw [hfirst.state] at hresults
    exact get?_tableOf_brought (Subject.nodup_references hnames) htemplate hresults name phrase
  · intro text htext name hname
    have hmem : name ∈ names := (Subject.mem_references hnames).mpr ⟨text, htext, hname⟩
    have hnone := List.filter_eq_nil_iff.mp hmissing name hmem
    rwa [Option.isNone_iff_eq_none, ← ne_eq, Option.ne_none_iff_isSome] at hnone

/-- A course that ends in no fault has resolved its subject. -/
theorem Course.resolved {s : Subject} {journal : Option Journal.Writer} {call : Call σ}
    (h : r.Course service entities ⟨session, s, journal⟩ (.ok ()) call) :
    ∃ sent table, Resolved service session s call.session (some call.subject) sent table := by
  cases h with
  | nothing h => exact ⟨[], [], Resolved.of_nothing h.finds⟩
  | filled h hmissing hfill =>
    obtain ⟨sent, hresolved⟩ := Resolved.of_fetchAll h.finds h.referring h.issues h.responds hmissing hfill _
    exact ⟨sent, _, hresolved⟩

end Resolver

end Phrasing
