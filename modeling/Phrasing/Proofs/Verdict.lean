import Phrasing.Proofs.Faults
import Phrasing.Proofs.Resolution
import Phrasing.Proofs.Slots

/-! # Which end a call comes to

The stages of a call are gone through in a fixed order, and the first that fails decides: arguments,
entities, references, the token, the fetches in the order of the requests, and last whether a phrase
is missing.  `Verdict` says for each end when a call comes to it, without regard to how the call is
run; `resolve_result_iff` proves that a call through an open client comes to that end and no other,
unless it fails to start its journal.
-/

namespace Phrasing

variable {σ : Type}

/-- A value gives entities: a mapping gives its entries, and null gives none. -/
inductive Value.Gives : Value → List (Scalar × Value) → Prop where
  | nothing : Gives .null []
  | entries (entries : List (Scalar × Value)) : Gives (.mapping entries) entries

/-- The slots of given entities are those of their entries. -/
theorem Slot.ofEntities_eq {entities : Value} {entries : List (Scalar × Value)}
    (h : entities.Gives entries) : ofEntities entities = ofEntries entries := by
  cases h with
  | nothing => rfl
  | entries =>
    cases entries with
    | nil => rfl
    | cons entry rest => rfl

namespace Resolver

theorem checkArguments_of_gives {entities : Value} {entries : List (Scalar × Value)}
    (h : entities.Gives entries) (s : Subject) : checkArguments (some s) entities = .ok s := by
  cases h <;> rfl

theorem checkArguments_of_not_gives {entities : Value} (h : ¬ ∃ entries, entities.Gives entries)
    (s : Subject) :
    checkArguments (some s) entities =
      .error (.argument ("entities must be a mapping, got " ++ entities.typeName)) := by
  unfold checkArguments
  split
  · rename_i hsubject
    cases hsubject
  · exact absurd ⟨[], .nothing⟩ h
  · exact absurd ⟨_, .entries _⟩ h
  · rfl

/-- The references whose response has no template or no text to display. -/
def unresolved (references : List String) (responses : List GenerationResponse) : List String :=
  ((references.zip responses).filter fun (_, response) =>
    response.template.isNull || response.displayText.isNone).map Prod.fst

/-- They keep the order in which they were asked for. -/
theorem unresolved_sublist {references : List String} {responses : List GenerationResponse}
    (hlength : references.length = responses.length) :
    (unresolved references responses).Sublist references := by
  have hfst : (references.zip responses).map Prod.fst = references :=
    List.map_fst_zip (Nat.le_of_eq hlength)
  have hsublist := (List.filter_sublist (p := fun (_, response) =>
    response.template.isNull || response.displayText.isNone)
      (l := references.zip responses)).map Prod.fst
  rwa [hfst] at hsublist

/-- The end of a call that leaves these references unresolved. -/
def noneMissing : List String → Except Fault Unit
  | [] => .ok ()
  | missing => .error (.incomplete missing)

theorem noneMissing_of_ne_nil {missing : List String} (h : missing ≠ []) :
    noneMissing missing = .error (.incomplete missing) := by
  cases missing with
  | nil => exact absurd rfl h
  | cons m ms => rfl

theorem checkComplete_eq (references : List String) (table : Reference.Table) :
    checkComplete references table = noneMissing (missingFrom table references) := by
  unfold checkComplete
  cases missingFrom table references <;> rfl

/-- What the fetches of a call come to, one for every reference in its order. -/
def fetchesOf (service : Service σ) (r : Resolver) (a : Activity) (slots : List Slot)
    (request : Request) (token : String) (state : σ) : List (Except Fault GenerationResponse) :=
  Client.fetches service r.endpoint.location token (service.answer state request).2
    (r.requests (.activity a) slots a.references)

@[simp] theorem length_fetchesOf (service : Service σ) (r : Resolver) (a : Activity)
    (slots : List Slot) (request : Request) (token : String) (state : σ) :
    (fetchesOf service r a slots request token state).length = a.references.length := by
  simp [fetchesOf, requests, GenerationRequest.forReferences]

section Verdicts

variable (service : Service σ) (r : Resolver) (entities : Value) (state : σ)

/-- A call comes to its fetches: all entities have a wire form, and there are references and a token. -/
structure Fetching (a : Activity) (slots : List Slot) (request : Request) (token : String) :
    Prop where
  encoded : ∃ entries, entities.Gives entries ∧ Slot.ofEntries entries = .ok slots
  referring : a.references ≠ []
  asked : Client.tokenRequest r.endpoint.location r.endpoint.key = .ok request
  issued : Client.tokenResult request (service.answer state request).1.answer = .ok token

/-- **The ends of a call**, each with when a call comes to it. -/
inductive Verdict : Option Activity → Except Fault Unit → Prop where
  /-- There is no activity. -/
  | noActivity : Verdict none (.error (.argument "activity must not be None"))
  /-- The entities are neither null nor a mapping. -/
  | noEntities {a : Activity} (h : ¬ ∃ entries, entities.Gives entries) :
    Verdict (some a) (.error (.argument ("entities must be a mapping, got " ++ entities.typeName)))
  /-- An entity has no wire form, and all before it have one. -/
  | unencodable {a : Activity} {before after : List (Scalar × Value)} {name : Scalar} {v : Value}
    (hentities : entities.Gives (before ++ (name, v) :: after))
    (hbefore : ∀ e ∈ before, WireValue.HasForm e.2) (hv : ¬ WireValue.HasForm v) :
    Verdict (some a) (.error (.unsupported (WireValue.refusal v)))
  /-- All entities have a wire form, and the activity has no references. -/
  | nothing {a : Activity} {entries : List (Scalar × Value)} (hentities : entities.Gives entries)
    (hentries : ∀ e ∈ entries, WireValue.HasForm e.2) (hnone : a.references = []) :
    Verdict (some a) (.ok ())
  /-- There are references, and the request for a token fails. -/
  | noToken {a : Activity} {entries : List (Scalar × Value)} {fault : Fault}
    (hentities : entities.Gives entries) (hentries : ∀ e ∈ entries, WireValue.HasForm e.2)
    (hsome : a.references ≠ [])
    (htoken : Client.tokenOf service r.endpoint.location r.endpoint.key state = .error fault) :
    Verdict (some a) (.error fault)
  /-- There is a token, and a fetch fails before which none has failed. -/
  | noResponse {a : Activity} {slots : List Slot} {request : Request} {token : String}
    {fault : Fault}
    {responses : List GenerationResponse} {rest : List (Except Fault GenerationResponse)}
    (h : Fetching service r entities state a slots request token)
    (hfetches : fetchesOf service r a slots request token state =
      responses.map .ok ++ .error fault :: rest) :
    Verdict (some a) (.error fault)
  /-- All fetches succeed, and a response lacks its template or its text. -/
  | incomplete {a : Activity} {slots : List Slot} {request : Request} {token : String}
    {responses : List GenerationResponse}
    (h : Fetching service r entities state a slots request token)
    (hfetches : fetchesOf service r a slots request token state = responses.map .ok)
    (hmissing : unresolved a.references responses ≠ []) :
    Verdict (some a) (.error (.incomplete (unresolved a.references responses)))
  /-- All fetches succeed, and no response lacks anything. -/
  | resolved {a : Activity} {slots : List Slot} {request : Request} {token : String}
    {responses : List GenerationResponse}
    (h : Fetching service r entities state a slots request token)
    (hfetches : fetchesOf service r a slots request token state = responses.map .ok)
    (hmissing : unresolved a.references responses = []) :
    Verdict (some a) (.ok ())

/-- The end of a call with usable arguments, stage by stage. -/
def ending (a : Activity) : Except Fault Unit :=
  (Slot.ofEntities entities).bind fun slots =>
    if a.references = [] then .ok ()
    else
      (Client.tokenRequest r.endpoint.location r.endpoint.key).bind fun request =>
        (Client.tokenResult request (service.answer state request).1.answer).bind fun token =>
          (Join.results (fetchesOf service r a slots request token state)).bind fun responses =>
            noneMissing (unresolved a.references responses)

end Verdicts

/-! ## Verdicts and endings -/

section Endings

variable {service : Service σ} {r : Resolver} {entities : Value} {state : σ} {a : Activity}

theorem ending_of_error {fault : Fault} (h : Slot.ofEntities entities = .error fault) :
    ending service r entities state a = .error fault := by
  rw [ending, h]
  rfl

theorem ending_of_nothing {slots : List Slot} (h : Slot.ofEntities entities = .ok slots)
    (hnone : a.references = []) : ending service r entities state a = .ok () := by
  rw [ending, h]
  exact if_pos hnone

theorem ending_of_noToken {slots : List Slot} {fault : Fault}
    (h : Slot.ofEntities entities = .ok slots) (hsome : a.references ≠ [])
    (htoken : Client.tokenOf service r.endpoint.location r.endpoint.key state = .error fault) :
    ending service r entities state a = .error fault := by
  rw [ending, h]
  rcases bind_eq_error.mp htoken with htoken | ⟨request, hrequest, htoken⟩
  · simp only [Except.bind, if_neg hsome, htoken]
  · simp only [Except.bind, if_neg hsome, hrequest, htoken]

/-- Once a call comes to its fetches, these decide. -/
theorem ending_of_fetching {slots : List Slot} {request : Request} {token : String}
    (h : Fetching service r entities state a slots request token) :
    ending service r entities state a =
      (Join.results (fetchesOf service r a slots request token state)).bind fun responses =>
        noneMissing (unresolved a.references responses) := by
  obtain ⟨entries, hgives, hslots⟩ := h.encoded
  rw [ending, Slot.ofEntities_eq hgives, hslots]
  simp only [Except.bind, if_neg h.referring, h.asked, h.issued]

/-- Only the end at the entities comes before they are given. -/
theorem Verdict.of_not_gives {x : Except Fault Unit}
    (h : Verdict service r entities state (some a) x) (hno : ¬ ∃ entries, entities.Gives entries) :
    x = .error (.argument ("entities must be a mapping, got " ++ entities.typeName)) := by
  have hfetching : ∀ {slots request token},
      ¬ Fetching service r entities state a slots request token :=
    fun h => hno (h.encoded.imp fun _ => And.left)
  cases h with
  | noEntities => rfl
  | unencodable hentities => exact absurd ⟨_, hentities⟩ hno
  | nothing hentities => exact absurd ⟨_, hentities⟩ hno
  | noToken hentities => exact absurd ⟨_, hentities⟩ hno
  | noResponse h => exact absurd h hfetching
  | incomplete h => exact absurd h hfetching
  | resolved h => exact absurd h hfetching

/-- A fetch that fails does so on the way to the service and back. -/
theorem isRemote_of_fetchesOf {slots : List Slot} {request : Request} {token : String}
    {fault : Fault}
    {responses : List GenerationResponse} {rest : List (Except Fault GenerationResponse)}
    (h : fetchesOf service r a slots request token state =
      responses.map .ok ++ .error fault :: rest) :
    fault.IsRemote := by
  have hmem : .error fault ∈ fetchesOf service r a slots request token state := by
    rw [h]
    exact List.mem_append_right _ List.mem_cons_self
  exact Client.isRemote_of_fetches hmem

/-- Nothing but arguments is refused as an argument. -/
theorem Verdict.not_gives_of_argument {m : String}
    (h : Verdict service r entities state (some a) (.error (.argument m))) :
    ¬ ∃ entries, entities.Gives entries := by
  cases h with
  | noEntities hno => exact hno
  | noToken _ _ _ htoken => cases Client.isRemote_of_tokenOf htoken
  | noResponse _ hfetches => cases isRemote_of_fetchesOf hfetches

/-- What is missing was asked for, and is told once and in that order. -/
theorem Verdict.sublist_of_incomplete {missing : List String}
    (h : Verdict service r entities state (some a) (.error (.incomplete missing))) :
    missing.Sublist a.references := by
  cases h with
  | noToken _ _ _ htoken => cases Client.isRemote_of_tokenOf htoken
  | noResponse _ hfetches => cases isRemote_of_fetchesOf hfetches
  | incomplete h hfetches =>
    refine unresolved_sublist ?_
    rw [← length_fetchesOf, hfetches, List.length_map]

/-- **A verdict tells the ending.** -/
theorem ending_of_verdict {x : Except Fault Unit} (hgives : ∃ entries, entities.Gives entries)
    (h : Verdict service r entities state (some a) x) : ending service r entities state a = x := by
  cases h with
  | noEntities hno => exact absurd hgives hno
  | unencodable hentities hbefore hv =>
    refine ending_of_error ?_
    rw [Slot.ofEntities_eq hentities]
    exact Slot.ofEntries_eq_error_iff.mpr ⟨_, _, _, _, rfl, hbefore, hv, rfl⟩
  | nothing hentities hentries hnone =>
    obtain ⟨slots, hslots⟩ := Slot.exists_ofEntries_iff.mpr hentries
    exact ending_of_nothing ((Slot.ofEntities_eq hentities).trans hslots) hnone
  | noToken hentities hentries hsome htoken =>
    obtain ⟨slots, hslots⟩ := Slot.exists_ofEntries_iff.mpr hentries
    exact ending_of_noToken ((Slot.ofEntities_eq hentities).trans hslots) hsome htoken
  | noResponse h hfetches =>
    rw [ending_of_fetching h, Join.results_eq_error_iff.mpr ⟨_, _, hfetches⟩]
    rfl
  | incomplete h hfetches hmissing =>
    rw [ending_of_fetching h, Join.results_eq_ok_iff.mpr hfetches]
    exact noneMissing_of_ne_nil hmissing
  | resolved h hfetches hmissing =>
    rw [ending_of_fetching h, Join.results_eq_ok_iff.mpr hfetches]
    exact congrArg noneMissing hmissing

/-- **The ending is a verdict.** -/
theorem verdict_ending (hgives : ∃ entries, entities.Gives entries) :
    Verdict service r entities state (some a) (ending service r entities state a) := by
  obtain ⟨entries, hgives⟩ := hgives
  have hentities := Slot.ofEntities_eq hgives
  cases hslots : Slot.ofEntries entries with
  | error fault =>
    rw [ending_of_error (hentities.trans hslots)]
    obtain ⟨before, name, v, after, rfl, hbefore, hv, rfl⟩ := Slot.ofEntries_eq_error_iff.mp hslots
    exact .unencodable hgives hbefore hv
  | ok slots =>
    have hentries := Slot.exists_ofEntries_iff.mp ⟨slots, hslots⟩
    by_cases hsome : a.references = []
    · rw [ending_of_nothing (hentities.trans hslots) hsome]
      exact .nothing hgives hentries hsome
    · cases htoken : Client.tokenOf service r.endpoint.location r.endpoint.key state with
      | error fault =>
        rw [ending_of_noToken (hentities.trans hslots) hsome htoken]
        exact .noToken hgives hentries hsome htoken
      | ok token =>
        obtain ⟨request, hrequest, hissued⟩ := bind_eq_ok.mp htoken
        have h : Fetching service r entities state a slots request token :=
          ⟨⟨entries, hgives, hslots⟩, hsome, hrequest, hissued⟩
        rw [ending_of_fetching h]
        cases hresults : Join.results (fetchesOf service r a slots request token state) with
        | error fault =>
          obtain ⟨responses, rest, hfetches⟩ := Join.results_eq_error_iff.mp hresults
          exact .noResponse h hfetches
        | ok responses =>
          have hfetches := Join.results_eq_ok_iff.mp hresults
          show Verdict _ _ _ _ _ (noneMissing (unresolved a.references responses))
          by_cases hmissing : unresolved a.references responses = []
          · rw [hmissing]
            exact .resolved h hfetches hmissing
          · rw [noneMissing_of_ne_nil hmissing]
            exact .incomplete h hfetches hmissing

end Endings

/-! ## Calls and endings -/

section Calls

variable {service : Service σ} {r : Resolver} {entities : Value} {session : Session σ}
  {a : Activity}

/-- The references that a table does not know are the unresolved ones. -/
theorem missingFrom_eq_unresolved {names : List String} {responses : List GenerationResponse}
    (hd : names.Nodup) (hlength : names.length = responses.length) :
    missingFrom (tableOf (names.zip responses)).1 names = unresolved names responses := by
  have hfst : (names.zip responses).map Prod.fst = names := List.map_fst_zip (Nat.le_of_eq hlength)
  have hlacks : ∀ pair : String × GenerationResponse,
      (!pair.2.isResolved) = (pair.2.template.isNull || pair.2.displayText.isNone) := by
    intro pair
    rw [GenerationResponse.isResolved]
    cases pair.2.template.isNull <;> cases pair.2.displayText <;> rfl
  have htable := @missingFrom_tableOf (names.zip responses) (by rwa [hfst])
  rw [hfst] at htable
  rw [htable, unresolved]
  exact congrArg _ (List.filter_congr fun pair _ => hlacks pair)

/-- A joint fetch after a token comes to what the fetches come to. -/
theorem results_fetchesOf {slots : List Slot} {request : Request} {token : String} {s : Session σ}
    (hopen : session.isOpen = true) (hsends : session.Sends service [request] s) :
    (Client.fetchAll service r.endpoint.location token
        (r.requests (.activity a) slots a.references) s).1 =
      (Join.results (fetchesOf service r a slots request token session.service)).map
        (a.references.zip ·) := by
  have hstate : s.service = (service.answer session.service request).2 := hsends.state
  rw [(Client.fetchAll_open service r.endpoint.location token _ (hsends.isOpen.trans hopen)).1,
    hstate]
  unfold Client.joined requests
  rw [Client.templates_forReferences]
  rfl

/-- A call that has got a token ends as its joint fetch does, unless a phrase is missing. -/
theorem ending_of_token {slots : List Slot} {token : String} {s : Session σ}
    (hopen : session.isOpen = true)
    (hslots : Slot.ofEntities entities = .ok slots) (hne : a.references ≠ [])
    (htoken : Client.issueToken service r.endpoint.location r.endpoint.key session =
      (.ok token, s)) :
    ending service r entities session.service a =
      (Client.fetchAll service r.endpoint.location token
        (r.requests (.activity a) slots a.references) s).1.bind
        fun pairs => checkComplete a.references (tableOf pairs).1 := by
  obtain ⟨request, hrequest, _, hissued, hsends⟩ := Client.made_of_issueToken htoken
  rw [results_fetchesOf hopen hsends, ending, hslots]
  simp only [Except.bind, if_neg hne, hrequest, hissued]
  cases hresults : Join.results (fetchesOf service r a slots request token session.service) with
  | error fault => rfl
  | ok responses =>
    have hlength : (fetchesOf service r a slots request token session.service).length =
        responses.length := by
      rw [Join.results_eq_ok_iff.mp hresults, List.length_map]
    rw [length_fetchesOf] at hlength
    simp only [Except.map, checkComplete_eq,
      missingFrom_eq_unresolved (Activity.nodup_references a) hlength]

/-- **The course of a call leads to its ending**, if the journal holds what is recorded before the token. -/
theorem Course.result_eq_ending {journal : Option Journal.Writer} {x : Except Fault Unit}
    {call : Call σ} (hopen : session.isOpen = true)
    (hstart : Call.check (r.recordedStart entities (.activity a)) ⟨session, .activity a, journal⟩ = .ok ())
    (hlist : ∀ slots, Slot.ofEntities entities = .ok slots →
      Call.check (recordedReferences a.references) ⟨session, .activity a, journal⟩ = .ok ())
    (h : r.Course service entities ⟨session, .activity a, journal⟩ x call) :
    x = ending service r entities session.service a := by
  cases h with
  | unbegun h => cases hstart.symm.trans h
  | unencodable _ hslots => exact (ending_of_error hslots).symm
  | unsearchable _ _ hnames => cases hnames
  | unlisted h hlost =>
    obtain rfl := Except.ok.inj h.finds
    cases (hlist _ h.encodes).symm.trans hlost
  | nothing h => exact (ending_of_nothing h.encodes (Except.ok.inj h.finds)).symm
  | noToken h hne htoken =>
    obtain rfl := Except.ok.inj h.finds
    refine (ending_of_noToken h.encodes hne ?_).symm
    rw [← Client.fst_issueToken service _ _ hopen, htoken]
  | noResponses h hfetch =>
    obtain rfl := Except.ok.inj h.finds
    rw [ending_of_token hopen h.encodes h.referring h.issues, hfetch]
    rfl
  | incomplete h hmissing =>
    obtain rfl := Except.ok.inj h.finds
    rw [ending_of_token hopen h.encodes h.referring h.issues, h.responds]
    exact ((checkComplete_eq _ _).trans (noneMissing_of_ne_nil hmissing)).symm
  | stopped _ _ hfill => cases hfill
  | filled h hmissing =>
    obtain rfl := Except.ok.inj h.finds
    rw [ending_of_token hopen h.encodes h.referring h.issues, h.responds]
    exact ((checkComplete_eq _ _).trans (congrArg noneMissing hmissing)).symm

variable {callId : String}

/-- A call for an activity is stopped by its journal: the journal cannot be started, or it cannot hold the start of
the call or, once the entities are encoded, the number of references. -/
inductive StopsAtJournal (r : Resolver) (callId : String) (entities : Value) : Option Activity → Mishap → Prop where
  | unstarted {a : Activity} {m : Mishap} (hgives : ∃ entries, entities.Gives entries)
    (hjournal : r.startJournal callId = .error m) : StopsAtJournal r callId entities (some a) m
  | unbegun {a : Activity} {w : Journal.Writer} {m : Mishap} (hgives : ∃ entries, entities.Gives entries)
    (hjournal : r.startJournal callId = .ok (some w))
    (hstart : (w.entry (r.recordedStart entities (.activity a))).check = .error m) :
    StopsAtJournal r callId entities (some a) m
  | unlisted {a : Activity} {w : Journal.Writer} {slots : List Slot} {m : Mishap}
    (hgives : ∃ entries, entities.Gives entries) (hjournal : r.startJournal callId = .ok (some w))
    (hstart : (w.entry (r.recordedStart entities (.activity a))).check = .ok ())
    (hslots : Slot.ofEntities entities = .ok slots)
    (hlist : (w.entry (recordedReferences a.references)).check = .error m) :
    StopsAtJournal r callId entities (some a) m

/-- **A call that its journal stops** ends in the reason, and has sent nothing. -/
theorem StopsAtJournal.ends {a : Option Activity} {m : Mishap} (h : StopsAtJournal r callId entities a m)
    (service : Service σ) (session : Session σ) :
    (resolve service r callId (a.map .activity) entities session).result = .error (.mishap m) ∧
      session.Sends service [] (resolve service r callId (a.map .activity) entities session).session := by
  cases h with
  | unstarted hgives hjournal =>
    obtain ⟨entries, hgives⟩ := hgives
    rw [Option.map_some, resolve_unrecorded (checkArguments_of_gives hgives _) hjournal]
    exact ⟨rfl, Session.Sends.refl session⟩
  | unbegun hgives hjournal hstart =>
    obtain ⟨entries, hgives⟩ := hgives
    obtain ⟨result, call, hcourse, hresolve⟩ := resolve_course service session
      (checkArguments_of_gives hgives _) hjournal
    obtain ⟨rfl, rfl⟩ := hcourse.of_unbegun hstart
    rw [Option.map_some, hresolve]
    exact ⟨rfl, sends_closing (Session.Sends.refl session) callId _⟩
  | unlisted hgives hjournal hstart hslots hlist =>
    obtain ⟨entries, hgives⟩ := hgives
    obtain ⟨result, call, hcourse, hresolve⟩ := resolve_course service session
      (checkArguments_of_gives hgives _) hjournal
    obtain ⟨rfl, rfl⟩ := hcourse.of_unlisted ⟨hstart, hslots, rfl⟩ hlist
    rw [Option.map_some, hresolve]
    exact ⟨rfl, sends_closing (Session.Sends.refl session) callId _⟩

/-- A call that its journal does not stop records its start and its references. -/
theorem checks_of_not_stops {journal : Option Journal.Writer} (session : Session σ)
    (hjournal : r.startJournal callId = .ok journal) (hgives : ∃ entries, entities.Gives entries)
    (hgoes : ∀ m, ¬ r.StopsAtJournal callId entities (some a) m) :
    Call.check (r.recordedStart entities (.activity a)) ⟨session, .activity a, journal⟩ = .ok () ∧
      ∀ slots, Slot.ofEntities entities = .ok slots →
        Call.check (recordedReferences a.references) ⟨session, .activity a, journal⟩ = .ok () := by
  cases journal with
  | none => exact ⟨rfl, fun _ _ => rfl⟩
  | some w =>
    cases hstart : (w.entry (r.recordedStart entities (.activity a))).check with
    | error m => exact absurd (.unbegun hgives hjournal hstart) (hgoes m)
    | ok _ =>
      refine ⟨hstart, fun slots hslots => ?_⟩
      cases hlist : (w.entry (recordedReferences a.references)).check with
      | error m => exact absurd (.unlisted hgives hjournal hstart hslots hlist) (hgoes m)
      | ok _ => exact hlist

theorem result_of_none (service : Service σ) (r : Resolver) (callId : String) (entities : Value)
    (session : Session σ) :
    (resolve service r callId none entities session).result =
      .error (.argument "activity must not be None") := by
  rw [resolve_unchecked rfl]

theorem result_of_not_gives (service : Service σ) (a : Activity)
    (h : ¬ ∃ entries, entities.Gives entries) :
    (resolve service r callId (some (.activity a)) entities session).result =
      .error (.argument ("entities must be a mapping, got " ++ entities.typeName)) := by
  rw [resolve_unchecked (checkArguments_of_not_gives h _)]

/-- Any other call with given entities comes to its ending. -/
theorem result_eq_ending (service : Service σ) (hopen : session.isOpen = true)
    (hgives : ∃ entries, entities.Gives entries) (hgoes : ∀ m, ¬ r.StopsAtJournal callId entities (some a) m) :
    (resolve service r callId (some (.activity a)) entities session).result =
      ending service r entities session.service a := by
  cases hjournal : r.startJournal callId with
  | error m => exact absurd (.unstarted hgives hjournal) (hgoes m)
  | ok journal =>
    obtain ⟨hstart, hlist⟩ := checks_of_not_stops session hjournal hgives hgoes
    obtain ⟨entries, hgives⟩ := hgives
    obtain ⟨result, call, hcourse, hresolve⟩ := resolve_course service session
      (checkArguments_of_gives hgives (.activity a)) hjournal
    rw [hresolve]
    exact hcourse.result_eq_ending hopen hstart hlist

/-- **A call that its journal does not stop ends as its verdict says.** -/
theorem result_iff_verdict (a : Option Activity) (hopen : session.isOpen = true)
    (hgoes : ∀ m, ¬ r.StopsAtJournal callId entities a m) (x : Except Fault Unit) :
    (resolve service r callId (a.map .activity) entities session).result = x ↔
      Verdict service r entities session.service a x := by
  cases a with
  | none =>
    rw [Option.map_none, result_of_none]
    constructor
    · rintro rfl
      exact .noActivity
    · intro h
      cases h
      rfl
  | some a =>
    rw [Option.map_some]
    by_cases hgives : ∃ entries, entities.Gives entries
    · rw [result_eq_ending service hopen hgives hgoes]
      constructor
      · rintro rfl
        exact verdict_ending hgives
      · exact ending_of_verdict hgives
    · -- Without entities the call ends before its stages.
      rw [result_of_not_gives service a hgives]
      constructor
      · rintro rfl
        exact .noEntities hgives
      · intro h
        exact (h.of_not_gives hgives).symm

/-- A fault that is no mishap comes from a call that its journal did not stop. -/
theorem verdict_of_fault {fault : Fault} (hopen : session.isOpen = true) (hfault : ∀ m, fault ≠ .mishap m)
    (h : (resolve service r callId (some (.activity a)) entities session).result = .error fault) :
    Verdict service r entities session.service (some a) (.error fault) := by
  refine (result_iff_verdict (some a) hopen (fun m hstops => ?_) _).mp h
  have hresult := (hstops.ends service session).1
  rw [Option.map_some, h] at hresult
  exact hfault m (Except.error.inj hresult)

/-- Arguments are refused as such exactly if they cannot be used. -/
theorem result_eq_argument_iff (a : Option Activity) (hopen : session.isOpen = true) :
    (∃ m, (resolve service r callId (a.map .activity) entities session).result =
      .error (.argument m)) ↔
      a = none ∨ ¬ ∃ entries, entities.Gives entries := by
  cases a with
  | none =>
    exact ⟨fun _ => .inl rfl, fun _ => ⟨_, result_of_none service r callId entities session⟩⟩
  | some a =>
    constructor
    · rintro ⟨m, h⟩
      exact .inr (verdict_of_fault hopen (fun _ h => by cases h) h).not_gives_of_argument
    · rintro (h | h)
      · cases h
      · exact ⟨_, result_of_not_gives service a h⟩

/-- References that stay unresolved are told once each, in the order they were found. -/
theorem sublist_of_result_incomplete {a : Option Activity} {missing : List String}
    (hopen : session.isOpen = true)
    (h : (resolve service r callId (a.map .activity) entities session).result =
      .error (.incomplete missing)) :
    ∃ found, a = some found ∧ missing.Sublist found.references ∧ missing.Nodup := by
  cases a with
  | none =>
    rw [Option.map_none, result_of_none] at h
    cases h
  | some a =>
    have hsublist := (verdict_of_fault hopen (fun _ h => by cases h) h).sublist_of_incomplete
    exact ⟨a, rfl, hsublist, hsublist.nodup (Activity.nodup_references a)⟩

/-- A resolver that keeps no journal is stopped by none. -/
theorem not_stopsAtJournal_of_none (h : r.startJournal callId = .ok none) (a : Option Activity) (m : Mishap) :
    ¬ r.StopsAtJournal callId entities a m := by
  intro hstops
  cases hstops with
  | unstarted _ hjournal | unbegun _ hjournal | unlisted _ hjournal => cases hjournal.symm.trans h

/-- Neither is a call whose journal holds its start and its references. -/
theorem not_stopsAtJournal_of_checks {w : Journal.Writer} (h : r.startJournal callId = .ok (some w))
    (hstart : (w.entry (r.recordedStart entities (.activity a))).check = .ok ())
    (hlist : (w.entry (recordedReferences a.references)).check = .ok ()) (m : Mishap) :
    ¬ r.StopsAtJournal callId entities (some a) m := by
  intro hstops
  cases hstops with
  | unstarted _ hjournal => cases hjournal.symm.trans h
  | unbegun _ hjournal hlost =>
    cases hjournal.symm.trans h
    cases hstart.symm.trans hlost
  | unlisted _ hjournal _ _ hlost =>
    cases hjournal.symm.trans h
    cases hlist.symm.trans hlost

/-- The lobby with journals, and with a locale that none of them can hold: one of its keys is a date. -/
def dated : Resolver :=
  { lobby with options := { lobby.options with
      locale := .mapping [(.date ⟨2019, 1, 1, by decide⟩, .text "en")]
      logDir := some "logs" } }

/-- An activity without references. -/
def plain : Activity :=
  { greeted with text := some "Hello!" }

end Calls

end Resolver

end Phrasing
