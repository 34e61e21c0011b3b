import Phrasing.Proofs.Verdict

/-! # What the journal of a call tells

A call that is not stopped by its journal leaves it closed and with one entry for each thing that happened to it: it
began, it found references, phrases arrived, and it ended.  `Chronicle` says which of these a call came to, without
regard to how it is run, and `resolve_chronicle` proves that the journal tells just that.  Whatever a call ends in, a
mishap included, its last entry and no other says so; only of a call that was made to stop the end is not told.
-/

namespace Phrasing

variable {σ : Type}

namespace Journal

namespace Event

/-- The events that a call ends with: one, unless it was made to stop. -/
def endOf : Except Fault Unit → List Event
  | .ok () => [.completed]
  | .error fault => if fault.isInterruption then [] else [.failed (.ofFault fault)]

theorem endOf_interrupted {fault : Fault} (h : fault.isInterruption = true) : endOf (.error fault) = [] :=
  if_pos h

theorem endOf_failed {fault : Fault} (h : fault.isInterruption = false) :
    endOf (.error fault) = [.failed (.ofFault fault)] := by
  rw [endOf, h]
  rfl

/-- An event tells the end of a call: that it returned, or what it failed with, by class, text, status and what was
missing. -/
inductive TellsEnd : Except Fault Unit → Event → Prop where
  | returned : TellsEnd (.ok ()) .completed
  | failed (fault : Fault) :
    TellsEnd (.error fault) (.failed ⟨fault.label, fault.message, fault.status?, fault.missing?⟩)

/-- The end of a call that was not made to stop is told. -/
theorem exists_endOf {result : Except Fault Unit}
    (h : ∀ fault, result = .error fault → fault.isInterruption = false) :
    ∃ last, endOf result = [last] ∧ TellsEnd result last := by
  cases result with
  | ok done => exact ⟨_, rfl, .returned⟩
  | error fault => exact ⟨_, endOf_failed (h fault rfl), .failed fault⟩

/-- The events that end a call. -/
def isEnd : Event → Bool
  | .completed | .failed _ => true
  | .started _ _ | .extracted _ _ | .fetched _ _ => false

end Event

namespace Writer

/-- An open journal that tells some events. -/
def telling (callId : String) (scenario : Value) (told : List Event) : Writer :=
  ⟨callId, scenario, told.map (⟨callId, scenario, ·⟩), true⟩

variable {callId : String} {scenario : Value} {told : List Event}

theorem append_telling (event : Event) :
    (telling callId scenario told).append event = telling callId scenario (told ++ [event]) := by
  rw [append, telling, telling, List.map_append]
  rfl

/-- A journal starts without an event. -/
theorem startIn_eq_ok {directory : String} {w : Writer}
    (h : startIn directory callId scenario = .ok w) : w = telling callId scenario [] := by
  obtain ⟨_, _, h⟩ := bind_eq_ok.mp h
  obtain ⟨_, _, h⟩ := bind_eq_ok.mp h
  split at h
  · cases h
  · cases h
    rfl

/-- Where a journal can be started. -/
theorem startIn_of_checkNames {directory : String} (hdirectory : FileTree.checkNames directory = .ok ())
    (hpath : FileTree.checkNames (Text.entryPath (Text.usualPath directory)
      ("00000000_000000" ++ "_" ++ callId ++ ".jsonl")) = .ok ())
    (hslash : callId.toList.contains '/' = false) :
    startIn directory callId scenario = .ok (telling callId scenario []) := by
  refine bind_eq_ok.mpr ⟨(), hdirectory, bind_eq_ok.mpr ⟨(), hpath, ?_⟩⟩
  rw [hslash]
  rfl

end Writer

end Journal

/-- A value gives one list of entities. -/
theorem Value.Gives.unique {v : Value} {entries entries' : List (Scalar × Value)}
    (h : v.Gives entries) (h' : v.Gives entries') : entries = entries' := by
  cases h <;> cases h' <;> rfl

namespace Resolver

open Journal

/-! ## Phrases that arrive -/

section Deliveries

variable {service : Service σ} {r : Resolver} {entities : Value} {session : Session σ}
  {a : Activity} {slots : List Slot} {token : String}

/-- The client is open, the entities have wire forms, there are references, and the request for the
token and all fetches succeed, with these responses. -/
structure Delivered (service : Service σ) (r : Resolver) (entities : Value) (session : Session σ)
    (a : Activity) (responses : List GenerationResponse) : Prop where
  isOpen : session.isOpen = true
  arrived : ∃ slots request token,
    Fetching service r entities session.service a slots request token ∧
      fetchesOf service r a slots request token session.service = responses.map .ok

/-- Each reference has its response. -/
theorem Delivered.length_eq {responses : List GenerationResponse}
    (h : Delivered service r entities session a responses) :
    a.references.length = responses.length := by
  obtain ⟨slots, request, token, _, hfetches⟩ := h.arrived
  rw [← length_fetchesOf service r a slots request token session.service, hfetches, List.length_map]

/-- A token and a joint fetch deliver. -/
theorem Delivered.of_fetchAll {pairs : List (String × GenerationResponse)} {s t : Session σ}
    (hgives : ∃ entries, entities.Gives entries) (hslots : Slot.ofEntities entities = .ok slots)
    (hne : a.references ≠ [])
    (htoken : Client.issueToken service r.endpoint.location r.endpoint.key session = (.ok token, s))
    (hfetch : Client.fetchAll service r.endpoint.location token
      (r.requests (.activity a) slots a.references) s = (.ok pairs, t)) :
    ∃ responses, Delivered service r entities session a responses ∧
      pairs = a.references.zip responses := by
  obtain ⟨entries, hgives⟩ := hgives
  obtain ⟨request, hrequest, hopen, hissued, hsends⟩ := Client.made_of_issueToken htoken
  have hresults : (Client.fetchAll service r.endpoint.location token
      (r.requests (.activity a) slots a.references) s).1 =
        (Join.results (fetchesOf service r a slots request token session.service)).map
          (a.references.zip ·) := results_fetchesOf hopen hsends
  rw [hfetch] at hresults
  cases hjoin : Join.results (fetchesOf service r a slots request token session.service) with
  | error fault =>
    rw [hjoin] at hresults
    cases hresults
  | ok responses =>
    rw [hjoin] at hresults
    refine ⟨responses, ⟨hopen, slots, request, token, ?_, Join.results_eq_ok_iff.mp hjoin⟩,
      Except.ok.inj hresults⟩
    exact ⟨⟨entries, hgives, (Slot.ofEntities_eq hgives).symm.trans hslots⟩, hne, hrequest, hissued⟩

/-- **What is delivered is what a call gets**: its token and its joint fetch succeed. -/
theorem Delivered.fetchAll_eq {responses : List GenerationResponse}
    (h : Delivered service r entities session a responses) :
    ∃ slots token s t, Slot.ofEntities entities = .ok slots ∧ a.references ≠ [] ∧
      Client.issueToken service r.endpoint.location r.endpoint.key session = (.ok token, s) ∧
      Client.fetchAll service r.endpoint.location token
        (r.requests (.activity a) slots a.references) s = (.ok (a.references.zip responses), t) := by
  obtain ⟨slots, request, token, hfetching, hfetches⟩ := h.arrived
  obtain ⟨entries, hgives, hslots⟩ := hfetching.encoded
  obtain ⟨hresult, hsends⟩ := Client.issueToken_open service hfetching.asked h.isOpen
  rw [hfetching.issued] at hresult
  have hjoined := @results_fetchesOf σ service r session a slots request token _ h.isOpen hsends
  rw [Join.results_eq_ok_iff.mpr hfetches] at hjoined
  exact ⟨slots, token, _, _, (Slot.ofEntities_eq hgives).trans hslots, hfetching.referring,
    Prod.ext hresult rfl, Prod.ext hjoined rfl⟩

/-- There is nothing delivered if there is no token. -/
theorem not_delivered_of_noToken {fault : Fault} {s : Session σ}
    (htoken : Client.issueToken service r.endpoint.location r.endpoint.key session =
      (.error fault, s)) :
    ¬ ∃ responses, Delivered service r entities session a responses := by
  rintro ⟨responses, h⟩
  obtain ⟨slots, token, _, _, _, _, hissued, _⟩ := h.fetchAll_eq
  cases htoken.symm.trans hissued

/-- There is nothing delivered if the joint fetch fails. -/
theorem not_delivered_of_noResponses {fault : Fault} {s t : Session σ}
    (hslots : Slot.ofEntities entities = .ok slots)
    (htoken : Client.issueToken service r.endpoint.location r.endpoint.key session = (.ok token, s))
    (hfetch : Client.fetchAll service r.endpoint.location token
      (r.requests (.activity a) slots a.references) s = (.error fault, t)) :
    ¬ ∃ responses, Delivered service r entities session a responses := by
  rintro ⟨responses, h⟩
  obtain ⟨slots', token', _, _, hslots', _, hissued, hfetched⟩ := h.fetchAll_eq
  cases hslots.symm.trans hslots'
  cases htoken.symm.trans hissued
  cases hfetch.symm.trans hfetched

end Deliveries

/-! ## Chronicles -/

/-- The phrases of responses under the references that they were fetched for; a response without a
template or a text has none. -/
def phrases (a : Activity) (responses : List GenerationResponse) : Reference.Table :=
  (a.references.zip responses).filterMap entered?

theorem tableOf_zip_eq {a : Activity} {responses : List GenerationResponse}
    (hlength : a.references.length = responses.length) :
    (tableOf (a.references.zip responses)).1 = phrases a responses := by
  have hfst : (a.references.zip responses).map Prod.fst = a.references :=
    List.map_fst_zip (Nat.le_of_eq hlength)
  refine tableOf_eq ?_
  rw [hfst]
  exact Activity.nodup_references a

section Chronicles

variable (service : Service σ) (r : Resolver) (entities : Value) (session : Session σ)
  (a : Activity)

/-- **The chronicles of a call**: for each result, the events before its end. -/
inductive Chronicle : Except Fault Unit → List Event → Prop where
  /-- An entity has no wire form. -/
  | unencodable {entries : List (Scalar × Value)} {fault : Fault} (hgives : entities.Gives entries)
    (hform : ∃ e ∈ entries, ¬ WireValue.HasForm e.2) (hends : fault.isInterruption = false) :
    Chronicle (.error fault) [r.recordedStart entities (.activity a)]
  /-- The activity has no references. -/
  | nothing {entries : List (Scalar × Value)} (hgives : entities.Gives entries)
    (hform : ∀ e ∈ entries, WireValue.HasForm e.2) (hnone : a.references = []) :
    Chronicle (.ok ()) [r.recordedStart entities (.activity a), recordedReferences a.references]
  /-- There is no token, or a fetch failed. -/
  | undelivered {entries : List (Scalar × Value)} {fault : Fault} (hgives : entities.Gives entries)
    (hform : ∀ e ∈ entries, WireValue.HasForm e.2) (hsome : a.references ≠ [])
    (hno : ¬ ∃ responses, Delivered service r entities session a responses) :
    Chronicle (.error fault) [r.recordedStart entities (.activity a), recordedReferences a.references]
  /-- A reference got no phrase. -/
  | incomplete {responses : List GenerationResponse}
    (h : Delivered service r entities session a responses)
    (hmissing : unresolved a.references responses ≠ []) :
    Chronicle (.error (.incomplete (unresolved a.references responses)))
      [r.recordedStart entities (.activity a), recordedReferences a.references,
        recordedTable (phrases a responses)]
  /-- Every reference got a phrase. -/
  | complete {responses : List GenerationResponse}
    (h : Delivered service r entities session a responses)
    (hmissing : unresolved a.references responses = []) :
    Chronicle (.ok ()) [r.recordedStart entities (.activity a), recordedReferences a.references,
      recordedTable (phrases a responses)]

end Chronicles

section Calls

variable {service : Service σ} {r : Resolver} {entities : Value} {session : Session σ}
  {a : Activity} {callId : String} {scenario : Value}

/-- What is done about a failure adds the event of the end to the journal, if that can hold it. -/
theorem closing_telling {call : Call σ} {fault : Fault} {told : List Event}
    (hjournal : call.journal = some (Writer.telling callId scenario told))
    (hend : call.check (.failed (.ofFault fault)) = .ok ()) :
    (closing callId (.error fault) call).2.journal =
      some (Writer.telling callId scenario (told ++ Event.endOf (.error fault))) := by
  cases hstop : fault.isInterruption with
  | true => rw [closing_of_interruption hstop, hjournal, Event.endOf_interrupted hstop, List.append_nil]
  | false =>
    rw [closing_of_check hstop hend, Event.endOf_failed hstop]
    show call.journal.map (·.append (.failed (.ofFault fault))) = _
    rw [hjournal, Option.map_some, Writer.append_telling]

/-- A journal that holds the start of a call holds its end. -/
theorem Course.check_endOf {c call : Call σ} {result : Except Fault Unit}
    (h : r.Course service entities c result call)
    (hstart : c.check (r.recordedStart entities c.subject) = .ok ()) :
    ∀ event ∈ Event.endOf result, c.check event = .ok () := by
  intro event hmem
  cases result with
  | ok done =>
    cases List.mem_singleton.mp hmem
    exact Call.check_completed hstart
  | error fault =>
    rw [Event.endOf] at hmem
    split at hmem
    · cases hmem
    · cases List.mem_singleton.mp hmem
      exact Call.check_failed hstart h.statusTold

/-- What answers a call is delivered, and the journal holds what is recorded of it. -/
theorem Answers.delivered {slots : List Slot} {names : List String} {token : String}
    {pairs : List (String × GenerationResponse)} {s t : Session σ} {journal : Option Writer}
    (h : r.Answers service entities ⟨session, .activity a, journal⟩ slots names token s pairs t)
    (hgives : ∃ entries, entities.Gives entries) :
    ∃ responses, Delivered service r entities session a responses ∧
      missingFrom (tableOf pairs).1 names = unresolved a.references responses ∧
      (tableOf pairs).1 = phrases a responses ∧
      (Call.mk session (.activity a) journal).check (recordedTable (phrases a responses)) = .ok () := by
  have hheld := check_recordedTable h.lists h.length_le
  obtain rfl := Except.ok.inj h.finds
  obtain ⟨responses, hdelivered, rfl⟩ := Delivered.of_fetchAll hgives h.encodes h.referring h.issues h.responds
  have htable := tableOf_zip_eq hdelivered.length_eq
  rw [htable] at hheld
  exact ⟨responses, hdelivered, missingFrom_eq_unresolved (Activity.nodup_references a) hdelivered.length_eq,
    htable, hheld⟩

/-- Where a call fails, the event of the end comes after what was told, if the journal holds its start. -/
theorem Course.closing_failed {c call : Call σ} {fault : Fault} {told : List Event}
    (h : r.Course service entities c (.error fault) call)
    (hstart : c.check (r.recordedStart entities c.subject) = .ok ())
    (hjournal : call.journal = some (Writer.telling callId scenario told)) :
    (closing callId (.error fault) call).2.journal =
      some (Writer.telling callId scenario (told ++ Event.endOf (.error fault))) := by
  refine closing_telling hjournal (h.check_failed.resolve_right ?_)
  rintro ⟨m, _, _, hlost⟩
  cases hstart.symm.trans hlost

/-- **The course of a call leaves its chronicle in the journal**, if that holds what is recorded before the token;
and the journal holds the rest. -/
theorem Course.chronicle {result : Except Fault Unit} {call : Call σ}
    (hgives : ∃ entries, entities.Gives entries)
    (hstart : Entry.check ⟨callId, scenario, r.recordedStart entities (.activity a)⟩ = .ok ())
    (hlist : ∀ slots, Slot.ofEntities entities = .ok slots →
      Entry.check ⟨callId, scenario, recordedReferences a.references⟩ = .ok ())
    (h : r.Course service entities
      ⟨session, .activity a, some (Writer.telling callId scenario [])⟩ result call) :
    ∃ told, Chronicle service r entities session a result told ∧
      (closing callId result call).2.journal =
        some (Writer.telling callId scenario (told ++ Event.endOf result)) ∧
      ∀ event ∈ told, Entry.check ⟨callId, scenario, event⟩ = .ok () := by
  obtain ⟨entries, hentries⟩ := hgives
  have hslotsOf := Slot.ofEntities_eq hentries
  have hencoded {slots : List Slot} (hslots : Slot.ofEntities entities = .ok slots) :
      ∀ e ∈ entries, WireValue.HasForm e.2 :=
    Slot.exists_ofEntries_iff.mp ⟨_, hslotsOf.symm.trans hslots⟩
  have hlisted {slots : List Slot} (hslots : Slot.ofEntities entities = .ok slots) :
      ∀ event ∈ [r.recordedStart entities (.activity a), recordedReferences a.references],
        Entry.check ⟨callId, scenario, event⟩ = .ok () := by
    simpa using ⟨hstart, hlist slots hslots⟩
  have htold {slots : List Slot} (hslots : Slot.ofEntities entities = .ok slots) {event : Event}
      (hevent : Entry.check ⟨callId, scenario, event⟩ = .ok ()) :
      ∀ event' ∈ [r.recordedStart entities (.activity a), recordedReferences a.references, event],
        Entry.check ⟨callId, scenario, event'⟩ = .ok () := by
    simpa using ⟨hstart, hlist slots hslots, hevent⟩
  have hcourse := h
  cases h with
  | unbegun h => cases hstart.symm.trans h
  | unencodable _ hslots =>
    obtain ⟨before, name, v, after, rfl, _, hv, rfl⟩ :=
      Slot.ofEntries_eq_error_iff.mp (hslotsOf.symm.trans hslots)
    exact ⟨_, .unencodable hentries ⟨(name, v), List.mem_append_right _ List.mem_cons_self, hv⟩ rfl,
      hcourse.closing_failed hstart rfl, by simpa using hstart⟩
  | unsearchable _ _ hnames =>
    -- An activity can always be searched.
    cases hnames
  | unlisted h hlost =>
    obtain rfl := Except.ok.inj h.finds
    cases (hlist _ h.encodes).symm.trans hlost
  | nothing h =>
    have hnone : a.references = [] := Except.ok.inj h.finds
    refine ⟨_, .nothing hentries (hencoded h.encodes) hnone, ?_, hlisted h.encodes⟩
    rw [hnone]
    rfl
  | noToken h hne htoken =>
    obtain rfl := Except.ok.inj h.finds
    exact ⟨_, .undelivered hentries (hencoded h.encodes) hne (not_delivered_of_noToken htoken),
      hcourse.closing_failed hstart rfl, hlisted h.encodes⟩
  | noResponses h hfetch =>
    obtain rfl := Except.ok.inj h.finds
    exact ⟨_, .undelivered hentries (hencoded h.encodes) h.referring
      (not_delivered_of_noResponses h.encodes h.issues hfetch), hcourse.closing_failed hstart rfl,
      hlisted h.encodes⟩
  | @incomplete _ names token pairs _ _ h hmissing =>
    obtain ⟨responses, hdelivered, hsame, htable, hheld⟩ := h.delivered ⟨entries, hentries⟩
    obtain rfl := Except.ok.inj h.finds
    have hleft := @Course.closing_failed σ service r entities callId scenario _ _ _
      [r.recordedStart entities (.activity a), recordedReferences a.references, recordedTable (tableOf pairs).1]
      hcourse hstart rfl
    rw [hsame, htable] at hleft
    rw [hsame] at hmissing ⊢
    exact ⟨_, .incomplete hdelivered hmissing, hleft, htold h.encodes hheld⟩
  | stopped _ _ hfill => cases hfill
  | filled h hmissing =>
    obtain ⟨responses, hdelivered, hsame, htable, hheld⟩ := h.delivered ⟨entries, hentries⟩
    obtain rfl := Except.ok.inj h.finds
    rw [hsame] at hmissing
    refine ⟨_, .complete hdelivered hmissing, ?_, htold h.encodes hheld⟩
    rw [← htable]
    rfl

/-- A journal in the directory of a resolver starts without an event. -/
theorem startJournal_eq_some {w : Writer} (h : r.startJournal callId = .ok (some w)) :
    w = Writer.telling callId r.endpoint.app [] := by
  unfold startJournal at h
  cases hdirectory : r.options.logDir with
  | none =>
    rw [hdirectory] at h
    cases h
  | some directory =>
    rw [hdirectory] at h
    obtain ⟨w', hw', h⟩ := bind_eq_ok.mp h
    cases h
    exact Writer.startIn_eq_ok hw'

/-- A call on an activity with usable arguments leaves its chronicle, if it starts a journal that does not stop it,
and every entry of the journal can be written. -/
theorem exists_chronicle (service : Service σ) (session : Session σ) (a : Activity)
    (hgives : ∃ entries, entities.Gives entries) {w : Writer}
    (hjournal : r.startJournal callId = .ok (some w))
    (hgoes : ∀ m, ¬ r.StopsAtJournal callId entities (some a) m) :
    ∃ told, Chronicle service r entities session a
        (resolve service r callId (some (.activity a)) entities session).result told ∧
      (resolve service r callId (some (.activity a)) entities session).journal =
        some (Writer.telling callId r.endpoint.app (told ++ Event.endOf
          (resolve service r callId (some (.activity a)) entities session).result)).close ∧
      ∀ event ∈ told ++ Event.endOf (resolve service r callId (some (.activity a)) entities session).result,
        Entry.check ⟨callId, r.endpoint.app, event⟩ = .ok () := by
  obtain rfl := startJournal_eq_some hjournal
  obtain ⟨hstart, hlist⟩ := checks_of_not_stops session hjournal hgives hgoes
  obtain ⟨entries, hentries⟩ := hgives
  obtain ⟨result, call, hcourse, hresolve⟩ := resolve_course service session
    (checkArguments_of_gives hentries (.activity a)) hjournal
  obtain ⟨told, hchronicle, hleft, hheld⟩ := @Course.chronicle σ service r entities session a callId
    r.endpoint.app result call ⟨entries, hentries⟩ hstart hlist hcourse
  rw [hresolve]
  refine ⟨told, hchronicle, ?_, fun event hmem => ?_⟩
  · show (closing callId result call).2.journal.map (·.close) = _
    rw [hleft]
    rfl
  · rcases List.mem_append.mp hmem with htold | hend
    · exact hheld event htold
    · exact hcourse.check_endOf hstart event hend

/-- A call on an activity whose journal cannot hold its start leaves nothing but its end. -/
theorem journal_of_unbegun (service : Service σ) (session : Session σ) (a : Activity)
    (hgives : ∃ entries, entities.Gives entries) {w : Writer} {m : Mishap}
    (hjournal : r.startJournal callId = .ok (some w))
    (hstart : Entry.check ⟨callId, r.endpoint.app, r.recordedStart entities (.activity a)⟩ = .error m)
    (hend : Entry.check ⟨callId, r.endpoint.app, .failed (.ofFault (.mishap m))⟩ = .ok ()) :
    (resolve service r callId (some (.activity a)) entities session).journal =
      some (Writer.telling callId r.endpoint.app (Event.endOf (.error (.mishap m)))).close := by
  obtain rfl := startJournal_eq_some hjournal
  obtain ⟨entries, hgives⟩ := hgives
  obtain ⟨result, call, hcourse, hresolve⟩ := resolve_course service session
    (checkArguments_of_gives hgives (.activity a)) hjournal
  obtain ⟨rfl, rfl⟩ := hcourse.of_unbegun hstart
  have hleft := @closing_telling σ callId r.endpoint.app
    ⟨session, .activity a, some (.telling callId r.endpoint.app [])⟩ (.mishap m) [] rfl hend
  rw [hresolve]
  exact congrArg (Option.map Writer.close) hleft

end Calls

/-! ## What a journal tells -/

section Tales

variable (service : Service σ) (r : Resolver) (entities : Value) (session : Session σ)
  (a : Activity)

/-- The sequences of names that the events of a call can have. -/
def storylines : List (List String) :=
  [["resolve.started", "resolve.failed"],
    ["resolve.started", "references.extracted", "resolve.completed"],
    ["resolve.started", "references.extracted", "resolve.failed"],
    ["resolve.started", "references.extracted", "fetch.completed", "resolve.completed"],
    ["resolve.started", "references.extracted", "fetch.completed", "resolve.failed"]]

/-- Events tell a call with given entities that was not made to stop and ended in a result. -/
structure Tells (entries : List (Scalar × Value)) (result : Except Fault Unit)
    (told : List Event) : Prop where
  /-- The events come in one of five sequences. -/
  storyline : told.map Event.name ∈ storylines
  /-- The last event and no other tells the end. -/
  ends : ∃ before last, told = before ++ [last] ∧ Event.TellsEnd result last ∧
    ∀ event ∈ before, event.isEnd = false
  /-- A call fails without a word about references exactly if an entity has no wire form. -/
  unencodable_iff : told.map Event.name = ["resolve.started", "resolve.failed"] ↔
    ∃ e ∈ entries, ¬ WireValue.HasForm e.2
  /-- A call completes right after the references exactly if none were found. -/
  nothing_iff : told.map Event.name =
      ["resolve.started", "references.extracted", "resolve.completed"] ↔
    (∀ e ∈ entries, WireValue.HasForm e.2) ∧ a.references = []
  /-- The references told are those of the activity. -/
  references : ∀ names count, .extracted names count ∈ told →
    names = .texts a.references ∧ count = a.references.length
  /-- Phrases are told of exactly if they were delivered. -/
  fetched_iff : (∃ event ∈ told, event.name = "fetch.completed") ↔
    ∃ responses, Delivered service r entities session a responses
  /-- The phrases told are the texts of the responses that report a template, by reference. -/
  resolutions : ∀ resolutions count, .fetched resolutions count ∈ told →
    ∃ responses, Delivered service r entities session a responses ∧
      resolutions = .object ((phrases a responses).map fun (name, phrase) => (name, .text phrase)) ∧
      count = (phrases a responses).length

variable {service r entities session a}

/-- Nothing is delivered unless all entities have wire forms and there are references. -/
theorem Delivered.encoded {responses : List GenerationResponse} {entries : List (Scalar × Value)}
    (h : Delivered service r entities session a responses) (hgives : entities.Gives entries) :
    (∀ e ∈ entries, WireValue.HasForm e.2) ∧ a.references ≠ [] := by
  obtain ⟨slots, _, _, _, hslots, hne, _⟩ := h.fetchAll_eq
  rw [Slot.ofEntities_eq hgives] at hslots
  exact ⟨Slot.exists_ofEntries_iff.mp ⟨slots, hslots⟩, hne⟩

section Chronicles

variable {entries : List (Scalar × Value)} {result : Except Fault Unit} {told : List Event} {last : Event}
  (h : Chronicle service r entities session a result told)

include h

theorem Chronicle.not_isEnd : ∀ event ∈ told, event.isEnd = false := by
  cases h <;> simp [recordedStart, recordedReferences, recordedTable, Event.isEnd]

theorem Chronicle.references {names : Value} {count : Nat} (hmem : .extracted names count ∈ told) :
    names = .texts a.references ∧ count = a.references.length := by
  cases h with
  | unencodable => simp [recordedStart] at hmem
  | nothing => simpa [recordedStart, recordedReferences] using hmem
  | undelivered => simpa [recordedStart, recordedReferences] using hmem
  | incomplete => simpa [recordedStart, recordedReferences, recordedTable] using hmem
  | complete => simpa [recordedStart, recordedReferences, recordedTable] using hmem

theorem Chronicle.fetched_iff :
    (∃ event ∈ told, event.name = "fetch.completed") ↔
      ∃ responses, Delivered service r entities session a responses := by
  cases h with
  | unencodable hgives hform =>
    obtain ⟨e, he, hform⟩ := hform
    refine iff_of_false (by simp [recordedStart, Event.name]) ?_
    exact fun ⟨_, h⟩ => hform ((h.encoded hgives).1 e he)
  | nothing hgives _ hnone =>
    refine iff_of_false (by simp [recordedStart, recordedReferences, Event.name]) ?_
    exact fun ⟨_, h⟩ => (h.encoded hgives).2 hnone
  | undelivered _ _ _ hno =>
    exact iff_of_false (by simp [recordedStart, recordedReferences, Event.name]) hno
  | incomplete h _ => exact iff_of_true ⟨_, .tail _ (.tail _ (.head _)), rfl⟩ ⟨_, h⟩
  | complete h _ => exact iff_of_true ⟨_, .tail _ (.tail _ (.head _)), rfl⟩ ⟨_, h⟩

theorem Chronicle.resolutions {resolutions : Value} {count : Nat}
    (hmem : .fetched resolutions count ∈ told) :
    ∃ responses, Delivered service r entities session a responses ∧
      resolutions = .object ((phrases a responses).map fun (name, phrase) => (name, .text phrase)) ∧
      count = (phrases a responses).length := by
  cases h with
  | unencodable => simp [recordedStart] at hmem
  | nothing => simp [recordedStart, recordedReferences] at hmem
  | undelivered => simp [recordedStart, recordedReferences] at hmem
  | incomplete h _ =>
    exact ⟨_, h, by simpa [recordedStart, recordedReferences, recordedTable] using hmem⟩
  | complete h _ =>
    exact ⟨_, h, by simpa [recordedStart, recordedReferences, recordedTable] using hmem⟩

/-- A call can only be made to stop on the way to its token or its phrases. -/
theorem Chronicle.stopped (hstop : ∃ fault, result = .error fault ∧ fault.isInterruption = true) :
    told.map Event.name = ["resolve.started", "references.extracted"] := by
  obtain ⟨fault, rfl, hstop⟩ := hstop
  cases h with
  | unencodable _ _ hends => cases hends.symm.trans hstop
  | undelivered => rfl
  | incomplete => cases hstop

variable (hlast : Event.TellsEnd result last)

include hlast

theorem Chronicle.storyline : (told ++ [last]).map Event.name ∈ storylines := by
  cases hlast <;> cases h <;> simp [storylines, recordedStart, recordedReferences, recordedTable, Event.name]

theorem Chronicle.unencodable_iff (hgives : entities.Gives entries) :
    (told ++ [last]).map Event.name = ["resolve.started", "resolve.failed"] ↔
      ∃ e ∈ entries, ¬ WireValue.HasForm e.2 := by
  have hsome (hall : ∀ e ∈ entries, WireValue.HasForm e.2) : ¬ ∃ e ∈ entries, ¬ WireValue.HasForm e.2 :=
    fun ⟨e, he, hform⟩ => hform (hall e he)
  cases h with
  | unencodable hgives' hform =>
    cases hgives.unique hgives'
    cases hlast
    exact iff_of_true rfl hform
  | nothing hgives' hform | undelivered hgives' hform =>
    cases hgives.unique hgives'
    exact iff_of_false (by simp) (hsome hform)
  | incomplete h | complete h => exact iff_of_false (by simp) (hsome (h.encoded hgives).1)

theorem Chronicle.nothing_iff (hgives : entities.Gives entries) :
    (told ++ [last]).map Event.name =
        ["resolve.started", "references.extracted", "resolve.completed"] ↔
      (∀ e ∈ entries, WireValue.HasForm e.2) ∧ a.references = [] := by
  cases h with
  | unencodable hgives' hform =>
    cases hgives.unique hgives'
    obtain ⟨e, he, hform⟩ := hform
    exact iff_of_false (by simp) fun h => hform (h.1 e he)
  | nothing hgives' hform hnone =>
    cases hgives.unique hgives'
    cases hlast
    exact iff_of_true rfl ⟨hform, hnone⟩
  | undelivered _ _ hsome _ =>
    cases hlast
    exact iff_of_false (by simp [Event.name]) fun h => hsome h.2
  | incomplete h | complete h => exact iff_of_false (by simp) fun h' => (h.encoded hgives).2 h'.2

/-- **A chronicle and its end tell the call.** -/
theorem Chronicle.tells (hgives : entities.Gives entries) :
    Tells service r entities session a entries result (told ++ [last]) where
  storyline := h.storyline hlast
  ends := ⟨told, last, rfl, hlast, h.not_isEnd⟩
  unencodable_iff := h.unencodable_iff hlast hgives
  nothing_iff := h.nothing_iff hlast hgives
  references := by
    intro names count hmem
    refine h.references ((List.mem_append.mp hmem).resolve_right ?_)
    cases hlast <;> simp
  fetched_iff := by
    rw [← h.fetched_iff]
    constructor
    · rintro ⟨event, hmem, hname⟩
      refine ⟨event, (List.mem_append.mp hmem).resolve_right ?_, hname⟩
      rintro hend
      cases List.mem_singleton.mp hend
      cases hlast <;> simp [Event.name] at hname
    · exact fun ⟨event, hmem, hname⟩ => ⟨event, List.mem_append_left _ hmem, hname⟩
  resolutions := by
    intro resolutions count hmem
    refine h.resolutions ((List.mem_append.mp hmem).resolve_right ?_)
    cases hlast <;> simp

end Chronicles

/-- The resolver of the lobby, with a journal. -/
def attentive : Resolver :=
  { lobby with options := { lobby.options with logDir := some "logs" } }

theorem startJournal_attentive : attentive.startJournal "call" = .ok (some (.telling "call" (.text "app") [])) := by
  have hstart : Writer.startIn "logs" "call" (.text "app") = .ok (.telling "call" (.text "app") []) :=
    Writer.startIn_of_checkNames (by decide +kernel) (by decide +kernel) (by decide)
  exact bind_eq_ok.mpr ⟨_, hstart, rfl⟩

theorem not_stopsAtJournal_attentive (m : Mishap) :
    ¬ attentive.StopsAtJournal "call" .null (some greeted) m :=
  not_stopsAtJournal_of_checks startJournal_attentive (by decide +kernel) (by decide +kernel) m

theorem startJournal_dated : dated.startJournal "call" = .ok (some (.telling "call" (.text "app") [])) := by
  have hstart : Writer.startIn "logs" "call" (.text "app") = .ok (.telling "call" (.text "app") []) :=
    Writer.startIn_of_checkNames (by decide +kernel) (by decide +kernel) (by decide)
  exact bind_eq_ok.mpr ⟨_, hstart, rfl⟩

/-- A service on which everyone who asks for a token is told to stop. -/
def silenced : Service Unit where
  answer _ _ := (⟨.failure ⟨.interruption "CancelledError", ""⟩, 0⟩, ())

end Tales

end Resolver

end Phrasing
