import Phrasing.Proofs.SideBySide

/-! # A locale that is not given

The locale in the options of a resolver can be empty, or null, and neither is sent: where no locale is given,
requests are the same whatever stands in the place of one (`payload_congr`).  Two resolvers that differ in this alone,
`Twins`, go side by side stage by stage (`sideBySide_stages`), so whole calls of the two differ in nothing but the
journals (`Twins.resolve`): there the locale is recorded as it stands in the options.
-/

namespace Phrasing

variable {σ α : Type}

/-! ## Values given alike -/

namespace Value

/-- Two values are the same, or neither of them gives anything. -/
def GivenAlike (v w : Value) : Prop :=
  v = w ∨ v.isVacant = true ∧ w.isVacant = true

namespace GivenAlike

variable {v w : Value}

theorem refl (v : Value) : v.GivenAlike v :=
  .inl rfl

/-- What stands in the place of a vacant value stands in the place of the other one. -/
theorem orElse_eq (h : v.GivenAlike w) (other : Value) : v.orElse other = w.orElse other := by
  rcases h with rfl | ⟨hv, hw⟩
  · rfl
  · rw [orElse, orElse, if_pos hv, if_pos hw]

/-- In the place of a vacant value they give alike, too. -/
theorem inPlaceOf (h : v.GivenAlike w) (first : Value) : (first.orElse v).GivenAlike (first.orElse w) := by
  unfold orElse
  split
  · exact h
  · exact refl first

end GivenAlike

/-- Null in the place of a vacant value gives as little. -/
theorem orElse_null_givenAlike (v : Value) : (v.orElse .null).GivenAlike v := by
  unfold orElse
  split
  · rename_i hvacant
    exact .inr ⟨rfl, hvacant⟩
  · exact .refl v

end Value

/-! ## Requests that are sent alike -/

namespace GenerationRequest

/-- What becomes of a request: it is sent as an object, and its answer counts for a template. -/
def sent (g : GenerationRequest) : String × Value :=
  (g.template, g.payload)

/-- A locale that is not given is not sent. -/
theorem payload_congr (scenario : Value) (template : String) (slots : List Slot) {locale locale' : Value}
    (h : locale.GivenAlike locale') :
    payload ⟨scenario, template, locale, slots⟩ = payload ⟨scenario, template, locale', slots⟩ := by
  rcases h with rfl | ⟨hvacant, hvacant'⟩
  · rfl
  · unfold payload fields
    simp only [hvacant, hvacant', if_true]

theorem sent_forReferences (scenario : Value) {locale locale' : Value} (h : locale.GivenAlike locale')
    (slots : List Slot) (names : List String) :
    (forReferences scenario locale slots names).map sent =
      (forReferences scenario locale' slots names).map sent := by
  unfold forReferences
  rw [List.map_map, List.map_map]
  exact List.map_congr_left fun name _ => Prod.ext rfl (payload_congr scenario name slots h)

end GenerationRequest

namespace Client

variable (service : Service σ) (l : Location) (token : String)

/-- A request is sent for what it is as an object. -/
theorem launchFetch_congr {g g' : GenerationRequest} (h : g.sent = g'.sent) (s : Session σ) :
    launchFetch service l token g s = launchFetch service l token g' s := by
  unfold launchFetch
  rw [show g.payload = g'.payload from congrArg Prod.snd h]

theorem launchAll_congr {gs gs' : List GenerationRequest}
    (h : gs.map GenerationRequest.sent = gs'.map GenerationRequest.sent) (s : Session σ) :
    launchAll service l token gs s = launchAll service l token gs' s := by
  induction gs generalizing gs' s with
  | nil => rw [List.map_eq_nil_iff.mp h.symm]
  | cons g gs ih =>
    obtain ⟨g', rest, rfl, hg, hrest⟩ := List.map_eq_cons_iff.mp h.symm
    simp only [launchAll, launchFetch_congr service l token hg.symm, ih hrest.symm]

/-- So are all requests of a joint fetch, and their answers are told apart by the templates. -/
theorem fetchAll_congr {gs gs' : List GenerationRequest}
    (h : gs.map GenerationRequest.sent = gs'.map GenerationRequest.sent) :
    fetchAll service l token gs = fetchAll service l token gs' := by
  have htemplates : gs.map (·.template) = gs'.map (·.template) := by
    have hfirst := congrArg (List.map Prod.fst) h
    rwa [List.map_map, List.map_map] at hfirst
  have hlength : gs.length = gs'.length := by
    rw [← List.length_map (·.template), htemplates, List.length_map]
  funext s
  unfold fetchAll outcome
  simp only [launchAll_congr service l token h, htemplates, hlength]

end Client

/-! ## Calls that differ in their journals -/

/-- Two calls under way differ at most in what their journals hold already. -/
structure Call.SameButJournal (c d : Call σ) : Prop where
  session : c.session = d.session
  subject : c.subject = d.subject
  check : ∀ event, c.check event = d.check event

/-- A call reads nothing off its journal, so whatever the two record they stay the same otherwise. -/
theorem Call.SameButJournal.recorded {c d : Call σ} (h : c.SameButJournal d) (event event' : Journal.Event) :
    (c.recorded event).SameButJournal (d.recorded event') :=
  ⟨h.session, h.subject, fun other => by rw [check_recorded, check_recorded, h.check]⟩

theorem Call.SameButJournal.note {c d : Call σ} (h : c.SameButJournal d) (notices : List Notice) :
    (c.note notices).SameButJournal (d.note notices) :=
  ⟨by rw [Call.note, Call.note, h.session], h.subject, h.check⟩

theorem Call.SameButJournal.bond : Call.Bond Eq (Call.SameButJournal (σ := σ)) where
  refl _ := rfl
  stops := by rintro _ _ rfl; rfl
  subject h := h.subject
  check h := h.check
  checkEnd := by rintro _ _ _ _ h rfl; exact h.check _
  recorded h event := h.recorded event event
  recordedEnd h _ := h.recorded _ _
  note h notices := h.note notices
  noteEnd := by rintro _ _ _ _ h rfl _; exact h.note _
  fill h s := ⟨h.session, rfl, h.check⟩

theorem Stage.sideBySide_inSession (run : Run σ α) :
    SideBySide Eq Call.SameButJournal Eq (inSession run) (inSession run) := by
  intro c d hcalls
  rw [run_inSession, run_inSession, hcalls.session]
  exact ⟨.refl (fun _ => rfl) _, ⟨rfl, hcalls.subject, hcalls.check⟩⟩

namespace Resolver

/-- Two outcomes differ in the journals that were written at most. -/
structure Outcome.SameButJournal (o o' : Outcome σ) : Prop where
  result : o.result = o'.result
  subject : o.subject = o'.subject
  session : o.session = o'.session

/-- Two resolvers for the same endpoint have the same options, but for a vacant locale. -/
structure Twins (r r' : Resolver) : Prop where
  endpoint : r.endpoint = r'.endpoint
  timeout : r.options.timeout = r'.options.timeout
  logDir : r.options.logDir = r'.options.logDir
  locale : r.options.locale.GivenAlike r'.options.locale

/-- Two resolvers do the same: they go to the same endpoint with the same patience and write their journals to the
same place, ask for the same on behalf of every subject, and their calls differ in the journals at most. -/
structure DoSame (r r' : Resolver) : Prop where
  endpoint : r.endpoint = r'.endpoint
  timeout : r.options.timeout = r'.options.timeout
  logDir : r.options.logDir = r'.options.logDir
  requests : ∀ s slots names, (r.requests s slots names).map GenerationRequest.sent =
    (r'.requests s slots names).map GenerationRequest.sent
  calls : ∀ {σ : Type} (service : Service σ) callId subject entities session,
    (resolve service r callId subject entities session).SameButJournal
      (resolve service r' callId subject entities session)

namespace Twins

variable {service : Service σ} {r r' : Resolver}

theorem localeOf (h : r.Twins r') (s : Subject) : (r.localeOf s).GivenAlike (r'.localeOf s) :=
  h.locale.inPlaceOf s.locale

/-- **Twins ask for the same.** -/
theorem requests (h : r.Twins r') (s : Subject) (slots : List Slot) (names : List String) :
    (r.requests s slots names).map GenerationRequest.sent =
      (r'.requests s slots names).map GenerationRequest.sent := by
  unfold Resolver.requests
  rw [h.endpoint]
  exact GenerationRequest.sent_forReferences _ (h.localeOf s) slots names

/-- Fetching a table goes side by side: the requests are sent alike. -/
theorem sideBySide_fetchTable (h : r.Twins r') (s : Subject) (slots : List Slot) (names : List String) :
    Stage.SideBySide Eq Call.SameButJournal Eq (fetchTable service r (r.localeOf s) slots names)
      (fetchTable service r' (r'.localeOf s) slots names) := by
  have hsent := GenerationRequest.sent_forReferences r'.endpoint.app (h.localeOf s) slots names
  unfold fetchTable
  rw [h.endpoint]
  refine .bind (Stage.sideBySide_inSession _) fun token _ htoken => ?_
  cases htoken
  dsimp only
  rw [Client.fetchAll_congr service r'.endpoint.location token hsent]
  refine .bind (Stage.sideBySide_inSession _) fun pairs _ hpairs => ?_
  cases hpairs
  refine .bind (.modify fun _ _ hcalls => Call.SameButJournal.bond.note hcalls _) fun _ _ _ => ?_
  exact .ofExcept (.ok rfl)

/-- A journal that can hold the start of a call of one can hold that of the other, since it can hold whatever is
vacant. -/
theorem checkFields_recordedStart (h : r.Twins r') (entities : Value) (s : Subject) :
    (r.recordedStart entities s).checkFields = (r'.recordedStart entities s).checkFields := by
  rcases h.localeOf s with hsame | ⟨hvacant, hvacant'⟩
  · rw [recordedStart, recordedStart, hsame]
  · have hlocale : Json.check Journal.fieldLevels (r.localeOf s) = .ok () := Json.check_of_isVacant hvacant
    have hlocale' : Json.check Journal.fieldLevels (r'.localeOf s) = .ok () := Json.check_of_isVacant hvacant'
    rw [Journal.Event.checkFields, Journal.Event.checkFields]
    simp only [recordedStart, Journal.Event.fields, List.map_cons, List.map_nil, Json.checkEntries_text_cons,
      hlocale, hlocale']

theorem sideBySide_recordedStart (h : r.Twins r') (entities : Value) (s : Subject) :
    Stage.SideBySide Eq Call.SameButJournal Eq (Stage.record (r.recordedStart entities s) : Stage σ Unit)
      (Stage.record (r'.recordedStart entities s)) := by
  refine .record_of (fun _ => rfl) (fun c d hcalls => ?_) fun _ _ hcalls => hcalls.recorded _ _
  rw [hcalls.check]
  cases hj : d.journal with
  | none => rw [Call.check_none hj, Call.check_none hj]
  | some w => rw [Call.check_eq hj, Call.check_eq hj, h.checkFields_recordedStart entities s]

/-- **All stages of a call go side by side**: only what is recorded first need not be the same. -/
theorem sideBySide_stages (h : r.Twins r') (entities : Value) :
    Stage.SideBySide Eq Call.SameButJournal Eq (stages service r entities) (stages service r' entities) :=
  Resolver.sideBySide_stages Call.SameButJournal.bond entities (h.sideBySide_recordedStart entities)
    h.sideBySide_fetchTable

/-- **The calls of twins** differ in their journals at most. -/
theorem resolve (h : r.Twins r') (service : Service σ) (callId : String) (subject : Option Subject)
    (entities : Value) (session : Session σ) :
    (resolve service r callId subject entities session).SameButJournal
      (resolve service r' callId subject entities session) := by
  cases hchecked : checkArguments subject entities with
  | error fault =>
    rw [resolve_unchecked hchecked, resolve_unchecked hchecked]
    exact ⟨rfl, rfl, rfl⟩
  | ok checked =>
    have hstart : r.startJournal callId = r'.startJournal callId := by
      rw [startJournal, startJournal, h.logDir, h.endpoint]
    cases hjournal : r'.startJournal callId with
    | error m =>
      rw [resolve_unrecorded hchecked hjournal, resolve_unrecorded hchecked (hstart.trans hjournal)]
      exact ⟨rfl, rfl, rfl⟩
    | ok journal =>
      have hstages : Stage.SideBySide Eq Call.SameButJournal Eq (stages service r entities)
        (stages service r' entities) := h.sideBySide_stages entities
      obtain ⟨hresults, hcalls⟩ := hstages ⟨session, checked, journal⟩ ⟨session, checked, journal⟩
        ⟨rfl, rfl, fun _ => rfl⟩
      obtain ⟨hended, hclosed⟩ := bond_closing Call.SameButJournal.bond callId hresults hcalls
      rw [resolve_run service session hchecked hjournal rfl,
        resolve_run service session hchecked (hstart.trans hjournal) rfl]
      exact ⟨hended.eq, congrArg some hclosed.subject, hclosed.session⟩

theorem doSame (h : r.Twins r') : r.DoSame r' :=
  ⟨h.endpoint, h.timeout, h.logDir, h.requests, h.resolve⟩

end Twins

end Resolver

end Phrasing
