import Phrasing.Proofs.Faults
import Phrasing.Proofs.Recording
import Phrasing.Proofs.Slots
import Phrasing.Proofs.Tables
import Phrasing.Proofs.Transcript

/-! # The course of a call

A call whose arguments can be used takes one of ten courses: it fails on its journal, which cannot hold the start
or the number of references; on an entity, on a subject that cannot be searched, on the token, on a fetch, on a
missing phrase or on writing to the subject; or it returns, with nothing to do or with the subject filled in.
`Course` lists them with everything each leaves behind, and `stages_course` proves that there is no other.  Only the
last two write to the subject.

A journal that holds the references of a call also holds the phrases that are fetched for them, which are no more,
and one that holds the start of a call also holds its end (`Course.closing_fst`): what a call ends in is what its
stages ended in.
-/

namespace Phrasing

variable {σ : Type}

/-! ## Running stages -/

namespace Stage

theorem run_bind {α β : Type} (x : Stage σ α) (f : α → Stage σ β) (c : Call σ) :
    (x >>= f).run c = match x.run c with
      | (.ok a, c) => (f a).run c
      | (.error fault, c) => (.error fault, c) := by
  have hbind : (x >>= f).run c = ExceptT.bindCont f (x.run c).1 (x.run c).2 := rfl
  rw [hbind]
  rcases x.run c with ⟨fault | a, c⟩
  · rfl
  · rfl

theorem run_ofExcept {α : Type} (x : Except Fault α) (c : Call σ) :
    (ofExcept x).run c = (x, c) := rfl

/-- An event that the journal can hold is recorded. -/
theorem run_record {event : Journal.Event} {c : Call σ} (h : c.check event = .ok ()) :
    (record event : Stage σ Unit).run c = (.ok (), c.recorded event) := by
  have hrecord : c.record event = .ok (c.recorded event) := by
    rw [Call.record, h]
    rfl
  show record event c = _
  unfold record
  rw [hrecord]

/-- Any other ends the call. -/
theorem run_record_error {event : Journal.Event} {c : Call σ} {m : Mishap} (h : c.check event = .error m) :
    (record event : Stage σ Unit).run c = (.error (.mishap m), c) := by
  have hrecord : c.record event = .error m := by
    rw [Call.record, h]
    rfl
  show record event c = _
  unfold record
  rw [hrecord]

theorem run_inSession {α : Type} (run : Run σ α) (c : Call σ) :
    (inSession run).run c = ((run c.session).1, { c with session := (run c.session).2 }) := rfl

theorem run_get (c : Call σ) : (get : Stage σ (Call σ)).run c = (.ok c, c) := rfl

theorem run_modify (f : Call σ → Call σ) (c : Call σ) :
    (modify f : Stage σ Unit).run c = (.ok (), f c) := rfl

end Stage

namespace Resolver

variable (service : Service σ) (r : Resolver)

/-- The requests of a call, one for every reference. -/
def requests (s : Subject) (slots : List Slot) (names : List String) : List GenerationRequest :=
  GenerationRequest.forReferences r.endpoint.app (r.localeOf s) slots names

/-- A call that has begun. -/
def begun (entities : Value) (c : Call σ) : Call σ :=
  c.recorded (r.recordedStart entities c.subject)

/-- A call that has listed its references. -/
def listed (entities : Value) (names : List String) (c : Call σ) : Call σ :=
  (r.begun entities c).recorded (recordedReferences names)

/-- A call that has got responses in a session. -/
def fetched (entities : Value) (names : List String) (pairs : List (String × GenerationResponse))
    (session : Session σ) (c : Call σ) : Call σ :=
  (({ r.listed entities names c with session } : Call σ).note (tableOf pairs).2).recorded
    (recordedTable (tableOf pairs).1)

/-- A call comes to its references: its start is on record, its entities are encoded and the references of its
subject are found. -/
structure Searches (entities : Value) (c : Call σ) (slots : List Slot) (names : List String) : Prop where
  begins : c.check (r.recordedStart entities c.subject) = .ok ()
  encodes : Slot.ofEntities entities = .ok slots
  finds : c.subject.references = .ok names

/-- A call has its references on record. -/
structure Lists (entities : Value) (c : Call σ) (slots : List Slot) (names : List String) : Prop
    extends r.Searches entities c slots names where
  lists : c.check (recordedReferences names) = .ok ()

/-- A call comes to its fetches: it has references, and there is a token for them. -/
structure Fetches (entities : Value) (c : Call σ) (slots : List Slot) (names : List String) (token : String)
    (session : Session σ) : Prop extends r.Lists entities c slots names where
  referring : names ≠ []
  issues : Client.issueToken service r.endpoint.location r.endpoint.key c.session = (.ok token, session)

/-- A call comes to its responses. -/
structure Answers (entities : Value) (c : Call σ) (slots : List Slot) (names : List String) (token : String)
    (session : Session σ) (pairs : List (String × GenerationResponse)) (session' : Session σ) : Prop
    extends r.Fetches service entities c slots names token session where
  responds : Client.fetchAll service r.endpoint.location token (r.requests c.subject slots names) session =
    (.ok pairs, session')

/-- **The courses that a call can take**, each with its result and the call as it is left. -/
inductive Course (entities : Value) (c : Call σ) : Except Fault Unit → Call σ → Prop where
  /-- The journal cannot hold the start of the call. -/
  | unbegun {m : Mishap} (hstart : c.check (r.recordedStart entities c.subject) = .error m) :
    Course entities c (.error (.mishap m)) c
  /-- An entity has no wire form. -/
  | unencodable {fault : Fault} (hstart : c.check (r.recordedStart entities c.subject) = .ok ())
      (hslots : Slot.ofEntities entities = .error fault) :
    Course entities c (.error fault) (r.begun entities c)
  /-- The subject cannot be searched for references. -/
  | unsearchable {slots : List Slot} {m : Mishap}
      (hstart : c.check (r.recordedStart entities c.subject) = .ok ())
      (hslots : Slot.ofEntities entities = .ok slots) (hnames : c.subject.references = .error m) :
    Course entities c (.error (.mishap m)) (r.begun entities c)
  /-- The journal cannot hold the number of references. -/
  | unlisted {slots : List Slot} {names : List String} {m : Mishap}
      (h : r.Searches entities c slots names) (hlist : c.check (recordedReferences names) = .error m) :
    Course entities c (.error (.mishap m)) (r.begun entities c)
  /-- The subject has no references. -/
  | nothing {slots : List Slot} (h : r.Lists entities c slots []) :
    Course entities c (.ok ()) ((r.listed entities [] c).recorded .completed)
  /-- There is no token. -/
  | noToken {slots : List Slot} {names : List String} {fault : Fault} {session : Session σ}
      (h : r.Lists entities c slots names) (hne : names ≠ [])
      (htoken : Client.issueToken service r.endpoint.location r.endpoint.key c.session =
        (.error fault, session)) :
    Course entities c (.error fault) { r.listed entities names c with session }
  /-- A fetch failed. -/
  | noResponses {slots : List Slot} {names : List String} {token : String} {fault : Fault}
      {session session' : Session σ} (h : r.Fetches service entities c slots names token session)
      (hfetch : Client.fetchAll service r.endpoint.location token (r.requests c.subject slots names)
        session = (.error fault, session')) :
    Course entities c (.error fault) { r.listed entities names c with session := session' }
  /-- A reference got no phrase. -/
  | incomplete {slots : List Slot} {names : List String} {token : String}
      {pairs : List (String × GenerationResponse)} {session session' : Session σ}
      (h : r.Answers service entities c slots names token session pairs session')
      (hmissing : missingFrom (tableOf pairs).1 names ≠ []) :
    Course entities c (.error (.incomplete (missingFrom (tableOf pairs).1 names)))
      (r.fetched entities names pairs session' c)
  /-- Every reference got a phrase, but the subject refuses one of them. -/
  | stopped {slots : List Slot} {names : List String} {token : String}
      {pairs : List (String × GenerationResponse)} {session session' : Session σ} {m : Mishap}
      (h : r.Answers service entities c slots names token session pairs session')
      (hmissing : missingFrom (tableOf pairs).1 names = [])
      (hfill : (c.subject.fill (tableOf pairs).1).2 = some m) :
    Course entities c (.error (.mishap m))
      { r.fetched entities names pairs session' c with subject := (c.subject.fill (tableOf pairs).1).1 }
  /-- Every reference got a phrase, and the subject is filled in. -/
  | filled {slots : List Slot} {names : List String} {token : String}
      {pairs : List (String × GenerationResponse)} {session session' : Session σ}
      (h : r.Answers service entities c slots names token session pairs session')
      (hmissing : missingFrom (tableOf pairs).1 names = [])
      (hfill : (c.subject.fill (tableOf pairs).1).2 = none) :
    Course entities c (.ok ())
      (({ r.fetched entities names pairs session' c with
        subject := (c.subject.fill (tableOf pairs).1).1 } : Call σ).recorded .completed)

/-- Fetching a table: the token first, then all phrases. -/
theorem run_fetchTable (locale : Value) (slots : List Slot) (names : List String) (c : Call σ) :
    (fetchTable service r locale slots names).run c =
      match Client.issueToken service r.endpoint.location r.endpoint.key c.session with
      | (.error fault, session) => (.error fault, { c with session })
      | (.ok token, session) =>
        match Client.fetchAll service r.endpoint.location token
            (GenerationRequest.forReferences r.endpoint.app locale slots names) session with
        | (.error fault, session) => (.error fault, { c with session })
        | (.ok pairs, session) =>
          (.ok (tableOf pairs).1, ({ c with session } : Call σ).note (tableOf pairs).2) := by
  simp only [fetchTable, Stage.run_bind, Stage.run_inSession]
  rcases Client.issueToken service r.endpoint.location r.endpoint.key c.session with
    ⟨fault | token, session⟩
  · rfl
  · dsimp only
    rcases Client.fetchAll service r.endpoint.location token
      (GenerationRequest.forReferences r.endpoint.app locale slots names) session with
      ⟨fault | pairs, session⟩
    · rfl
    · rfl

/-- Writing puts the subject as it is left in the place of the old one, and ends the call if it was stopped. -/
theorem run_write (table : Reference.Table) (c : Call σ) :
    (write table).run c = (match (c.subject.fill table).2 with
        | none => .ok ()
        | some m => .error (.mishap m),
      { c with subject := (c.subject.fill table).1 }) := by
  simp only [write, Stage.run_bind, Stage.run_get, Stage.run_modify]
  cases (c.subject.fill table).2 <;> rfl

/-- No more phrases are fetched than there are references, so the journal can hold them, too. -/
theorem check_recordedTable {c : Call σ} {names : List String} {pairs : List (String × GenerationResponse)}
    (h : c.check (recordedReferences names) = .ok ()) (hle : pairs.length ≤ names.length) :
    c.check (recordedTable (tableOf pairs).1) = .ok () := by
  cases hj : c.journal with
  | none => exact Call.check_none hj _
  | some w =>
    rw [Call.check_eq hj, checks_eq_ok, recordedReferences, Journal.checkFields_extracted,
      Scalar.checkDigits_eq_ok] at h
    rw [Call.check_eq hj, checks_eq_ok, recordedTable, Journal.checkFields_fetched,
      Scalar.checkDigits_eq_ok]
    exact ⟨h.1, Scalar.isWritable_of_le (Nat.le_trans (length_tableOf_le pairs) hle) h.2⟩

variable {service r} in
/-- The responses are no more than the references. -/
theorem Answers.length_le {entities : Value} {c : Call σ} {slots : List Slot} {names : List String}
    {token : String} {session session' : Session σ} {pairs : List (String × GenerationResponse)}
    (h : r.Answers service entities c slots names token session pairs session') :
    pairs.length ≤ names.length := by
  obtain ⟨_, _, hopen, _, hsends⟩ := Client.made_of_issueToken h.issues
  obtain ⟨hjoined, _⟩ := Client.fetchAll_open service r.endpoint.location token
    (r.requests c.subject slots names) (hsends.isOpen.trans hopen)
  rw [h.responds] at hjoined
  obtain ⟨responses, _, rfl⟩ := map_eq_ok.mp hjoined.symm
  rw [List.length_zip, requests, GenerationRequest.forReferences, List.length_map, List.length_map]
  exact Nat.min_le_left _ _

/-- The last stages of a call, from its table on. -/
def lastStages (names : List String) (table : Reference.Table) : Stage σ Unit := do
  Stage.record (recordedTable table)
  Stage.ofExcept (checkComplete names table)
  write table
  Stage.record .completed

/-- The stages of a call from its references on. -/
def laterStages (locale : Value) (slots : List Slot) (names : List String) : Stage σ Unit := do
  if names.isEmpty then
    Stage.record .completed
  else
    let table ← fetchTable service r locale slots names
    lastStages names table

/-- In the last stages a reference is missing, or the subject is written to. -/
theorem run_lastStages (names : List String) {table : Reference.Table} {c : Call σ}
    (h : c.check (recordedTable table) = .ok ()) :
    (lastStages names table).run c =
    if missingFrom table names = [] then
      match (c.subject.fill table).2 with
      | none => (.ok (), ({ c.recorded (recordedTable table) with
          subject := (c.subject.fill table).1 } : Call σ).recorded .completed)
      | some m => (.error (.mishap m), { c.recorded (recordedTable table) with
          subject := (c.subject.fill table).1 })
    else (.error (.incomplete (missingFrom table names)), c.recorded (recordedTable table)) := by
  rw [lastStages, Stage.run_bind, Stage.run_record h]
  dsimp only
  rw [Stage.run_bind, Stage.run_ofExcept, checkComplete]
  cases hmissing : missingFrom table names with
  | cons m ms => rfl
  | nil =>
    dsimp only
    rw [Stage.run_bind, run_write, Call.recorded_subject, if_pos rfl]
    cases hfill : (c.subject.fill table).2 with
    | some m => rfl
    | none =>
      dsimp only
      rw [Stage.run_record]
      exact (Call.check_recorded (recordedTable table)).trans (Call.check_completed h)

section Courses

variable {service r} {entities : Value} {c : Call σ} {slots : List Slot} {names : List String}

/-- Listing the references leaves the subject as it is, and what the journal can hold. -/
theorem subject_listed : (r.listed entities names c).subject = c.subject := by
  rw [listed, Call.recorded_subject, begun, Call.recorded_subject]

theorem check_listed {event : Journal.Event} : (r.listed entities names c).check event = c.check event :=
  (Call.check_recorded _).trans (Call.check_recorded _)

/-- A call that comes to its responses takes one of three courses. -/
theorem Answers.course {token : String} {pairs : List (String × GenerationResponse)} {session session' : Session σ}
    (h : r.Answers service entities c slots names token session pairs session') :
    let c' := ({ r.listed entities names c with session := session' } : Call σ).note (tableOf pairs).2
    r.Course service entities c ((lastStages names (tableOf pairs).1).run c').1
      ((lastStages names (tableOf pairs).1).run c').2 := by
  intro c'
  have hsubject : c'.subject = c.subject := @subject_listed σ r entities c names
  have hheld : c'.check (recordedTable (tableOf pairs).1) = .ok () :=
    (@check_listed σ r entities c names _).trans (check_recordedTable h.lists h.length_le)
  rw [run_lastStages names hheld, hsubject]
  split
  · rename_i hmissing
    cases hfill : (c.subject.fill (tableOf pairs).1).2 with
    | some m => exact .stopped h hmissing hfill
    | none => exact .filled h hmissing hfill
  · rename_i hmissing
    exact .incomplete h hmissing

/-- A call that has listed its references takes one of the courses from there. -/
theorem Lists.course (h : r.Lists entities c slots names) :
    r.Course service entities c
      ((laterStages service r (r.localeOf c.subject) slots names).run (r.listed entities names c)).1
      ((laterStages service r (r.localeOf c.subject) slots names).run (r.listed entities names c)).2 := by
  unfold laterStages
  by_cases hne : names = []
  · subst hne
    have hcompleted : (r.listed entities [] c).check .completed = .ok () :=
      check_listed.trans (Call.check_completed h.begins)
    have hempty : ([] : List String).isEmpty = true := rfl
    rw [if_pos hempty, Stage.run_record hcompleted]
    exact .nothing h
  · have hnonempty : ¬ names.isEmpty = true := fun hempty => hne (List.isEmpty_iff.mp hempty)
    have hsession : (r.listed entities names c).session = c.session := by
      rw [listed, Call.recorded_session, begun, Call.recorded_session]
    rw [if_neg hnonempty, Stage.run_bind, run_fetchTable, hsession]
    rcases htoken : Client.issueToken service r.endpoint.location r.endpoint.key c.session with
      ⟨fault | token, session⟩
    · exact .noToken h hne htoken
    · have hfetches : r.Fetches service entities c slots names token session := ⟨h, hne, htoken⟩
      dsimp only
      rcases hfetch : Client.fetchAll service r.endpoint.location token
        (GenerationRequest.forReferences r.endpoint.app (r.localeOf c.subject) slots names) session with
        ⟨fault | pairs, session'⟩
      · exact .noResponses hfetches hfetch
      · exact Answers.course ⟨hfetches, hfetch⟩

end Courses

/-- **Every call takes one of these courses.** -/
theorem stages_course (entities : Value) (c : Call σ) :
    r.Course service entities c ((stages service r entities).run c).1
      ((stages service r entities).run c).2 := by
  rw [stages, Stage.run_bind, Stage.run_get]
  dsimp only
  rw [Stage.run_bind]
  cases hstart : c.check (r.recordedStart entities c.subject) with
  | error m =>
    rw [Stage.run_record_error hstart]
    exact .unbegun hstart
  | ok _ =>
    rw [Stage.run_record hstart]
    dsimp only
    rw [Stage.run_bind, Stage.run_ofExcept]
    cases hslots : Slot.ofEntities entities with
    | error fault => exact .unencodable hstart hslots
    | ok slots =>
      dsimp only
      rw [Stage.run_bind, Stage.run_get]
      dsimp only
      rw [Stage.run_bind, Stage.run_ofExcept, Call.recorded_subject]
      cases hnames : c.subject.references with
      | error m => exact .unsearchable hstart hslots hnames
      | ok names =>
        have hsearches : r.Searches entities c slots names := ⟨hstart, hslots, hnames⟩
        rw [mapError_ok]
        dsimp only
        rw [Stage.run_bind]
        cases hlist : c.check (recordedReferences names) with
        | error m =>
          rw [Stage.run_record_error ((Call.check_recorded _).trans hlist)]
          exact .unlisted hsearches hlist
        | ok _ =>
          rw [Stage.run_record ((Call.check_recorded _).trans hlist)]
          exact Lists.course ⟨hsearches, hlist⟩

/-! ## Whole calls -/

section Calls

variable {service : Service σ} {r : Resolver} {callId : String} {subject : Option Subject}
  {entities : Value} {session : Session σ}

/-- What is checked is the subject itself. -/
theorem subject_of_checkArguments {s : Subject} (h : checkArguments subject entities = .ok s) :
    subject = some s := by
  unfold checkArguments at h
  split at h
  · cases h
  · exact congrArg some (Except.ok.inj h)
  · exact congrArg some (Except.ok.inj h)
  · cases h

/-- A call whose arguments cannot be used leaves everything as it was. -/
theorem resolve_unchecked {fault : Fault} (h : checkArguments subject entities = .error fault) :
    resolve service r callId subject entities session = ⟨.error fault, subject, session, none⟩ := by
  simp only [resolve, h]

/-- So does a call whose journal cannot be started. -/
theorem resolve_unrecorded {s : Subject} {m : Mishap} (h : checkArguments subject entities = .ok s)
    (hj : r.startJournal callId = .error m) :
    resolve service r callId subject entities session =
      ⟨.error (.mishap m), subject, session, none⟩ := by
  simp only [resolve, h, hj]

/-- Any other call runs its stages, and does about their end what is due. -/
theorem resolve_run (service : Service σ) (session : Session σ) {s : Subject} {journal : Option Journal.Writer}
    (h : checkArguments subject entities = .ok s) (hj : r.startJournal callId = .ok journal)
    {result : Except Fault Unit} {call : Call σ}
    (hrun : (stages service r entities).run ⟨session, s, journal⟩ = (result, call)) :
    resolve service r callId subject entities session =
      ⟨(closing callId result call).1, some (closing callId result call).2.subject,
        (closing callId result call).2.session, (closing callId result call).2.journal.map (·.close)⟩ := by
  simp only [resolve, h, hj, hrun]

/-- What is done about a failure sends nothing. -/
theorem sends_closing {s : Session σ} {sent : List Request} {c : Call σ}
    (h : s.Sends service sent c.session) (callId : String) (result : Except Fault Unit) :
    s.Sends service sent (closing callId result c).2.session := by
  cases result with
  | ok _ => exact h
  | error fault =>
    show s.Sends service sent (fail callId fault c).2.session
    unfold fail
    split
    · exact h
    · dsimp only
      split
      · rename_i c' hrecord
        obtain ⟨_, _, hc⟩ := bind_eq_ok.mp hrecord
        cases hc
        exact h.withNotices _
      · exact h.withNotices _

/-- Nothing is done about a demand to stop. -/
theorem closing_of_interruption {fault : Fault} (h : fault.isInterruption = true) (c : Call σ) :
    closing callId (.error fault) c = (.error fault, c) := by
  simp only [closing, fail, if_pos h]

/-- Of any other failure notice is given, and it is recorded if it can be. -/
theorem closing_of_check {fault : Fault} (h : fault.isInterruption = false) {c : Call σ}
    (hc : c.check (.failed (.ofFault fault)) = .ok ()) :
    closing callId (.error fault) c =
      (.error fault, (c.note [failureNotice callId fault]).recorded (.failed (.ofFault fault))) := by
  have hrecord : (c.note [failureNotice callId fault]).record (.failed (.ofFault fault)) =
      .ok ((c.note [failureNotice callId fault]).recorded (.failed (.ofFault fault))) :=
    bind_eq_ok.mpr ⟨(), hc, rfl⟩
  simp only [closing, fail, h, Bool.false_eq_true, if_false, hrecord]

/-- If it cannot, the mishap takes its place. -/
theorem closing_of_check_error {fault : Fault} (h : fault.isInterruption = false) {c : Call σ} {m : Mishap}
    (hc : c.check (.failed (.ofFault fault)) = .error m) :
    closing callId (.error fault) c = (.error (.mishap m), c.note [failureNotice callId fault]) := by
  have hrecord : (c.note [failureNotice callId fault]).record (.failed (.ofFault fault)) = .error m :=
    bind_eq_error.mpr (.inl hc)
  simp only [closing, fail, h, Bool.false_eq_true, if_false, hrecord]

/-- A call whose start cannot be recorded ends there. -/
theorem Course.of_unbegun {c call : Call σ} {result : Except Fault Unit} {m : Mishap}
    (h : r.Course service entities c result call)
    (hstart : c.check (r.recordedStart entities c.subject) = .error m) :
    result = .error (.mishap m) ∧ call = c := by
  cases h with
  | unbegun h =>
    cases hstart.symm.trans h
    exact ⟨rfl, rfl⟩
  | unencodable h | unsearchable h => cases hstart.symm.trans h
  | unlisted h | nothing h | noToken h | noResponses h | incomplete h | stopped h | filled h =>
    cases hstart.symm.trans h.begins

/-- A call whose references cannot be recorded ends there. -/
theorem Course.of_unlisted {c call : Call σ} {result : Except Fault Unit} {slots : List Slot}
    {names : List String} {m : Mishap} (h : r.Course service entities c result call)
    (hsearches : r.Searches entities c slots names) (hlist : c.check (recordedReferences names) = .error m) :
    result = .error (.mishap m) ∧ call = r.begun entities c := by
  have hlists {slots' : List Slot} {names' : List String} (h : r.Lists entities c slots' names') : False := by
    obtain rfl := Except.ok.inj (hsearches.finds.symm.trans h.finds)
    cases hlist.symm.trans h.lists
  cases h with
  | unbegun h => cases hsearches.begins.symm.trans h
  | unencodable _ h => cases hsearches.encodes.symm.trans h
  | unsearchable _ _ h => cases hsearches.finds.symm.trans h
  | unlisted h hlost =>
    obtain rfl := Except.ok.inj (hsearches.finds.symm.trans h.finds)
    cases hlist.symm.trans hlost
    exact ⟨rfl, rfl⟩
  | nothing h | noToken h => cases hlists h
  | noResponses h | incomplete h | stopped h | filled h => cases hlists h.toLists

/-- **The fault of a course has a status that can be told**, if any. -/
theorem Course.statusTold {c call : Call σ} {fault : Fault}
    (h : r.Course service entities c (.error fault) call) : fault.StatusTold := by
  cases h with
  | unbegun | unsearchable | unlisted | incomplete | stopped => exact Fault.statusTold_of_none rfl
  | unencodable _ hslots =>
    rcases Slot.ofEntities_eq_error hslots with ⟨m, rfl⟩ | rfl
    · exact Fault.statusTold_of_none rfl
    · exact Fault.statusTold_of_none rfl
  | noToken _ _ htoken => exact (Client.isRemote_of_issueToken htoken).statusTold
  | noResponses h hfetch =>
    obtain ⟨_, _, hopen, _, hsends⟩ := Client.made_of_issueToken h.issues
    exact (Client.isRemote_of_fetchAll (hsends.isOpen.trans hopen) hfetch).statusTold

/-- What is on record of a course shows that its end can be recorded, too; if nothing is, this is its fault. -/
theorem Course.check_failed {c call : Call σ} {fault : Fault}
    (h : r.Course service entities c (.error fault) call) :
    call.check (.failed (.ofFault fault)) = .ok () ∨
      ∃ m, fault = .mishap m ∧ call = c ∧ c.check (r.recordedStart entities c.subject) = .error m := by
  have htold := h.statusTold
  have hrecorded (hstart : c.check (r.recordedStart entities c.subject) = .ok ()) :
      c.check (.failed (.ofFault fault)) = .ok () := Call.check_failed hstart htold
  cases h with
  | unbegun hstart => exact .inr ⟨_, rfl, rfl, hstart⟩
  | unencodable hstart | unsearchable hstart =>
    exact .inl ((Call.check_recorded _).trans (hrecorded hstart))
  | unlisted h => exact .inl ((Call.check_recorded _).trans (hrecorded h.begins))
  | noToken h | noResponses h =>
    refine .inl (Eq.trans ?_ (hrecorded h.begins))
    exact (Call.check_recorded _).trans (Call.check_recorded _)
  | incomplete h | stopped h =>
    refine .inl (Eq.trans ?_ (hrecorded h.begins))
    refine (Call.check_recorded _).trans ?_
    exact (Call.check_recorded _).trans (Call.check_recorded _)

/-- **What a call ends in** is what its stages ended in. -/
theorem Course.closing_fst {c call : Call σ} {result : Except Fault Unit}
    (h : r.Course service entities c result call) (callId : String) :
    (closing callId result call).1 = result := by
  cases result with
  | ok _ => rfl
  | error fault =>
    cases hstop : fault.isInterruption with
    | true => rw [closing_of_interruption hstop]
    | false =>
      cases hc : call.check (.failed (.ofFault fault)) with
      | ok _ => rw [closing_of_check hstop hc]
      | error m' =>
        rcases h.check_failed with hok | ⟨m, rfl, rfl, hstart⟩
        · cases hc.symm.trans hok
        · rw [closing_of_check_error hstop hc,
            Call.eq_of_check_failed (i := .ofFault (.mishap m)) hstart h.statusTold hc]

/-- What is done about the end of a call leaves its subject alone. -/
theorem closing_subject (callId : String) (result : Except Fault Unit) (c : Call σ) :
    (closing callId result c).2.subject = c.subject := by
  cases result with
  | ok _ => rfl
  | error fault =>
    show (fail callId fault c).2.subject = _
    unfold fail
    split
    · rfl
    · dsimp only
      split
      · rename_i c' hrecord
        obtain ⟨_, _, hc⟩ := bind_eq_ok.mp hrecord
        cases hc
        rfl
      · rfl

/-- **Any other call takes a course**, and ends in its result with the subject as that leaves it; its journal is
closed at the end. -/
theorem resolve_course (service : Service σ) (session : Session σ) {s : Subject}
    {journal : Option Journal.Writer}
    (h : checkArguments subject entities = .ok s) (hj : r.startJournal callId = .ok journal) :
    ∃ result call, r.Course service entities ⟨session, s, journal⟩ result call ∧
      resolve service r callId subject entities session =
        ⟨result, some call.subject, (closing callId result call).2.session,
          (closing callId result call).2.journal.map (·.close)⟩ := by
  rcases hrun : (stages service r entities).run ⟨session, s, journal⟩ with ⟨result, call⟩
  have hcourse := stages_course service r entities ⟨session, s, journal⟩
  rw [hrun] at hcourse
  refine ⟨result, call, hcourse, ?_⟩
  rw [resolve_run service session h hj hrun, hcourse.closing_fst, closing_subject]

end Calls

end Resolver

end Phrasing
