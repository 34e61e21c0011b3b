import Phrasing.Client
import Phrasing.Journal.Entry
import Phrasing.Settings
import Phrasing.Subject

/-!
# Resolving a subject

`resolve` replaces the references of a subject by phrases of the service.  It checks the arguments, encodes
the entities, lists the references, obtains a token, fetches one phrase for every reference, checks that
none is missing, and only then writes to the subject.  Every stage can end the call in a fault; the
subject is then as it was, unless the writing itself was stopped.  Where the journal cannot hold an entry,
this ends the call too.
-/

namespace Phrasing

variable {σ : Type}

/-- What calls are made with: an endpoint of the service and the options of the client. -/
structure Resolver where
  endpoint : Endpoint
  options : Options

/-- A call under way. -/
structure Call (σ : Type) where
  session : Session σ
  subject : Subject
  /-- The journal of the call, if one is written. -/
  journal : Option Journal.Writer

namespace Call

/-- Refuses an event that the journal cannot hold, if there is one. -/
def check (event : Journal.Event) (c : Call σ) : Except Mishap Unit :=
  match c.journal with
  | none => .ok ()
  | some w => (w.entry event).check

/-- Adds an event to the journal, if there is one. -/
def recorded (event : Journal.Event) (c : Call σ) : Call σ :=
  { c with journal := c.journal.map (·.append event) }

/-- Records an event in the journal, which is open as long as the call is under way. -/
def record (event : Journal.Event) (c : Call σ) : Except Mishap (Call σ) := do
  c.check event
  return c.recorded event

/-- Gives notices. -/
def note (notices : List Notice) (c : Call σ) : Call σ :=
  { c with session := { c.session with notices := c.session.notices ++ notices } }

end Call

/-- A step of a call.  What it did before a fault stays done. -/
abbrev Stage (σ α : Type) := ExceptT Fault (StateM (Call σ)) α

namespace Stage

/-- Goes on with a result or ends in a fault. -/
def ofExcept {α : Type} (x : Except Fault α) : Stage σ α :=
  ExceptT.mk (pure x)

/-- Records an event, or ends in the mishap that this is. -/
def record (event : Journal.Event) : Stage σ Unit :=
  fun c =>
    match c.record event with
    | .ok c => (.ok (), c)
    | .error m => (.error (.mishap m), c)

/-- Runs a computation in the session of the call. -/
def inSession {α : Type} (run : Run σ α) : Stage σ α :=
  fun c =>
    let (result, session) := run c.session
    (result, { c with session := session })

end Stage

namespace Resolver

/-! ### Arguments -/

/-- The subject of a call whose arguments can be used. -/
def checkArguments (subject : Option Subject) (entities : Value) : Except Fault Subject :=
  match subject, entities with
  | none, _ => .error (.argument "activity must not be None")
  | some s, .null | some s, .mapping _ => .ok s
  | some _, v => .error (.argument ("entities must be a mapping, got " ++ v.typeName))

/-- The names of entities. -/
def entityNames : Value → Value
  | .mapping entries => .list (entries.map fun (name, _) => .scalar name)
  | _ => .list []

/-! ### Tables of phrases -/

/-- Enters the response for a reference into a table.  A response without template or text is skipped;
one that reports another template counts all the same. -/
def enter (table : Reference.Table) (reference : String) (response : GenerationResponse) :
    Reference.Table × List Notice :=
  match response.isResolved, response.displayText with
  | true, some text =>
    let notices : List Notice :=
      if response.template.text? = some reference then []
      else [⟨.warning, "Response for template '" ++ reference ++ "' reported templateId '" ++
        response.template.display ++ "'"⟩]
    (table.put reference text, notices)
  | _, _ => (table, [⟨.warning, "No resolution returned for template '" ++ reference ++ "'"⟩])

/-- Enters the response for the next reference into the table made so far. -/
def enterNext (made : Reference.Table × List Notice) (pair : String × GenerationResponse) :
    Reference.Table × List Notice :=
  let (table, more) := enter made.1 pair.1 pair.2
  (table, made.2 ++ more)

/-- The table that responses make, each under the reference that was asked for. -/
def tableOf (pairs : List (String × GenerationResponse)) : Reference.Table × List Notice :=
  pairs.foldl enterNext ([], [])

/-- The references that a table does not know. -/
def missingFrom (table : Reference.Table) (references : List String) : List String :=
  references.filter fun r => (table.get? r).isNone

/-! ### Stages -/

/-- The locale of a call: that of the subject, or that of the options. -/
def localeOf (r : Resolver) (s : Subject) : Value :=
  s.locale.orElse r.options.locale

/-- Fetches a phrase for every reference and enters them into a table. -/
def fetchTable (service : Service σ) (r : Resolver) (locale : Value) (slots : List Slot)
    (references : List String) : Stage σ Reference.Table := do
  let token ← Stage.inSession (Client.issueToken service r.endpoint.location r.endpoint.key)
  let requests := GenerationRequest.forReferences r.endpoint.app locale slots references
  let pairs ← Stage.inSession (Client.fetchAll service r.endpoint.location token requests)
  let (table, notices) := tableOf pairs
  modify (Call.note notices)
  return table

/-- Refuses a table that does not know all references. -/
def checkComplete (references : List String) (table : Reference.Table) : Except Fault Unit :=
  match missingFrom table references with
  | [] => .ok ()
  | missing => .error (.incomplete missing)

/-- Writes the phrases of a table to the subject. -/
def write (table : Reference.Table) : Stage σ Unit := do
  let (subject, stopped) := (← get).subject.fill table
  modify fun c => { c with subject := subject }
  match stopped with
  | none => return
  | some m => throw (.mishap m)

/-- The start of a call, as a journal records it. -/
def recordedStart (r : Resolver) (entities : Value) (s : Subject) : Journal.Event :=
  .started (r.localeOf s) (entityNames entities)

/-- The references of a call, as a journal records them. -/
def recordedReferences (references : List String) : Journal.Event :=
  .extracted (.texts references) references.length

/-- The resolutions of a table, as a journal records them. -/
def recordedTable (table : Reference.Table) : Journal.Event :=
  .fetched (.object (table.map fun (r, phrase) => (r, .text phrase))) table.length

/-- The stages of a call whose arguments can be used. -/
def stages (service : Service σ) (r : Resolver) (entities : Value) : Stage σ Unit := do
  let subject := (← get).subject
  let locale := r.localeOf subject
  Stage.record (r.recordedStart entities subject)
  let slots ← Stage.ofExcept (Slot.ofEntities entities)
  let references ← Stage.ofExcept ((← get).subject.references.mapError .mishap)
  Stage.record (recordedReferences references)
  if references.isEmpty then
    Stage.record .completed
  else
    let table ← fetchTable service r locale slots references
    Stage.record (recordedTable table)
    Stage.ofExcept (checkComplete references table)
    write table
    Stage.record .completed

/-- The refusal of a value that is to be an endpoint and is none. -/
def notAnEndpoint (v : Value) : Fault :=
  .configuration ("endpoint must be an LGEndpoint, got " ++ v.typeName)

/-- What a call leaves behind. -/
structure Outcome (σ : Type) where
  result : Except Fault Unit
  subject : Option Subject
  session : Session σ
  /-- The journal of the call, if one was written. -/
  journal : Option Journal.Writer

/-- The notice that a failed call is worth. -/
def failureNotice (callId : String) (fault : Fault) : Notice :=
  ⟨.error, "Resolve call " ++ callId ++ " failed: " ++ fault.message⟩

/-- What a call ends in once a stage has failed.  A failure is worth a notice and an entry, and where the entry
cannot be written the mishap takes the place of the failure; a demand to stop is worth neither. -/
def fail (callId : String) (fault : Fault) (c : Call σ) : Fault × Call σ :=
  if fault.isInterruption then (fault, c)
  else
    let c := c.note [failureNotice callId fault]
    match c.record (.failed (.ofFault fault)) with
    | .ok c => (fault, c)
    | .error m => (.mishap m, c)

/-- What a call ends in once its stages have ended. -/
def closing (callId : String) (result : Except Fault Unit) (c : Call σ) : Except Fault Unit × Call σ :=
  match result with
  | .ok () => (.ok (), c)
  | .error fault => let (fault, c) := fail callId fault c; (.error fault, c)

/-- The journal that a call starts, if journals are written. -/
def startJournal (r : Resolver) (callId : String) : Except Mishap (Option Journal.Writer) :=
  r.options.logDir.mapM fun directory => Journal.Writer.startIn directory callId r.endpoint.app

/-- Resolves the references of a subject. -/
def resolve (service : Service σ) (r : Resolver) (callId : String) (subject : Option Subject)
    (entities : Value) (session : Session σ) : Outcome σ :=
  match checkArguments subject entities with
  | .error fault => ⟨.error fault, subject, session, none⟩
  | .ok s =>
    match r.startJournal callId with
    | .error m => ⟨.error (.mishap m), subject, session, none⟩
    | .ok journal =>
      let (result, call) := (stages service r entities).run ⟨session, s, journal⟩
      let (result, call) := closing callId result call
      ⟨result, some call.subject, call.session, call.journal.map (·.close)⟩

end Resolver

end Phrasing
