import Phrasing.FileTree
import Phrasing.Json.Printer

/-!
# Entries of a journal

The journal of a call records what happened in it, one entry a line: its start, the references found, the
phrases fetched, and how it ended.  Every entry names the call and its scenario.  An entry that cannot be
written as JSON is not recorded.
-/

namespace Phrasing.Journal

/-- How a call failed. -/
structure Incident where
  kind : String
  message : String
  status : Option Nat
  missing : Option (List String)
  deriving DecidableEq, Repr

/-- The incident that a fault makes. -/
def Incident.ofFault (f : Fault) : Incident :=
  ⟨f.label, f.message, f.status?, f.missing?⟩

/-- What an entry records. -/
inductive Event where
  | started (locale : Value) (entities : Value)
  | extracted (references : Value) (count : Nat)
  | fetched (resolutions : Value) (count : Nat)
  | completed
  | failed (incident : Incident)

namespace Event

/-- The name of an event. -/
def name : Event → String
  | .started _ _ => "resolve.started"
  | .extracted _ _ => "references.extracted"
  | .fetched _ _ => "fetch.completed"
  | .completed => "resolve.completed"
  | .failed _ => "resolve.failed"

/-- The level at which an event is recorded. -/
def level : Event → String
  | .failed _ => "error"
  | _ => "info"

/-- The fields that belong to an event. -/
def fields : Event → List (String × Value)
  | .started locale entities => [("locale", locale), ("entities", entities)]
  | .extracted references count => [("references", references), ("reference_count", .int count)]
  | .fetched resolutions count => [("resolutions", resolutions), ("resolved_count", .int count)]
  | .completed => []
  | .failed i =>
    [("error_type", .text i.kind), ("error_message", .text i.message), ("status_code", .ofNat? i.status),
      ("missing", (i.missing.map Value.texts).getD .null)]

/-- The number of items of a value, if it has any notion of one. -/
def sizeOf (v : Value) : Except Mishap Nat :=
  match v with
  | .text s => .ok s.length
  | .bytes bs => .ok bs.length
  | .list vs | .tuple vs | .set vs => .ok vs.length
  | .mapping es => .ok es.length
  | v => .error (.noLength v.typeName)

/-- The finding of some references. -/
def ofReferences (references : Value) : Except Mishap Event :=
  (sizeOf references).map (.extracted references)

/-- The arrival of some resolutions. -/
def ofResolutions (resolutions : Value) : Except Mishap Event :=
  (sizeOf resolutions).map (.fetched resolutions)

end Event

/-- An entry. -/
structure Entry where
  callId : String
  scenario : Value
  event : Event

namespace Entry

/-- The fields of an entry. -/
def fields (e : Entry) : List (String × Value) :=
  [("call_id", .text e.callId), ("scenario", e.scenario)] ++ e.event.fields ++
    [("event", .text e.event.name), ("level", .text e.event.level)]

/-- An entry as a line of text. -/
def line (e : Entry) : List Char :=
  Json.renderChars (.object e.fields) ++ ['\n']

/-- Refuses an entry that cannot be written. -/
def check (e : Entry) : Except Mishap Unit :=
  Json.check Json.mostLevels (.object e.fields)

end Entry

/-- The journal of a call while it is written. -/
structure Writer where
  callId : String
  scenario : Value
  entries : List Entry
  isOpen : Bool

namespace Writer

/-- A journal without entries. -/
def start (callId : String) (scenario : Value) : Writer :=
  ⟨callId, scenario, [], true⟩

/-- The entry that records an event. -/
def entry (event : Event) (w : Writer) : Entry :=
  ⟨w.callId, w.scenario, event⟩

/-- Adds an entry. -/
def append (event : Event) (w : Writer) : Writer :=
  { w with entries := w.entries ++ [w.entry event] }

/-- Records an event, unless its entry cannot be written or the journal is closed. -/
def record (event : Event) (w : Writer) : Except Mishap Writer := do
  (w.entry event).check
  if w.isOpen then return w.append event else throw .logClosed

/-- Closes a journal. -/
def close (w : Writer) : Writer :=
  { w with isOpen := false }

/-- The text of a journal. -/
def content (w : Writer) : List Char :=
  w.entries.flatMap Entry.line

/-- The name of the file of a journal that is started at a time. -/
def fileName (stamp : String) (w : Writer) : String :=
  stamp ++ "_" ++ w.callId ++ ".jsonl"

/-- A journal in a directory.  The directory is made if need be; the file cannot be made if its name leads on. -/
def startIn (directory callId : String) (scenario : Value) : Except Mishap Writer := do
  FileTree.checkNames directory
  let w := start callId scenario
  let path := Text.entryPath (Text.usualPath directory) (w.fileName "00000000_000000")
  FileTree.checkNames path
  if callId.toList.contains '/' then FileTree.noEntry path
  return w

end Writer

end Phrasing.Journal
