import Phrasing.Exchange.Message
import Phrasing.Journal.Entry
import Phrasing.Text.Blank
import Phrasing.Text.Lines
import Phrasing.Value.Same

/-!
# Reading journals back

A journal is read line by line.  Blank lines are skipped but counted, a line that is not JSON is skipped
with a warning that names it, and every other line is an entry, to which its number is added.  Where a file
can be read only in part, the lines of that part come first and the mishap after them.  `summary` sums a
journal up from its entries, which need not be those of one well-formed call.
-/

namespace Phrasing.Journal

open Text

/-- The field that holds the number of the line of an entry. -/
def lineField : String := "_line_number"

/-- An entry that was read, with the number of its line. -/
def numbered (n : Nat) (v : Value) : Except Mishap Value :=
  match v with
  | .mapping es => .ok (.mapping (Entries.put (.text lineField) (.int n) es))
  | v => .error (.entryNotObject v.typeName)

/-- The warning about a line that is not JSON. -/
def unreadableLine (path : String) (n : Nat) (text : String) : Notice :=
  ⟨.warning, "Failed to parse line " ++ toString n ++ " of " ++ path ++ ": " ++ text⟩

/-- Reads the lines from number `n` on, and then meets the mishap `stop` if there is one. -/
def readLines (path : String) (stop : Option Mishap) :
    (n : Nat) → List (List Char) → Except Mishap (List Value) × List Notice
  | _, [] => (match stop with | none => .ok [] | some m => .error m, [])
  | n, line :: rest =>
    if line.all isBlank then readLines path stop (n + 1) rest
    else
      match Json.parseChars line with
      | .error (.notJson text) =>
        let (entries, notices) := readLines path stop (n + 1) rest
        (entries, unreadableLine path n text :: notices)
      | .error m => (.error m, [])
      | .ok v =>
        match numbered n v with
        | .error m => (.error m, [])
        | .ok entry =>
          let (entries, notices) := readLines path stop (n + 1) rest
          (entries.map (entry :: ·), notices)

/-- Reads the text of a journal at a path. -/
def read (path : String) (content : List Char) : Except Mishap (List Value) × List Notice :=
  readLines path none 1 (fileLines content)

/-! ### Questions to entries -/

/-- The entries of a kind of event. -/
def ofType (type : Value) (entries : List Value) : List Value :=
  entries.filter fun e => (e.getD "event").same type

/-- A field of the first entry of a kind of event; one value for an entry without the field or for a
journal without such an entry. -/
def firstField (type name : String) (other : Value) (entries : List Value) : Value :=
  match ofType (.text type) entries with
  | e :: _ => (e.get? name).getD other
  | [] => other

/-- The references that were found. -/
def references (entries : List Value) : Value :=
  firstField "references.extracted" "references" (.list []) entries

/-- The phrases that were fetched. -/
def resolutions (entries : List Value) : Value :=
  firstField "fetch.completed" "resolutions" (.mapping []) entries

/-- The entry of the first failure. -/
def failure? (entries : List Value) : Option Value :=
  (ofType (.text "resolve.failed") entries).head?

/-- How a call ended, as far as its journal tells. -/
inductive Status where
  | failed
  | success
  | incomplete
  deriving DecidableEq, Repr

/-- The word for a status. -/
def Status.text : Status → String
  | .failed => "failed"
  | .success => "success"
  | .incomplete => "incomplete"

/-- The status of a call: a failure counts before a completion. -/
def status (entries : List Value) : Status :=
  if (failure? entries).isSome then .failed
  else if (ofType (.text "resolve.completed") entries).isEmpty then .incomplete
  else .success

/-- A field of the first entry, null if there is none. -/
def headField (name : String) (entries : List Value) : Value :=
  (entries.head?.map (·.getD name)).getD .null

/-- What a journal comes to. -/
structure Summary where
  callId : Value
  scenario : Value
  totalEvents : Nat
  status : Status
  references : Value
  resolvedCount : Nat
  failure : Option Value

/-- Sums up the entries of a journal. -/
def summary (entries : List Value) : Except Mishap Summary :=
  (Event.sizeOf (resolutions entries)).map fun count =>
    { callId := headField "call_id" entries
      scenario := headField "scenario" entries
      totalEvents := entries.length
      status := status entries
      references := references entries
      resolvedCount := count
      failure := failure? entries }

/-- The fields of a failure that a summary keeps. -/
def failureFields : List String := ["error_type", "error_message", "status_code", "missing"]

/-- The failure in a summary as an object. -/
def Summary.failureValue (s : Summary) : Value :=
  match s.failure with
  | some e => .object (failureFields.map fun name => (name, e.getD name))
  | none => .null

/-- A summary as an object. -/
def Summary.toValue (s : Summary) : Value :=
  .object [("call_id", s.callId), ("scenario", s.scenario), ("total_events", .int s.totalEvents),
    ("status", .text s.status.text), ("references", s.references),
    ("resolved_count", .int s.resolvedCount), ("error", s.failureValue)]

end Phrasing.Journal
