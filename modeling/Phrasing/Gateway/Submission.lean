import Phrasing.Gateway.Refusal

/-!
# Submissions

The body of a request for resolution holds an activity and, if the caller likes, entities.  `Submission.documentIn`
reads a document from its bytes: as JSON if that is what its content type says, and as a mere text otherwise,
which `Submission.ofDocument` then refuses as one.
-/

namespace Phrasing.Gateway

open Text

/-- What is submitted for resolution. -/
structure Submission where
  activity : Activity
  entities : Value

namespace Submission

/-- An object. -/
def checkObject : Value → Checked Value
  | v@(.mapping _) => .ok v
  | v => Checked.refuse .notObject v

/-- Reads a submission from a document. -/
def ofValue : Value → Checked Submission
  | v@(.mapping entries) =>
    let activity : Checked Activity := Checked.under (.key "activity")
      (match Entries.get? (.text "activity") entries with
        | some a => Activity.ofValue .body a
        | none => Checked.refuse .missing v)
    let made : Checked _ := .ok Submission.mk
    (made.and activity).and (Activity.checkField entries ["entities"] (.mapping []) checkObject)
  | v => Checked.refuse .noAttributes v

/-- A content type whose content is JSON. -/
def isJsonType (type : String) : Bool :=
  let media := (trim (type.toList.takeWhile (· ≠ ';'))).map Char.toLower
  let subtype := (media.dropWhile (· ≠ '/')).drop 1
  media.takeWhile (· ≠ '/') == "application".toList && !subtype.contains '/' &&
    (subtype == "json".toList || "+json".toList.isSuffixOf subtype)

/-- The document in a body, nothing in an empty one. -/
def documentIn (contentType : Option String) (body : List UInt8) : Except Refusal (Option Value) :=
  if body.isEmpty then .ok none
  else if contentType.all isJsonType then
    match Json.readBytes body with
    | .ok v => .ok (some v)
    | .error (.undecodable _) => .error .unreadable
    | .error (.refused cs r) =>
      .error (if r.complaint.excess?.isSome then .unreadable else .notJson r.complaint (r.place cs))
  else
    match Encoding.utf8.decodeStrict false body with
    | .ok cs => .ok (some (.text (String.ofList cs)))
    | .error _ => .ok (some (.bytes body))

/-- Reads a submission from what a body holds. -/
def ofDocument (document : Option Value) : Except Refusal Submission :=
  (match document with
    | some v => ofValue v
    | none => Checked.refuse .missing .null).mapError .invalid

end Submission

end Phrasing.Gateway
