import Phrasing.Exchange.Message
import Phrasing.Json.Printer

/-!
# Scripted services

A service that answers from a script: one list of answers for token requests, one for each template, and
one for all other templates.  A list is used up one answer per request of the same template, and its last
answer repeats.
-/

namespace Phrasing

/-- The body of a scripted reply. -/
inductive ScriptedBody where
  /-- The phrase for whatever template was asked for. -/
  | phrase (text : String)
  /-- An output without a phrase. -/
  | noPhrase
  | bytes (bs : List UInt8)
  deriving DecidableEq, Repr

/-- What a script answers. -/
inductive ScriptedAnswer where
  | reply (status : Nat) (headers : List (String × String)) (body : ScriptedBody)
  | failure (f : Failure)
  deriving DecidableEq, Repr

/-- An answer of a script with its delay. -/
structure ScriptedArrival where
  answer : ScriptedAnswer
  ticks : Nat
  deriving DecidableEq, Repr

/-- A script. -/
structure Script where
  token : List ScriptedArrival
  templates : Entries String (List ScriptedArrival)
  otherTemplates : List ScriptedArrival

namespace Script

/-- How often the token and each template were asked for. -/
structure Use where
  tokens : Nat
  templates : Entries String Nat

/-- Nothing was asked for yet. -/
def unused : Use := ⟨0, []⟩

/-- The answer of a list at a turn. -/
def turn (arrivals : List ScriptedArrival) (default : ScriptedArrival) (n : Nat) : ScriptedArrival :=
  (arrivals[n]? <|> arrivals.getLast?).getD default

/-- The body of a reply about a template. -/
def bodyBytes (template : Value) : ScriptedBody → List UInt8
  | .phrase text =>
    let display := Value.object [("kind", .int 0), ("stringValues", .list [.text text])]
    Text.utf8Bytes (Json.render
      (.object [("Outputs", .object [("DisplayText", display)]), ("templateId", template)]))
  | .noPhrase =>
    Text.utf8Bytes (Json.render (.object [("Outputs", .object []), ("templateId", template)]))
  | .bytes bs => bs

/-- The answer about a template as it arrives. -/
def arrive (template : Value) (a : ScriptedArrival) : Arrival :=
  match a.answer with
  | .reply status headers body =>
    ⟨.reply ⟨status, headers, bodyBytes template body⟩, a.ticks⟩
  | .failure f => ⟨.failure f, a.ticks⟩

/-- The answer to a token request where the script has none. -/
def defaultToken : ScriptedArrival :=
  ⟨.reply 200 [] (.bytes (Text.utf8Bytes "test-token")), 0⟩

/-- The answers about a template. -/
def arrivalsFor (script : Script) (template : Value) : List ScriptedArrival :=
  match template.text? with
  | some name => (script.templates.get? name).getD script.otherTemplates
  | none => script.otherTemplates

/-- The service that answers from a script. -/
def service (script : Script) : Service Use where
  answer use request :=
    match request with
    | .token _ _ =>
      (arrive .null (turn script.token defaultToken use.tokens),
        { use with tokens := use.tokens + 1 })
    | .generation _ _ body =>
      let template := body.getD "templateId"
      let key := template.literal
      let n := (use.templates.get? key).getD 0
      (arrive template (turn (script.arrivalsFor template) ⟨.reply 200 [] .noPhrase, 0⟩ n),
        { use with templates := use.templates.put key (n + 1) })

end Script

end Phrasing
