import Phrasing.Activity.Basic
import Phrasing.Text.Encoding

/-!
# Reading activities

`Activity.ofValue` reads an activity from an object of any make and reports everything that is wrong with
it, field by field in the order the fields are declared.  A field with two spellings is taken from its
written key if that is there and from its plain name otherwise; whichever key is not used is kept as
an unknown field.
-/

namespace Phrasing

/-- A step on the way to a part of a value. -/
inductive Step where
  | key (name : String)
  | index (i : Nat)
  deriving DecidableEq, Repr

/-- What is wrong with a part of a value. -/
inductive Complaint where
  | notText
  | notUnicode
  | notList
  | notObject
  /-- Not an object that a model of that name could be read from. -/
  | notModel (name : String)
  /-- Nothing that the attributes of a model could be read from. -/
  | noAttributes
  | missing
  | keyNotText
  deriving DecidableEq, Repr

namespace Complaint

/-- The kind of a complaint. -/
def type : Complaint → String
  | .notText => "string_type"
  | .notUnicode => "string_unicode"
  | .notList => "list_type"
  | .notObject => "dict_type"
  | .notModel _ => "model_type"
  | .noAttributes => "model_attributes_type"
  | .missing => "missing"
  | .keyNotText => "invalid_key"

/-- A complaint in words. -/
def message : Complaint → String
  | .notText => "Input should be a valid string"
  | .notUnicode => "Input should be a valid string, unable to parse raw data as a unicode string"
  | .notList => "Input should be a valid list"
  | .notObject => "Input should be a valid dictionary"
  | .notModel name => "Input should be a valid dictionary or instance of " ++ name
  | .noAttributes => "Input should be a valid dictionary or object to extract fields from"
  | .missing => "Field required"
  | .keyNotText => "Keys should be strings"

end Complaint

/-- A complaint about the part of the input at a place. -/
structure Flaw where
  complaint : Complaint
  place : List Step
  input : Value

/-- A result, or all flaws that stand in its way. -/
abbrev Checked (α : Type) := Except (List Flaw) α

namespace Checked

/-- Applies a checked function; the flaws of both sides are kept. -/
def and {α β : Type} (f : Checked (α → β)) (x : Checked α) : Checked β :=
  match f, x with
  | .ok f, .ok x => .ok (f x)
  | .error e, .ok _ => .error e
  | .ok _, .error e => .error e
  | .error e, .error e' => .error (e ++ e')

/-- Refuses an input. -/
def refuse {α : Type} (complaint : Complaint) (input : Value) : Checked α :=
  .error [⟨complaint, [], input⟩]

/-- Says that a part lies behind a step. -/
def under {α : Type} (step : Step) (x : Checked α) : Checked α :=
  x.mapError fun flaws => flaws.map fun flaw => { flaw with place := step :: flaw.place }

/-- Checks the items of a list and keeps the flaws of all. -/
def items {α : Type} (check : Value → Checked α) : (i : Nat) → List Value → Checked (List α)
  | _, [] => .ok []
  | i, v :: rest => and ((under (.index i) (check v)).map List.cons) (items check (i + 1) rest)

end Checked

namespace Activity

/-- Where an activity comes from: handed over directly, or as a part of a request's body. -/
inductive Origin where
  | direct
  | body
  deriving DecidableEq, Repr

/-- The refusal of an input for a model of that name. -/
def Origin.refusal (origin : Origin) (name : String) : Complaint :=
  match origin with
  | .direct => .notModel name
  | .body => .noAttributes

/-- A text; bytes are decoded. -/
def checkText : Value → Checked String
  | .text s => .ok s
  | v@(.bytes bs) =>
    match Text.Encoding.utf8.decodeStrict false bs with
    | .ok cs => .ok (String.ofList cs)
    | .error _ => Checked.refuse .notUnicode v
  | v => Checked.refuse .notText v

/-- A text or null. -/
def checkOptional {α : Type} (check : Value → Checked α) : Value → Checked (Option α)
  | .null => .ok none
  | v => (check v).map some

/-- The items of a list, a tuple or a set. -/
def checkItems {α : Type} (check : Value → Checked α) : Value → Checked (List α)
  | .list vs | .tuple vs | .set vs => Checked.items check 0 vs
  | v => Checked.refuse .notList v

/-- Which key of an object a field is taken from: the first of its spellings that is there. -/
def usedKey? (entries : List (Scalar × Value)) (spellings : List String) : Option (String × Value) :=
  spellings.findSome? fun name => (Entries.get? (.text name) entries).map (name, ·)

/-- Reads a field of an object; the default stands for an absent one. -/
def checkField {α : Type} (entries : List (Scalar × Value)) (spellings : List String)
    (default : α) (check : Value → Checked α) : Checked α :=
  match usedKey? entries spellings with
  | some (name, v) => Checked.under (.key name) (check v)
  | none => .ok default

/-- The unknown fields of an object: all but the keys that the fields are taken from. -/
def checkExtra (entries : List (Scalar × Value)) (fields : List (List String)) :
    Checked (List (String × Value)) :=
  let used := fields.filterMap fun spellings => (usedKey? entries spellings).map Prod.fst
  let flaws := entries.filterMap fun (k, _) =>
    match k with
    | .text _ => none
    | k => some ⟨.keyNotText, [], .scalar k⟩
  if flaws.isEmpty then
    .ok (entries.filterMap fun (k, v) =>
      match k with
      | .text name => if used.contains name then none else some (name, v)
      | _ => none)
  else .error flaws

/-- The spellings of the fields of an action. -/
def actionSpellings : List (List String) :=
  [["type"], ["title"], ["value"], ["text"], ["displayText", "display_text"]]

/-- Reads an action. -/
def checkAction (origin : Origin) : Value → Checked CardAction
  | .mapping entries =>
    let text (spellings : List String) := checkField entries spellings none (checkOptional checkText)
    let made : Checked _ := .ok CardAction.mk
    (((((made.and (text ["type"])).and (text ["title"])).and
      (checkField entries ["value"] .null .ok)).and
      (text ["text"])).and
      (text ["displayText", "display_text"])).and
      (checkExtra entries actionSpellings)
  | v => Checked.refuse (origin.refusal "CardAction") v

/-- Reads the suggestions of an activity. -/
def checkSuggestions (origin : Origin) : Value → Checked SuggestedActions
  | .mapping entries =>
    let made : Checked _ := .ok SuggestedActions.mk
    ((made.and (checkField entries ["to"] [] (checkItems checkText))).and
      (checkField entries ["actions"] [] (checkItems (checkAction origin)))).and
      (checkExtra entries [["to"], ["actions"]])
  | v => Checked.refuse (origin.refusal "SuggestedActions") v

/-- The spellings of the fields of an activity. -/
def spellings : List (List String) :=
  [["type"], ["text"], ["speak"], ["locale"], ["suggestedActions", "suggested_actions"]]

/-- Reads an activity. -/
def ofValue (origin : Origin) : Value → Checked Activity
  | .mapping entries =>
    let text (name : String) := checkField entries [name] none (checkOptional checkText)
    let made : Checked _ := .ok Activity.mk
    (((((made.and (checkField entries ["type"] "message" checkText)).and (text "text")).and
      (text "speak")).and
      (text "locale")).and
      (checkField entries ["suggestedActions", "suggested_actions"] none
        (checkOptional (checkSuggestions origin)))).and
      (checkExtra entries spellings)
  | v => Checked.refuse (origin.refusal "Activity") v

end Activity

end Phrasing
