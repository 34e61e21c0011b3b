import Phrasing.Value.Basic

/-!
# Activities

A conversational activity with the fields that matter here: its text, its speech, its locale, and the
actions suggested with it.  Every level keeps the fields it does not know under `extra`, in the order they
came.  `fields` lists what an activity holds under the keys of its written form; `toWire` leaves out what
is null.
-/

namespace Phrasing

/-- A suggested action. -/
structure CardAction where
  type : Option String
  title : Option String
  value : Value
  text : Option String
  displayText : Option String
  extra : List (String × Value)

/-- The actions suggested with an activity, and whom they are meant for. -/
structure SuggestedActions where
  recipients : List String
  actions : List CardAction
  extra : List (String × Value)

/-- An activity. -/
structure Activity where
  type : String
  text : Option String
  speak : Option String
  locale : Option String
  suggestedActions : Option SuggestedActions
  extra : List (String × Value)

/-- Which of the fields under their keys are written: all of them, or those that are not null. -/
inductive Written where
  | all
  | present

namespace Written

/-- The fields that are written, as an object. -/
def object (written : Written) (fields : List (String × Value)) : Value :=
  match written with
  | .all => .object fields
  | .present => .object (fields.filter fun (_, v) => !v.isNull)

end Written

namespace CardAction

/-- The fields of an action under their keys. -/
def fields (a : CardAction) : List (String × Value) :=
  [("type", .ofText? a.type), ("title", .ofText? a.title), ("value", a.value),
    ("text", .ofText? a.text), ("displayText", .ofText? a.displayText)] ++ a.extra

/-- An action as an object. -/
def toValue (written : Written) (a : CardAction) : Value :=
  written.object a.fields

end CardAction

namespace SuggestedActions

/-- The fields of the suggestions under their keys. -/
def fields (written : Written) (s : SuggestedActions) : List (String × Value) :=
  [("to", .texts s.recipients), ("actions", .list (s.actions.map (·.toValue written)))] ++ s.extra

/-- The suggestions as an object. -/
def toValue (written : Written) (s : SuggestedActions) : Value :=
  written.object (s.fields written)

end SuggestedActions

namespace Activity

/-- The fields of an activity under their keys. -/
def fields (written : Written) (a : Activity) : List (String × Value) :=
  [("type", .text a.type), ("text", .ofText? a.text), ("speak", .ofText? a.speak),
    ("locale", .ofText? a.locale),
    ("suggestedActions", (a.suggestedActions.map (·.toValue written)).getD .null)] ++ a.extra

/-- An activity as an object. -/
def toValue (written : Written) (a : Activity) : Value :=
  written.object (a.fields written)

/-- The written form of an activity, without the fields that are null. -/
def toWire (a : Activity) : Value :=
  a.toValue .present

/-- The actions suggested with an activity. -/
def actions (a : Activity) : List CardAction :=
  (a.suggestedActions.map (·.actions)).getD []

end Activity

end Phrasing
