import Phrasing.Activity.References
import Phrasing.Fault
import Phrasing.Value.Display

/-!
# Loose objects

Any object that has the attributes of an activity under their plain names can be searched for references.
Such a loose object may lack attributes or hold anything in them, so looking through it can fail, and
filling it in can fail after part of it is already written; filling in therefore yields the object as it is
left together with the mishap, if there was one.  The parts of a loose object belong to it alone, and all of its
attributes can be written to.
-/

namespace Phrasing

/-- What is left of an object after it was written to, and what stopped the writing. -/
abbrev Edit (α : Type) := α × Option Mishap

namespace Edit

/-- Goes on writing unless something stopped it. -/
def andThen {α : Type} (e : Edit α) (next : α → Edit α) : Edit α :=
  match e with
  | (a, none) => next a
  | stopped => stopped

end Edit

namespace Loose

/-- The references in an attribute; one that is vacant or absent has none. -/
def namesIn (held : Option Value) : Except Mishap (List String) :=
  match held with
  | none => .ok []
  | some v =>
    if v.isVacant then .ok []
    else match v with
      | .text s => .ok (Reference.names s)
      | .bytes _ => .error .bytesSearched
      | v => .error (.notSearchable v.typeName)

/-- The items of what stands where actions are expected.  Items of texts, bytes and mappings have no
attributes, so they count as none. -/
def actionItems : Value → Except Mishap (List Value)
  | .list items | .tuple items | .set items => .ok items
  | .text _ | .bytes _ | .mapping _ => .ok []
  | v => .error (.notIterable v.typeName)

/-- The suggested actions of a loose object. -/
def actions (v : Value) : Except Mishap (List Value) :=
  match (v.attribute? "suggested_actions").bind (·.attribute? "actions") with
  | none => .ok []
  | some found => if found.isVacant then .ok [] else actionItems found

/-- The references of an action, those of its text first. -/
def actionReferences (action : Value) : Except Mishap (List String) := do
  let text ← namesIn (action.attribute? "text")
  let displayText ← namesIn (action.attribute? "display_text")
  return text ++ displayText

/-- The references in a part of a loose object, repeats included. -/
def referencesIn (v : Value) : Part → Except Mishap (List String)
  | .text => namesIn (v.attribute? "text")
  | .speech => namesIn (v.attribute? "speak")
  | .actions => do
    let found ← actions v
    let names ← found.mapM actionReferences
    return names.flatten

/-- The distinct references of a loose object. -/
def references (v : Value) : Except Mishap (List String) := do
  let names ← Part.all.mapM (referencesIn v)
  return distinct names.flatten

/-- Writes an attribute that is there. -/
def setAttribute (name : String) (new : Value) : Value → Value
  | .record attributes => .record (Entries.put name new attributes)
  | v => v

/-- Fills in the references in an attribute.  With nothing to fill in, what it holds is not looked at. -/
def fillAttribute (table : Reference.Table) (name : String) (v : Value) : Edit Value :=
  match v.attribute? name with
  | none => (v, none)
  | some old =>
    if old.isVacant || table.isEmpty then (v, none)
    else match old with
      | .text s => (setAttribute name (.text (Reference.fill table s)) v, none)
      | .bytes _ => (v, some .bytesSearched)
      | old => (v, some (.notSearchable old.typeName))

/-- Fills in the references of an action. -/
def fillAction (table : Reference.Table) (action : Value) : Edit Value :=
  Edit.andThen (fillAttribute table "text" action) (fillAttribute table "display_text")

/-- Fills in the references of actions one after another. -/
def fillItems (table : Reference.Table) : List Value → Edit (List Value)
  | [] => ([], none)
  | action :: rest =>
    match fillAction table action with
    | (action, none) =>
      let (rest, stopped) := fillItems table rest
      (action :: rest, stopped)
    | (action, stopped) => (action :: rest, stopped)

/-- Fills in the references of what stands where actions are expected. -/
def fillActionItems (table : Reference.Table) (v : Value) : Edit Value :=
  if v.isVacant then (v, none)
  else match v with
    | .list items => let (items, stopped) := fillItems table items; (.list items, stopped)
    | .tuple items => let (items, stopped) := fillItems table items; (.tuple items, stopped)
    | .set items => let (items, stopped) := fillItems table items; (.set items, stopped)
    | .text _ | .bytes _ | .mapping _ => (v, none)
    | v => (v, some (.notIterable v.typeName))

/-- Fills in the references of the suggested actions of a loose object. -/
def fillActions (table : Reference.Table) (v : Value) : Edit Value :=
  match v.attribute? "suggested_actions" with
  | none => (v, none)
  | some suggested =>
    match suggested.attribute? "actions" with
    | none => (v, none)
    | some found =>
      let (found, stopped) := fillActionItems table found
      (setAttribute "suggested_actions" (setAttribute "actions" found suggested) v, stopped)

/-- Fills in the references in a part of a loose object. -/
def fillPart (table : Reference.Table) (v : Value) : Part → Edit Value
  | .text => fillAttribute table "text" v
  | .speech => fillAttribute table "speak" v
  | .actions => fillActions table v

end Loose

end Phrasing
