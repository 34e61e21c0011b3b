import Phrasing.Subject.Memory

/-!
# Subjects

What a call resolves is an activity, or any object that has the attributes of one under their plain names.  The
parts of an activity and of a loose object belong to them alone; those of an object in memory may be shared and may
refuse to be written to.
-/

namespace Phrasing

/-- What a call resolves. -/
inductive Subject where
  | activity (a : Activity)
  | loose (v : Value)
  /-- An object in memory. -/
  | object (m : Memory) (root : Nat)

namespace Subject

/-- The references in a part of a subject, repeats included. -/
def referencesIn (part : Part) : Subject → Except Mishap (List String)
  | .activity a => .ok (a.referencesIn part)
  | .loose v => Loose.referencesIn v part
  | .object m root => m.referencesIn root part

/-- The distinct references of a subject, in the order they are first seen. -/
def references : Subject → Except Mishap (List String)
  | .activity a => .ok a.references
  | .loose v => Loose.references v
  | .object m root => m.references root

/-- Fills in the references in a part of a subject. -/
def fillPart (table : Reference.Table) (subject : Subject) (part : Part) : Edit Subject :=
  match subject with
  | .activity a => (.activity (a.fillPart table part), none)
  | .loose v => let (v, stopped) := Loose.fillPart table v part; (.loose v, stopped)
  | .object m root => let (m, stopped) := m.fillPart table root part; (.object m root, stopped)

/-- Fills in the references of a subject, part by part. -/
def fill (table : Reference.Table) (subject : Subject) : Edit Subject :=
  Part.all.foldl (fun e part => Edit.andThen e (fillPart table · part)) (subject, none)

/-- The locale of a subject, null if it has none. -/
def locale : Subject → Value
  | .activity a => .ofText? a.locale
  | .loose v => (v.attribute? "locale").getD .null
  | .object m root => ((m.held? ⟨root, "locale"⟩).map (m.shown Value.mostLevels)).getD .null

/-- All that a subject holds, as a value. -/
def toValue : Subject → Value
  | .activity a => a.toValue .all
  | .loose v => v
  | .object m root => m.shown Value.mostLevels (.object root)

end Subject

end Phrasing
