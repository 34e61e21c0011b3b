import Phrasing.Subject.Loose

/-!
# Objects in memory

An object in memory has an identity.  Two references to it lead to the same attributes, so an action that is
suggested twice is searched twice, and filled in twice.  An attribute may also refuse to be written to, as those of an
immutable object do; one that would be left as it is is not written to at all.
-/

namespace Phrasing

/-- What an attribute holds: a value, which has no attributes that are looked at; an object; or a collection. -/
inductive Held where
  | value (v : Value)
  | object (id : Nat)
  | items (typeName : String) (members : List Held)

/-- An attribute of an object. -/
structure Attribute where
  held : Held
  /-- What an attempt to write to it ends in, if it refuses. -/
  refusal : Option Mishap

/-- An attribute of an object by its name, be it there or not. -/
structure Place where
  id : Nat
  name : String
  deriving DecidableEq, Repr

/-- Objects by their identities: their kinds, and the attributes that they have. -/
structure Memory where
  typeName : Nat → String
  attribute? : Place → Option Attribute

/-- What counts as nothing given: a vacant value or an empty collection. -/
def Held.isVacant : Held → Bool
  | .value v => v.isVacant
  | .object _ => false
  | .items _ members => members.isEmpty

namespace Memory

/-- What is held at a place. -/
def held? (m : Memory) (p : Place) : Option Held :=
  (m.attribute? p).map (·.held)

/-- The word for the kind of what is held. -/
def typeNameOf (m : Memory) : Held → String
  | .value v => v.typeName
  | .object id => m.typeName id
  | .items typeName _ => typeName

/-- The text at a place, if there is one; what is vacant or absent counts as none. -/
def textAt (m : Memory) (p : Place) : Except Mishap (Option String) :=
  match m.held? p with
  | none => .ok none
  | some held =>
    if held.isVacant then .ok none
    else match held with
      | .value (.text s) => .ok (some s)
      | .value (.bytes _) => .error .bytesSearched
      | held => .error (.notSearchable (m.typeNameOf held))

/-- The references at a place. -/
def namesAt (m : Memory) (p : Place) : Except Mishap (List String) := do
  let text ← m.textAt p
  return Reference.namesIn text

/-- The members of what stands where actions are expected; what is vacant or absent has none. -/
def members (m : Memory) : Option Held → Except Mishap (List Held)
  | none => .ok []
  | some (.value v) => if v.isVacant then .ok [] else (Loose.actionItems v).map (·.map .value)
  | some (.object id) => .error (.notIterable (m.typeName id))
  | some (.items _ members) => .ok members

/-- The actions suggested with an object. -/
def actions (m : Memory) (root : Nat) : Except Mishap (List Held) :=
  match m.held? ⟨root, "suggested_actions"⟩ with
  | some (.object suggested) => m.members (m.held? ⟨suggested, "actions"⟩)
  | _ => .ok []

/-- The places of an action that may hold references, that of its text first. -/
def actionPlaces : Held → List Place
  | .object id => [⟨id, "text"⟩, ⟨id, "display_text"⟩]
  | _ => []

/-- The places in a part of an object, in the order they are visited. -/
def placesIn (m : Memory) (root : Nat) : Part → Except Mishap (List Place)
  | .text => .ok [⟨root, "text"⟩]
  | .speech => .ok [⟨root, "speak"⟩]
  | .actions => do
    let found ← m.actions root
    return found.flatMap actionPlaces

/-- The references in a part of an object, repeats included. -/
def referencesIn (m : Memory) (root : Nat) (part : Part) : Except Mishap (List String) := do
  let places ← m.placesIn root part
  let names ← places.mapM m.namesAt
  return names.flatten

/-- The distinct references of an object. -/
def references (m : Memory) (root : Nat) : Except Mishap (List String) := do
  let names ← Part.all.mapM (m.referencesIn root)
  return distinct names.flatten

/-- Writes to an attribute that is there, unless it refuses. -/
def write (m : Memory) (p : Place) (new : Held) : Edit Memory :=
  match (m.attribute? p).bind (·.refusal) with
  | some mishap => (m, some mishap)
  | none =>
    ({ m with attribute? := fun q =>
        if q = p then (m.attribute? q).map fun a => { a with held := new } else m.attribute? q }, none)

/-- Fills in the references at a place.  With nothing to fill in, what it holds is not looked at; and it is written to
only if its text becomes another one. -/
def fillPlace (table : Reference.Table) (m : Memory) (p : Place) : Edit Memory :=
  if table.isEmpty then (m, none)
  else match m.textAt p with
    | .error mishap => (m, some mishap)
    | .ok none => (m, none)
    | .ok (some s) =>
      let filled := Reference.fill table s
      if filled = s then (m, none) else m.write p (.value (.text filled))

/-- Fills in the references at one place after another. -/
def fillPlaces (table : Reference.Table) (m : Memory) (places : List Place) : Edit Memory :=
  places.foldl (fun e p => Edit.andThen e (fillPlace table · p)) (m, none)

/-- Fills in the references in a part of an object. -/
def fillPart (table : Reference.Table) (m : Memory) (root : Nat) (part : Part) : Edit Memory :=
  match m.placesIn root part with
  | .error mishap => (m, some mishap)
  | .ok places => fillPlaces table m places

/-- The attributes that are looked at. -/
def shownAttributes : List String :=
  ["text", "speak", "locale", "suggested_actions", "actions", "display_text"]

/-- What is held, as a value: objects with the attributes that are looked at, down to some level. -/
def shown (m : Memory) : Nat → Held → Value
  | 0, _ => .record []
  | _ + 1, .value v => v
  | level + 1, .object id => .record (shownAttributes.filterMap fun name =>
      (m.held? ⟨id, name⟩).map fun held => (name, m.shown level held))
  | level + 1, .items _ members => .list (members.map (m.shown level))

end Memory

end Phrasing
