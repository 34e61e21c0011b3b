import Phrasing.Wire

/-!
# Generation requests and responses

A generation request asks for the phrase of one template.  All requests of a call share their scenario,
locale and slots; a slot is an entity under its name with its wire value.  A response reports a template
and, if the service produced any output, the text to display.
-/

namespace Phrasing

/-- An entity as the service gets it. -/
structure Slot where
  name : Scalar
  value : WireValue
  deriving DecidableEq, Repr

namespace Slot

/-- The slots of entities, in their order, or the first entity without a wire form. -/
def ofEntries : List (Scalar × Value) → Except Fault (List Slot)
  | [] => .ok []
  | (name, v) :: rest => do
    let value ← WireValue.encode v
    let rest ← ofEntries rest
    return ⟨name, value⟩ :: rest

/-- The slots of a mapping of entities; a vacant value has none. -/
def ofEntities (entities : Value) : Except Fault (List Slot) :=
  if entities.isVacant then .ok []
  else match entities with
    | .mapping entries => ofEntries entries
    | v => .error (.mishap (.noAttribute v.typeName "items"))

/-- Slots as the object that is sent. -/
def toWire (slots : List Slot) : Value :=
  .mapping (slots.map fun s => (s.name, s.value.toWire))

end Slot

/-- A request for the phrase of one template. -/
structure GenerationRequest where
  scenario : Value
  template : String
  locale : Value
  slots : List Slot

namespace GenerationRequest

/-- One request for every reference. -/
def forReferences (scenario locale : Value) (slots : List Slot) (references : List String) :
    List GenerationRequest :=
  references.map fun template => ⟨scenario, template, locale, slots⟩

/-- The fields of a request that is sent; a vacant locale is left out. -/
def fields (r : GenerationRequest) : List (String × Value) :=
  [("scenario", r.scenario), ("templateId", .text r.template), ("slots", Slot.toWire r.slots)] ++
    (if r.locale.isVacant then [] else [("locale", r.locale)])

/-- A request as the object that is sent. -/
def payload (r : GenerationRequest) : Value :=
  .object r.fields

end GenerationRequest

/-- What the service answers about a template. -/
structure GenerationResponse where
  /-- The template as the service reports it, null if it does not. -/
  template : Value
  displayText : Option String

namespace GenerationResponse

/-- A response that reports a template and a text. -/
def isResolved (r : GenerationResponse) : Bool :=
  !r.template.isNull && r.displayText.isSome

/-- The written text to display in the output of a response, null if there is none. -/
def displayValue (data : Value) : Value :=
  (data.getD "Outputs").getD "DisplayText"

/-- Reads a response from a document of any make. -/
def ofValue (data : Value) : Except Fault GenerationResponse :=
  match displayValue data with
  | .null => .ok ⟨data.getD "templateId", none⟩
  | written => (WireValue.decode written).map fun text => ⟨data.getD "templateId", some text⟩

end GenerationResponse

end Phrasing
