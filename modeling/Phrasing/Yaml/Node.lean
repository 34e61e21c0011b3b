import Phrasing.Entries
import Phrasing.Yaml.NodeType
import Phrasing.Yaml.Token

/-!
# Nodes

A document is a tree of nodes, each with its type.  A node may repeat one that an anchor has named before; where
that is a collection around the repetition itself, an `enclosing` node stands for it.

Nodes are read off tokens by a `Reading`, which meets the trouble at the end of the tokens only when it looks
there.
-/

namespace Phrasing.Yaml

/-- A node. -/
inductive Node where
  | scalar (type : NodeType) (text : String)
  | sequence (type : NodeType) (items : List Node)
  | mapping (type : NodeType) (entries : List (Node × Node))
  /-- The sequence or mapping around this node to which its alias refers. -/
  | enclosing (isMapping : Bool)

namespace Node

/-- Where nothing is written, null stands. -/
def vacant : Node := .scalar .null ""

/-- The type of a node, if it has one of its own. -/
def type? : Node → Option NodeType
  | .scalar type _ | .sequence type _ | .mapping type _ => some type
  | .enclosing _ => none

end Node

/-- The tokens that are left, and the nodes under the anchors so far. -/
structure Remaining where
  run : TokenRun
  anchors : Entries String Node

/-- Reads something off tokens. -/
abbrev Reading := StateT Remaining (Except Trouble)

/-- The token that comes next, nothing at the end of the stream. -/
def upcoming : Reading (Option Token) := do
  match (← get).run with
  | ⟨t :: _, _⟩ => return some t
  | ⟨[], some e⟩ => throw e
  | ⟨[], none⟩ => return none

/-- Goes on after the next token. -/
def advance : Reading Unit :=
  modify fun r => { r with run := { r.run with tokens := r.run.tokens.tail } }

/-- A token comes that satisfies a condition. -/
def comes (condition : Token → Bool) : Reading Bool :=
  return (← upcoming).any condition

/-- Refuses the tokens. -/
def refuse {α : Type} : Reading α := throw .malformed

/-- Passes one certain token. -/
def pass (t : Token) : Reading Unit := do
  if ← comes (· == t) then advance else refuse

/-! ### Properties -/

/-- The anchor and the tag of a node as written. -/
structure Properties where
  anchor : Option String
  tag : Option TagSpelling
  deriving DecidableEq, Repr

/-- An anchor, if one comes. -/
def anchor? : Reading (Option String) := do
  match ← upcoming with
  | some (.anchor name) => advance; return some name
  | _ => return none

/-- A tag, if one comes. -/
def tag? : Reading (Option TagSpelling) := do
  match ← upcoming with
  | some (.tag spelling) => advance; return some spelling
  | _ => return none

/-- The properties at the start of a node, in either order. -/
def properties : Reading Properties := do
  match ← anchor? with
  | some name => return ⟨some name, ← tag?⟩
  | none =>
    match ← tag? with
    | some spelling => return ⟨← anchor?, some spelling⟩
    | none => return ⟨none, none⟩

/-- What the handles of tags stand for in a document. -/
abbrev Handles := Entries String String

/-- The handles that need no directive. -/
def standardHandles : Handles := [("!", "!"), ("!!", "tag:yaml.org,2002:")]

/-- The name that a tag spells. -/
def tagOf (handles : Handles) (spelling : TagSpelling) : Except Trouble String :=
  match spelling.handle with
  | none => .ok spelling.rest
  | some handle =>
    match handles.get? handle with
    | some start => .ok (start ++ spelling.rest)
    | none => .error .malformed

/-- What a tag says of the type of its node. -/
inductive Asked where
  /-- There is no tag. -/
  | nothing
  /-- The type follows from the spelling alone, whatever the quotes. -/
  | spelled
  | type (t : NodeType)
  deriving DecidableEq, Repr

/-- What a tag asks for. -/
def askedBy (handles : Handles) : Option TagSpelling → Except Trouble Asked
  | none => .ok .nothing
  | some spelling => (tagOf handles spelling).map fun tag =>
    if tag = "!" then .spelled else .type (.ofTag tag)

/-- The type of a scalar. -/
def Asked.ofScalar (plain : Bool) (text : String) : Asked → NodeType
  | .type t => t
  | .spelled => .ofPlain text.toList
  | .nothing => if plain then .ofPlain text.toList else .text

/-- The type of a collection. -/
def Asked.ofCollection (usual : NodeType) : Asked → NodeType
  | .type t => t
  | _ => usual

/-! ### Anchors -/

/-- Keeps a node under its anchor, if it has one. -/
def keep (anchor : Option String) (node : Node) : Reading Node := do
  if let some name := anchor then
    modify fun r => { r with anchors := r.anchors.put name node }
  return node

/-- Refuses an anchor that names a node already. -/
def checkNew (anchor : Option String) : Reading Unit := do
  if let some name := anchor then
    if ((← get).anchors.get? name).isSome then refuse

/-- A collection, whose parts may already refer to it. -/
def collect {α : Type} (anchor : Option String) (isMapping : Bool) (parts : Reading α) (whole : α → Node) :
    Reading Node := do
  let _ ← keep anchor (.enclosing isMapping)
  let parts ← parts
  keep anchor (whole parts)

/-! ### Depth -/

/-- The most collections that may stand in each other. -/
def mostNested : Nat := 488

/-- Reads the parts of a collection, where so many more collections may stand in each other. -/
def nested {α : Type} (levels : Nat) (parts : (levels : Nat) → Reading α) : Reading α :=
  match levels with
  | 0 => throw (.mishap (.tooDeep ""))
  | levels + 1 => parts levels

end Phrasing.Yaml
