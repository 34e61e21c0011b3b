import Phrasing.Value.Same
import Phrasing.Yaml.Scalar
import Phrasing.Yaml.Tokens
import Phrasing.Yaml.Tree

/-!
# Loading documents

`load` reads the one document of a stream as a value.  A mapping takes in the entries of the mappings under
its merge keys, where its own entries win, as does the last of equal keys.  Keys are scalars.  A collection that is
repeated inside itself has no value of finite depth; where it is repeated, a collection of its kind with one null stands
for it.

The nodes of a document are loaded level by level, from its root down, so of several troubles the one nearest
to the root counts.  A `Setback` keeps its level for this.
-/

namespace Phrasing.Yaml

/-- A trouble and the level on which it is met. -/
structure Setback where
  level : Nat
  trouble : Trouble
  deriving DecidableEq, Repr

/-- The first of two setbacks to be met. -/
def Setback.earlier (a b : Setback) : Setback :=
  if b.level < a.level then b else a

/-- What loading on some level yields. -/
abbrev Loaded (α : Type) := Except Setback α

/-- A trouble on a level. -/
def onLevel {α : Type} (level : Nat) (x : Except Trouble α) : Loaded α :=
  x.mapError (⟨level, ·⟩)

/-- Both results, or the setback that is met first. -/
def both {α β : Type} : Loaded α → Loaded β → Loaded (α × β)
  | .ok a, .ok b => .ok (a, b)
  | .error e, .ok _ => .error e
  | .ok _, .error e => .error e
  | .error e, .error f => .error (e.earlier f)

/-- Writes an entry into a mapping.  A key that is there already keeps its place and its spelling. -/
def putSame (key : Scalar) (v : Value) : List (Scalar × Value) → List (Scalar × Value)
  | [] => [(key, v)]
  | (k, w) :: rest => if k.same key then (k, v) :: rest else (k, w) :: putSame key v rest

/-- The mapping that results from entries written one after another. -/
def mappingOf (entries : List (Scalar × Value)) : List (Scalar × Value) :=
  entries.foldl (fun found (k, v) => putSame k v found) []

/-- The value under the key for a main value, if a mapping has one. -/
def mainValue? (entries : List (Node × Node)) : Option Node :=
  (entries.find? fun (key, _) => key.type? = some .mainValue).map Prod.snd

/-- A key under which other mappings are merged. -/
def isMergeKey (key : Node) : Bool := key.type? == some .merge

/-- The text of a node that stands for a scalar; `depth` bounds how deep it is nested. -/
def scalarText? : (depth : Nat) → Node → Option String
  | 0, _ => none
  | _ + 1, .scalar _ s => some s
  | depth + 1, .mapping _ entries => (mainValue? entries).bind (scalarText? depth)
  | _ + 1, _ => none

mutual

/-- How deep a node is nested. -/
def depth : Node → Nat
  | .scalar _ _ | .enclosing _ => 1
  | .sequence _ items => 1 + depthOfItems items
  | .mapping _ entries => 1 + depthOfEntries entries

/-- How deep the deepest of some nodes is nested. -/
def depthOfItems : List Node → Nat
  | [] => 0
  | n :: rest => max (depth n) (depthOfItems rest)

/-- How deep the deepest node of some entries is nested. -/
def depthOfEntries : List (Node × Node) → Nat
  | [] => 0
  | (k, v) :: rest => max (depth k) (max (depth v) (depthOfEntries rest))

end

mutual

/-- What stands under the merge keys of a mapping can be merged. -/
def mergesFit : List (Node × Node) → Bool
  | [] => true
  | (k, v) :: rest => (!isMergeKey k || fitsMerge v) && mergesFit rest

/-- A mapping, or a sequence of mappings, can be merged. -/
def fitsMerge : Node → Bool
  | .mapping _ entries => mergesFit entries
  | .sequence _ items => mappingsFit items
  | .scalar _ _ => false
  | .enclosing _ => true

/-- All nodes are mappings that can be merged. -/
def mappingsFit : List Node → Bool
  | [] => true
  | .mapping _ entries :: rest => mergesFit entries && mappingsFit rest
  | .enclosing true :: rest => mappingsFit rest
  | _ => false

end

mutual

/-- The value of a node that is met on a level.  The parts of a collection are met on the next one. -/
def valueOf (level : Nat) : Node → Loaded Value
  | .scalar type s => match type with
    | .sequence | .mapping | .set | .orderedMapping | .pairs => .error ⟨level + 1, .malformed⟩
    | type => onLevel level (scalarValue type s)
  | .enclosing isMapping => .ok (if isMapping then .mapping [(.null, .null)] else .list [.null])
  | .sequence type items => match type with
    | .sequence => (valuesOf (level + 1) items).map .list
    | .orderedMapping | .pairs => (pairsOf (level + 1) items).map .list
    | .mapping | .set => .error ⟨level + 1, .malformed⟩
    | _ => .error ⟨level, .malformed⟩
  | .mapping type entries => match type with
    | .mapping => (allEntries (level + 1) entries).map fun es => .mapping (mappingOf es)
    | .set => (allEntries (level + 1) entries).map fun es => .set ((mappingOf es).map fun (k, _) => .scalar k)
    | .sequence | .orderedMapping | .pairs => .error ⟨level + 1, .malformed⟩
    | type =>
      match scalarText? (depth (.mapping type entries)) (.mapping type entries) with
      | some s => onLevel level (if type = .time then .error (.mishap (.notSearchable "list")) else scalarValue type s)
      | none => .error ⟨level, .malformed⟩

/-- The values of nodes that are met on a level. -/
def valuesOf (level : Nat) : List Node → Loaded (List Value)
  | [] => .ok []
  | n :: rest => (both (valueOf level n) (valuesOf level rest)).map fun (v, vs) => v :: vs

/-- The pairs that mappings of one entry each stand for. -/
def pairsOf (level : Nat) : List Node → Loaded (List Value)
  | [] => .ok []
  | .mapping _ [(k, v)] :: rest =>
    (both (both (valueOf level k) (valueOf level v)) (pairsOf level rest)).map
      fun ((k, v), vs) => .tuple [k, v] :: vs
  | _ => .error ⟨level, .malformed⟩

/-- The entries of a mapping, those that it takes in first. -/
def allEntries (level : Nat) (entries : List (Node × Node)) : Loaded (List (Scalar × Value)) :=
  if mergesFit entries then
    (both (mergedEntries level entries) (ownEntries level entries)).map fun (es, fs) => es ++ fs
  else .error ⟨level, .malformed⟩

/-- The entries that stand in a mapping itself. -/
def ownEntries (level : Nat) : List (Node × Node) → Loaded (List (Scalar × Value))
  | [] => .ok []
  | (k, v) :: rest =>
    if isMergeKey k then ownEntries level rest
    else (both (both (keyOf level k) (valueOf level v)) (ownEntries level rest)).map fun (e, es) => e :: es

/-- The key that a node stands for, which must be a scalar; one with the type of a main value is a text. -/
def keyOf (level : Nat) (k : Node) : Loaded Scalar :=
  if k.type? = some .mainValue then
    match scalarText? (depth k) k with
    | some s => .ok (.text s)
    | none => .error ⟨level, .malformed⟩
  else
    match valueOf level k with
    | .ok (.scalar s) => .ok s
    | .ok _ => .error ⟨level, .malformed⟩
    | .error e => .error (if e.level = level then e else ⟨level, .malformed⟩)

/-- The entries that stand under the merge keys of a mapping. -/
def mergedEntries (level : Nat) : List (Node × Node) → Loaded (List (Scalar × Value))
  | [] => .ok []
  | (k, v) :: rest =>
    if isMergeKey k then (both (entriesToMerge level v) (mergedEntries level rest)).map fun (es, fs) => es ++ fs
    else mergedEntries level rest

/-- The entries of a mapping, or of a sequence of mappings, of which the first win. -/
def entriesToMerge (level : Nat) : Node → Loaded (List (Scalar × Value))
  | .mapping _ entries =>
    (both (mergedEntries level entries) (ownEntries level entries)).map fun (es, fs) => es ++ fs
  | .sequence _ items => entriesOfItems level items
  | _ => .ok []

/-- The entries of mappings, the last mapping first. -/
def entriesOfItems (level : Nat) : List Node → Loaded (List (Scalar × Value))
  | [] => .ok []
  | n :: rest => (both (entriesOfItems level rest) (entriesToMerge level n)).map fun (es, fs) => es ++ fs

end

/-- Reads the one document of a stream; an empty stream stands for null. -/
def load (cs : List Char) : Except Trouble Value := do
  match ← documentOf (tokensOf cs) with
  | none => return .null
  | some node => (valueOf 0 node).mapError (·.trouble)

end Phrasing.Yaml
