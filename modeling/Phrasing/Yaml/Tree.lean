import Phrasing.Yaml.Node

/-!
# The tree of a document

`documentOf` builds the tree of the one document that tokens spell, a token at a time, so that of several troubles
the first one in the stream counts.
-/

namespace Phrasing.Yaml

/-- Where a node stands decides which collections may start there. -/
inductive Position where
  /-- Inside of a flow collection. -/
  | flow
  /-- In a block sequence or at the start of a document. -/
  | block
  /-- After the mark of a key or a value, where a sequence needs no indentation. -/
  | member
  deriving DecidableEq, Repr

/-- The node that an anchor has named. -/
def repeated (name : String) : Reading Node := do
  match (← get).anchors.get? name with
  | some node => return node
  | none => refuse

mutual

/-- A node with its properties. -/
def node (handles : Handles) (position : Position) (levels : Nat) : (fuel : Nat) → Reading Node
  | 0 => refuse
  | fuel + 1 => do
    if let some (.aliasOf name) := ← upcoming then
      advance
      repeated name
    else
      let p ← properties
      let asked ← askedBy handles p.tag
      let next ← upcoming
      checkNew p.anchor
      let sequence (items : (levels : Nat) → Reading (List Node)) : Reading Node :=
        collect p.anchor false (nested levels items) (.sequence (asked.ofCollection .sequence))
      let mapping (entries : (levels : Nat) → Reading (List (Node × Node))) : Reading Node :=
        collect p.anchor true (nested levels entries) (.mapping (asked.ofCollection .mapping))
      match position, next with
      | _, some (.scalar plain text) => advance; keep p.anchor (.scalar (asked.ofScalar plain text) text)
      | _, some .flowSequence => advance; sequence fun levels => flowItems handles levels fuel true
      | _, some .flowMapping => advance; mapping fun levels => flowEntries handles levels fuel true
      | .member, some .blockEntry => sequence fun levels => looseItems handles levels fuel
      | .member, some .blockSequence | .block, some .blockSequence =>
        advance; sequence fun levels => blockItems handles levels fuel
      | .member, some .blockMapping | .block, some .blockMapping =>
        advance; mapping fun levels => blockEntries handles levels fuel
      | _, _ => if p = ⟨none, none⟩ then refuse else keep p.anchor (.scalar (asked.ofScalar true "") "")
termination_by structural fuel => fuel

/-- A node, or the vacant one where a token comes that no node starts with. -/
def nodeUnless (stops : List Token) (handles : Handles) (position : Position) (levels : Nat) :
    (fuel : Nat) → Reading Node
  | 0 => refuse
  | fuel + 1 => do
    if ← comes stops.contains then return Node.vacant else node handles position levels fuel
termination_by structural fuel => fuel

/-- The value of an entry, vacant where no mark of one comes. -/
def valueAfter (stops : List Token) (handles : Handles) (position : Position) (levels : Nat) :
    (fuel : Nat) → Reading Node
  | 0 => refuse
  | fuel + 1 => do
    if ← comes (· == .value) then
      advance
      nodeUnless stops handles position levels fuel
    else return Node.vacant
termination_by structural fuel => fuel

/-- The items of a block sequence and its end. -/
def blockItems (handles : Handles) (levels : Nat) : (fuel : Nat) → Reading (List Node)
  | 0 => refuse
  | fuel + 1 => do
    if ← comes (· == .blockEntry) then
      advance
      let item ← nodeUnless [.blockEntry, .blockEnd] handles .block levels fuel
      return item :: (← blockItems handles levels fuel)
    else
      pass .blockEnd
      return []
termination_by structural fuel => fuel

/-- The items of a sequence that is not indented further than the mapping around it. -/
def looseItems (handles : Handles) (levels : Nat) : (fuel : Nat) → Reading (List Node)
  | 0 => refuse
  | fuel + 1 => do
    if ← comes (· == .blockEntry) then
      advance
      let item ← nodeUnless [.blockEntry, .key, .value, .blockEnd] handles .block levels fuel
      return item :: (← looseItems handles levels fuel)
    else return []
termination_by structural fuel => fuel

/-- The entries of a block mapping and its end. -/
def blockEntries (handles : Handles) (levels : Nat) : (fuel : Nat) → Reading (List (Node × Node))
  | 0 => refuse
  | fuel + 1 => do
    if ← comes (· == .key) then
      advance
      let key ← nodeUnless [.key, .value, .blockEnd] handles .member levels fuel
      let value ← valueAfter [.key, .value, .blockEnd] handles .member levels fuel
      return (key, value) :: (← blockEntries handles levels fuel)
    else
      pass .blockEnd
      return []
termination_by structural fuel => fuel

/-- The entry of a flow collection after the mark of its key; `close` ends the collection. -/
def flowEntry (close : Token) (handles : Handles) (levels : Nat) : (fuel : Nat) → Reading (Node × Node)
  | 0 => refuse
  | fuel + 1 => do
    let key ← nodeUnless [.value, .flowEntry, close] handles .flow levels fuel
    let value ← valueAfter [.flowEntry, close] handles .flow levels fuel
    return (key, value)
termination_by structural fuel => fuel

/-- The items of a flow sequence and its end; a comma stands before every item but the `first`.  The mark of a
key makes an item a mapping of one entry. -/
def flowItems (handles : Handles) (levels : Nat) : (fuel : Nat) → (first : Bool) → Reading (List Node)
  | 0, _ => refuse
  | fuel + 1, first => do
    if !first && !(← comes (· == .flowSequenceEnd)) then pass .flowEntry
    if ← comes (· == .flowSequenceEnd) then
      advance
      return []
    else if ← comes (· == .key) then
      advance
      let entry ← nested levels fun levels => flowEntry .flowSequenceEnd handles levels fuel
      return .mapping .mapping [entry] :: (← flowItems handles levels fuel false)
    else
      let item ← node handles .flow levels fuel
      return item :: (← flowItems handles levels fuel false)
termination_by structural fuel => fuel

/-- The entries of a flow mapping and its end; a comma stands before every entry but the `first`.  An entry
without the mark of a key has no value. -/
def flowEntries (handles : Handles) (levels : Nat) :
    (fuel : Nat) → (first : Bool) → Reading (List (Node × Node))
  | 0, _ => refuse
  | fuel + 1, first => do
    if !first && !(← comes (· == .flowMappingEnd)) then pass .flowEntry
    if ← comes (· == .flowMappingEnd) then
      advance
      return []
    else if ← comes (· == .key) then
      advance
      let entry ← flowEntry .flowMappingEnd handles levels fuel
      return entry :: (← flowEntries handles levels fuel false)
    else
      let key ← node handles .flow levels fuel
      return (key, Node.vacant) :: (← flowEntries handles levels fuel false)
termination_by structural fuel => fuel

end

/-! ### Documents -/

/-- The handles that directives give.  A version is given at most once, and no handle twice. -/
def directives : (fuel : Nat) → (handles : Handles) → (hasVersion : Bool) → Reading Handles
  | 0, _, _ => refuse
  | fuel + 1, handles, hasVersion => do
    match ← upcoming with
    | some (.directive d) =>
      advance
      match d with
      | .version major => if hasVersion ∨ major ≠ 1 then refuse else directives fuel handles true
      | .handle name meaning =>
        if (handles.get? name).isSome then refuse else directives fuel (handles.put name meaning) hasVersion
      | .other => directives fuel handles hasVersion
    | _ => return handles

/-- The handles of a document, the standard ones among them unless they were given another meaning. -/
def withStandard (given : Handles) : Handles :=
  given ++ standardHandles.filter fun (name, _) => (given.get? name).isNone

/-- A token with which no content of a document starts. -/
def isBetween : Token → Bool
  | .directive _ | .documentStart | .documentEnd => true
  | _ => false

/-- The directives and the mark at the start of a document. -/
def header (fuel : Nat) : Reading Handles := do
  let given ← directives fuel [] false
  pass .documentStart
  return withStandard given

/-- The node of a document whose header was read; it may be empty. -/
def content (handles : Handles) (fuel : Nat) : Reading Node := do
  match ← upcoming with
  | none => return Node.vacant
  | some t => if isBetween t then return Node.vacant else node handles .block mostNested fuel

/-- Passes the marks at the end of a document. -/
def endMarks : (fuel : Nat) → Reading Unit
  | 0 => refuse
  | fuel + 1 => do
    if ← comes (· == .documentEnd) then
      advance
      endMarks fuel

/-- Makes sure that the stream ends here, and no other document starts. -/
def endOfStream (fuel : Nat) : Reading Unit := do
  endMarks fuel
  if (← upcoming).isSome then
    let _ ← header fuel
    refuse

/-- The node of the only document of a stream, if there is one at all. -/
def onlyDocument (fuel : Nat) : Reading (Option Node) := do
  match ← upcoming with
  | none => return none
  | some t =>
    let found ←
      if t = .documentEnd ∨ ¬ isBetween t then node standardHandles .block mostNested fuel
      else content (← header fuel) fuel
    endOfStream fuel
    return some found

/-- The node of the only document that tokens spell, if there is one at all. -/
def documentOf (run : TokenRun) : Except Trouble (Option Node) :=
  ((onlyDocument (3 * run.tokens.length + 4)).run ⟨run, []⟩).map Prod.fst

end Phrasing.Yaml
