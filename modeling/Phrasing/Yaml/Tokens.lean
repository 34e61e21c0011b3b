import Phrasing.Entries
import Phrasing.Yaml.BlockScalar
import Phrasing.Yaml.PlainScalar
import Phrasing.Yaml.Tag

/-!
# Reading tokens

Whether a node is the key of a mapping shows only at the colon after it.  A `Lexer` therefore remembers, for
every level of nesting in flow collections, the last place where such a key may have started, and sets the
token for the key there once the colon is found.  In block context the same colon may open a mapping, as
an entry mark may open a sequence; both close when a line starts further left.

Margins stand for indentation: contents of a block collection start at the column of its margin less one,
and the margin 0 is that of the stream itself.
-/

namespace Phrasing.Yaml

/-- A place where a key may have started. -/
structure Candidate where
  /-- How many tokens precede it. -/
  position : Nat
  /-- Nothing but a key can stand there. -/
  required : Bool
  place : Cursor
  deriving DecidableEq, Repr

/-- How far a stream is read. -/
structure Lexer where
  place : Cursor
  tokens : List Token
  /-- How many flow collections are open. -/
  flow : Nat
  margin : Nat
  /-- The margins of the block collections around the innermost one. -/
  outer : List Nat
  /-- A key may start at the next token. -/
  keyAllowed : Bool
  candidates : Entries Nat Candidate
  deriving DecidableEq, Repr

namespace Lexer

/-- Nothing is read yet. -/
def start (cs : List Char) : Lexer :=
  ⟨.start cs, [], 0, 0, [], true, []⟩

/-- Adds a token. -/
def push (t : Token) (l : Lexer) : Lexer :=
  { l with tokens := l.tokens ++ [t] }

/-- Adds a token after which reading goes on elsewhere. -/
def pushTo (t : Token) (p : Cursor) (l : Lexer) : Lexer :=
  { l.push t with place := p }

/-- Sets a token before those from a position on. -/
def insert (position : Nat) (t : Token) (l : Lexer) : Lexer :=
  { l with tokens := l.tokens.take position ++ t :: l.tokens.drop position }

/-- Whether a key may start at the next token from now on. -/
def allowKey (allowed : Bool) (l : Lexer) : Lexer :=
  { l with keyAllowed := allowed }

/-- Gives up the candidate of the current level, which must not be a required key. -/
def dropCandidate (l : Lexer) : Except Trouble Lexer :=
  match l.candidates.get? l.flow with
  | none => .ok l
  | some c => if c.required then .error .malformed else .ok { l with candidates := l.candidates.erase l.flow }

/-- Remembers the current place as a candidate if a key may start here. -/
def saveCandidate (l : Lexer) : Except Trouble Lexer :=
  if !l.keyAllowed then .ok l
  else
    l.dropCandidate.map fun l =>
      let required := l.flow == 0 && l.margin == l.place.column + 1
      { l with candidates := l.candidates.put l.flow ⟨l.tokens.length, required, l.place⟩ }

/-- A key fits on one line and in 1024 characters. -/
def isStale (p : Cursor) (c : Candidate) : Bool :=
  c.place.line != p.line || c.place.passed + 1024 < p.passed

/-- Gives up the candidates that have become stale, none of which may be required. -/
def dropStale (l : Lexer) : Except Trouble Lexer :=
  if l.candidates.any fun (_, c) => isStale l.place c && c.required then .error .malformed
  else .ok { l with candidates := l.candidates.filter fun (_, c) => !isStale l.place c }

/-- Closes the block collections whose margin is above one; `depth` bounds how many there are. -/
def closeTo (margin : Nat) : (depth : Nat) → Lexer → Lexer
  | 0, l => l
  | depth + 1, l =>
    if l.margin ≤ margin then l
    else
      closeTo margin depth { l.push .blockEnd with margin := l.outer.headD 0, outer := l.outer.tail }

/-- Closes block collections down to a margin; there are none to close inside of flow collections. -/
def unwind (margin : Nat) (l : Lexer) : Lexer :=
  if l.flow = 0 then closeTo margin (l.outer.length + 1) l else l

/-- Opens a block collection with its contents at a column, if they stand further right than those of the
innermost one; its token is set at a position. -/
def openBlock (t : Token) (position column : Nat) (l : Lexer) : Lexer :=
  if l.margin < column + 1 then
    { l.insert position t with margin := column + 1, outer := l.margin :: l.outer }
  else l

/-- Skips spaces, comments and line breaks. -/
def skipBlank : (fuel : Nat) → Lexer → Lexer
  | 0, l => l
  | fuel + 1, l =>
    let p := l.place.skipWhile (· == ' ')
    let p := if p.peek == some '#' then p.skipWhile (!isBreak ·) else p
    match p.lineBreak? with
    | some (_, p) => skipBlank fuel { l with place := p, keyAllowed := l.keyAllowed || l.flow == 0 }
    | none => { l with place := p }

/-- A mark between documents, or a directive, which ends all that is open. -/
def betweenDocuments (l : Lexer) : Except Trouble Lexer :=
  (l.unwind 0).dropCandidate.map (allowKey false)

/-- The start of a flow collection. -/
def openFlow (t : Token) (l : Lexer) : Except Trouble Lexer :=
  l.saveCandidate.map fun l => { l.pushTo t l.place.next with flow := l.flow + 1, keyAllowed := true }

/-- The end of a flow collection. -/
def closeFlow (t : Token) (l : Lexer) : Except Trouble Lexer :=
  if l.flow = 0 then .error .malformed
  else
    l.dropCandidate.map fun l => { l.pushTo t l.place.next with flow := l.flow - 1, keyAllowed := false }

/-- The mark before an entry of a block sequence or before a key, which opens a collection where none is
open at its column. -/
def blockMark (opening t : Token) (keyAfter : Bool) (l : Lexer) : Except Trouble Lexer :=
  if l.flow = 0 ∧ ¬ l.keyAllowed then .error .malformed
  else
    let l := if l.flow = 0 then l.openBlock opening l.tokens.length l.place.column else l
    (l.allowKey keyAfter).dropCandidate.map fun l => l.pushTo t l.place.next

/-- The colon before a value.  If a candidate is left, it was a key; a colon without one stands after an
explicit key. -/
def colon (l : Lexer) : Except Trouble Lexer :=
  match l.candidates.get? l.flow with
  | some c =>
    let l := { l.insert c.position .key with candidates := l.candidates.erase l.flow, keyAllowed := false }
    let l := if l.flow = 0 then l.openBlock .blockMapping c.position c.place.column else l
    .ok (l.pushTo .value l.place.next)
  | none => l.blockMark .blockMapping .value (l.flow == 0)

/-- A property of a node or a node without structure of its own, which may be a key or start one. -/
def nodePart (read : Cursor → Except Trouble (Token × Cursor)) (l : Lexer) : Except Trouble Lexer := do
  let l ← l.saveCandidate
  let (t, p) ← read l.place
  return (l.allowKey false).pushTo t p

/-- A scalar in quotes. -/
def quotedPart (quote : Char) (l : Lexer) : Except Trouble Lexer :=
  l.nodePart fun p =>
    (quotedScalar quote (p.rest.length + 1) p.next).map fun (cs, p) => (.scalar false (String.ofList cs), p)

/-- A plain scalar.  A line break after it allows a key to start. -/
def plainPart (l : Lexer) : Except Trouble Lexer :=
  l.saveCandidate.map fun l =>
    let (cs, broken, p) := plainScalar (l.flow != 0) l.margin (l.place.rest.length + 1) l.place
    (l.allowKey broken).pushTo (.scalar true (String.ofList cs)) p

/-- A block scalar. -/
def blockPart (folded : Bool) (l : Lexer) : Except Trouble Lexer := do
  let l ← (l.allowKey true).dropCandidate
  let (cs, p) ← blockScalar folded l.margin l.place.next
  return l.pushTo (.scalar false (String.ofList cs)) p

/-- Reads the next token, which starts with a character. -/
def token (c : Char) (l : Lexer) : Except Trouble Lexer := do
  let p := l.place
  let inFlow := l.flow != 0
  let alone := standsAlone (p.peekAt 1)
  let atStart := p.column == 0
  if c == '%' && atStart then
    let l ← l.betweenDocuments
    let (d, p) ← directive l.place.next
    return l.pushTo (.directive d) p
  else if atStart && p.atMark "---" then
    return (← l.betweenDocuments).pushTo .documentStart (p.skip 3)
  else if atStart && p.atMark "..." then
    return (← l.betweenDocuments).pushTo .documentEnd (p.skip 3)
  else if c == '[' then l.openFlow .flowSequence
  else if c == '\x7b' then l.openFlow .flowMapping
  else if c == ']' then l.closeFlow .flowSequenceEnd
  else if c == '\x7d' then l.closeFlow .flowMappingEnd
  else if c == ',' then return (← (l.allowKey true).dropCandidate).pushTo .flowEntry p.next
  else if c == '-' && alone then l.blockMark .blockSequence .blockEntry true
  else if c == '?' && (inFlow || alone) then l.blockMark .blockMapping .key (!inFlow)
  else if c == ':' && (inFlow || alone) then l.colon
  else if c == '*' then l.nodePart fun p => (anchorName p.next).map fun (name, p) => (.aliasOf name, p)
  else if c == '&' then l.nodePart fun p => (anchorName p.next).map fun (name, p) => (.anchor name, p)
  else if c == '!' then l.nodePart fun p => (tagSpelling p).map fun (tag, p) => (.tag tag, p)
  else if c == '|' && !inFlow then l.blockPart false
  else if c == '>' && !inFlow then l.blockPart true
  else if c == '\x27' || c == '\x22' then l.quotedPart c
  else if startsPlain inFlow p then l.plainPart
  else .error .malformed

/-- Reads on until there are more tokens, or to the end of the stream; says whether that was reached. -/
def advance (l : Lexer) : Except Trouble (Lexer × Bool) := do
  let l ← (l.skipBlank (l.place.rest.length + 1)).dropStale
  match l.place.peek with
  | none => return (← l.betweenDocuments, true)
  | some c => return (← (l.unwind (l.place.column + 1)).token c, false)

/-- How many tokens are certain: those before the first that may still turn out to start a key. -/
def certain (l : Lexer) : Nat :=
  l.candidates.foldl (fun n (_, c) => if c.required || !isStale l.place c then min n c.position else n)
    l.tokens.length

/-- Reads all tokens that are left. -/
def run : (fuel : Nat) → Lexer → TokenRun
  | 0, l => ⟨l.tokens, some .malformed⟩
  | fuel + 1, l =>
    match l.advance with
    | .error e => ⟨l.tokens.take l.certain, some e⟩
    | .ok (l, true) => ⟨l.tokens, none⟩
    | .ok (l, false) => l.run fuel

end Lexer

/-- The tokens of a stream.  A byte order mark at its start is passed over. -/
def tokensOf (cs : List Char) : TokenRun :=
  if !cs.all isReadable then ⟨[], some .malformed⟩
  else
    let l := Lexer.start cs
    let l := if l.place.peek == some '\uFEFF' then { l with place := l.place.next } else l
    l.run (2 * cs.length + 2)

end Phrasing.Yaml
