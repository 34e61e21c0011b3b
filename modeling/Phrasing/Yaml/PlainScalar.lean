import Phrasing.Yaml.Cursor

/-!
# Plain scalars

A plain scalar has no quotes.  It ends where a mark of the surrounding structure follows, at a comment,
and, outside of flow collections, at a line that is not indented enough.  Its lines are folded into one.
-/

namespace Phrasing.Yaml

/-- A mark of flow collections. -/
def isFlowMark (c : Char) : Bool :=
  c == ',' || c == '[' || c == ']' || c == '\x7b' || c == '\x7d'

/-- A plain scalar may start here. -/
def startsPlain (inFlow : Bool) (p : Cursor) : Bool :=
  match p.peek with
  | none => false
  | some c =>
    !(standsAlone (some c) || "-?:,[]\x7b\x7d#&*!|>'\"%@\x60".toList.contains c) ||
      (!standsAlone (p.peekAt 1) && (c == '-' || (!inFlow && (c == '?' || c == ':'))))

/-- The length of the next word of a plain scalar. -/
def wordLength (inFlow : Bool) : List Char → Nat
  | [] => 0
  | c :: rest =>
    let next := rest.head?
    if standsAlone (some c) || (c == ':' && (standsAlone next || (inFlow && next.any isFlowMark))) ||
        (inFlow && (c == '?' || isFlowMark c)) then 0
    else 1 + wordLength inFlow rest

/-- The breaks of the blank lines that come next, and the place after the indentation of the first other
line; no breaks at all where a mark between documents comes. -/
def blankLines : (fuel : Nat) → Cursor → Option (List Char) × Cursor
  | 0, p => (some [], p)
  | fuel + 1, p =>
    let p := p.skipWhile (· == ' ')
    match p.lineBreak? with
    | none => (some [], p)
    | some (b, p) =>
      if p.atDocumentMark then (none, p)
      else
        let (bs, p) := blankLines fuel p
        (bs.map (b :: ·), p)

/-- What lies between two words of a plain scalar, whether that includes a line break, and the place
after it.  Nothing lies before what cannot continue the scalar. -/
def gapAfterWord (p : Cursor) : List Char × Bool × Cursor :=
  let (spaces, p) := p.span (· == ' ')
  match p.lineBreak? with
  | none => (spaces, false, p)
  | some (b, p) =>
    if p.atDocumentMark then ([], true, p)
    else
      match blankLines (p.rest.length + 1) p with
      | (none, p) => ([], true, p)
      | (some bs, p) => (foldBreaks b bs, true, p)

/-- The text of a plain scalar, whether a line break was passed after it, and the place after it.  Outside
of flow collections its lines start at column `margin` or further right. -/
def plainScalar (inFlow : Bool) (margin : Nat) : (fuel : Nat) → Cursor → List Char × Bool × Cursor
  | 0, p => ([], false, p)
  | fuel + 1, p =>
    let length := wordLength inFlow p.rest
    let word := p.rest.take length
    let (gap, broken, p) := gapAfterWord (p.skip length)
    if gap.isEmpty || p.peek == some '#' || (!inFlow && p.column < margin) || wordLength inFlow p.rest == 0 then
      (word, broken, p)
    else
      let (more, broken, p) := plainScalar inFlow margin fuel p
      (word ++ gap ++ more, broken, p)

end Phrasing.Yaml
