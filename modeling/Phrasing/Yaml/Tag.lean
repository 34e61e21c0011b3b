import Phrasing.Number.Integer
import Phrasing.Text.Encoding
import Phrasing.Yaml.QuotedScalar

/-!
# Tags and directives

A tag names the type of a node.  It is written out between angle brackets, or as the rest of a name after
a handle that stands for its start; in names a percent sign and two hexadecimal digits stand for a byte of
UTF-8.  A directive before a document gives a version or the meaning of a handle.
-/

namespace Phrasing.Yaml

/-- A character of the names of tags. -/
def isTagChar (c : Char) : Bool :=
  c.isAlphanum || "-;/?:@&=+$,_.!~*'()[]%".toList.contains c

/-- The bytes that come next, each a percent sign with two digits, and the place after them. -/
def percentBytes : (fuel : Nat) → Cursor → Except Trouble (List UInt8 × Cursor)
  | 0, p => .ok ([], p)
  | fuel + 1, p =>
    if p.peek ≠ some '%' then .ok ([], p)
    else
      match hexNumber? 2 p.next.rest with
      | none => .error .malformed
      | some n => (percentBytes fuel (p.skip 3)).map fun (bs, p) => (UInt8.ofNat n :: bs, p)

/-- The characters of a tag's name that come next, and the place after them. -/
def tagChars : (fuel : Nat) → Cursor → Except Trouble (List Char × Cursor)
  | 0, p => .ok ([], p)
  | fuel + 1, p =>
    match p.peek with
    | none => .ok ([], p)
    | some c =>
      if c == '%' then
        match percentBytes (p.rest.length + 1) p with
        | .error e => .error e
        | .ok (bytes, p) =>
          match Text.Encoding.utf8.decodeStrict false bytes with
          | .error _ => .error .malformed
          | .ok cs => (tagChars fuel p).map fun (more, p) => (cs ++ more, p)
      else if isTagChar c then (tagChars fuel p.next).map fun (more, p) => (c :: more, p)
      else .ok ([], p)

/-- The name of a tag, which takes up at least one character, and the place after it. -/
def tagName (p : Cursor) : Except Trouble (String × Cursor) :=
  match p.peek with
  | none => .error .malformed
  | some c =>
    if isTagChar c then (tagChars (p.rest.length + 1) p).map fun (cs, p) => (String.ofList cs, p)
    else .error .malformed

/-- A handle: an exclamation mark alone, or a name between two of them. -/
def tagHandle (p : Cursor) : Except Trouble (String × Cursor) :=
  if p.peek ≠ some '!' then .error .malformed
  else if p.peekAt 1 == some ' ' then .ok ("!", p.next)
  else
    let (name, after) := p.next.span isNameChar
    if after.peek == some '!' then .ok (String.ofList ('!' :: name ++ ['!']), after.next)
    else .error .malformed

/-- A tag at its exclamation mark, and the place after it. -/
def tagSpelling (p : Cursor) : Except Trouble (TagSpelling × Cursor) := do
  let (spelling, p) ← (show Except Trouble (TagSpelling × Cursor) from
    if p.peekAt 1 == some '<' then do
      let (name, p) ← tagName (p.skip 2)
      if p.peek == some '>' then return (⟨none, name⟩, p.next) else .error .malformed
    else if standsAlone (p.peekAt 1) then return (⟨none, "!"⟩, p.next)
    else do
      -- A second exclamation mark before the word ends belongs to a handle.
      let word := p.next.rest.takeWhile fun c => !endsWord (some c)
      let (handle, p) ← if word.contains '!' then tagHandle p else .ok ("!", p.next)
      let (name, p) ← tagName p
      return (⟨some handle, name⟩, p))
  if endsWord p.peek then return (spelling, p) else .error .malformed

/-- The digits that come next as a number, and the place after them. -/
def versionNumber (p : Cursor) : Except Trouble (Nat × Cursor) :=
  match p.span Char.isDigit with
  | ([], _) => .error .malformed
  | (digits, p) =>
    if mostDigits < digits.length then .error (.mishap (.tooManyDigits (some digits.length)))
    else .ok (digits.foldl (fun n c => 10 * n + (c.toNat - '0'.toNat)) 0, p)

/-- The name, the contents and the line end of a directive after its percent sign. -/
def directive (p : Cursor) : Except Trouble (Directive × Cursor) := do
  let (name, p) := p.span isNameChar
  if name.isEmpty || !endsWord p.peek then .error .malformed
  let gap (p : Cursor) : Cursor := p.skipWhile (· == ' ')
  let (found, p) ← (show Except Trouble (Directive × Cursor) from
    if name = "YAML".toList then do
      let (major, p) ← versionNumber (gap p)
      if p.peek ≠ some '.' then .error .malformed
      let (_, p) ← versionNumber p.next
      return (.version major, p)
    else if name = "TAG".toList then do
      let (handle, p) ← tagHandle (gap p)
      if p.peek ≠ some ' ' then .error .malformed
      let (meaning, p) ← tagName (gap p)
      return (.handle handle meaning, p)
    else return (.other, p.skipWhile (!isBreak ·)))
  if !endsWord p.peek then .error .malformed
  match p.restOfLine? with
  | some p => return (found, p.afterBreak)
  | none => .error .malformed

/-- The name after the mark of an anchor or of a repetition of one, and the place after it. -/
def anchorName (p : Cursor) : Except Trouble (String × Cursor) :=
  let (name, p) := p.span isNameChar
  if name.isEmpty || !(standsAlone p.peek || p.peek.any "?:,]\x7d%@\x60".toList.contains) then
    .error .malformed
  else .ok (String.ofList name, p)

end Phrasing.Yaml
