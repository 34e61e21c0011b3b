/-!
# Places in a YAML stream

A `Cursor` is a place in a text: the characters that are left, how many were passed, and the line and
column where it stands.  The syntax of YAML depends on columns, so every step of a reader is a step of a
cursor.  `Cursor.lineBreak?` passes one line break and says which character stands for it, and
`foldBreaks` joins the lines of a scalar that is written over several of them.
-/

namespace Phrasing.Yaml

/-- A character that ends a line. -/
def isBreak (c : Char) : Bool :=
  c == '\n' || c == '\r' || c == '\x85' || c == '\u2028' || c == '\u2029'

/-- A space or a tabulator. -/
def isGap (c : Char) : Bool :=
  c == ' ' || c == '\t'

/-- The line ends here: a break comes next, or nothing. -/
def endsLine : Option Char → Bool
  | none => true
  | some c => isBreak c

/-- A word ends here: a space or the end of the line comes next. -/
def endsWord (next : Option Char) : Bool :=
  next == some ' ' || endsLine next

/-- A mark stands alone here: a space, a tabulator or the end of the line comes next. -/
def standsAlone (next : Option Char) : Bool :=
  next == some '\t' || endsWord next

/-- A character of names: an ASCII letter or digit, a hyphen or an underscore. -/
def isNameChar (c : Char) : Bool :=
  c.isAlphanum || c == '-' || c == '_'

/-- A character that a stream may hold. -/
def isReadable (c : Char) : Bool :=
  let n := c.toNat
  n == 0x09 || n == 0x0A || n == 0x0D || (0x20 ≤ n && n ≤ 0x7E) || n == 0x85 ||
    (0xA0 ≤ n && n ≤ 0xFFFD) || 0x10000 ≤ n

/-- A place in a text. -/
structure Cursor where
  /-- The characters that are left. -/
  rest : List Char
  /-- How many characters were passed. -/
  passed : Nat
  line : Nat
  column : Nat
  deriving DecidableEq, Repr

namespace Cursor

/-- The start of a text. -/
def start (cs : List Char) : Cursor := ⟨cs, 0, 0, 0⟩

/-- The character that comes next. -/
def peek (p : Cursor) : Option Char := p.rest.head?

/-- The character that comes after `n` others. -/
def peekAt (n : Nat) (p : Cursor) : Option Char := p.rest[n]?

/-- The place after one more character.  A pair of carriage return and line feed ends one line, and a
byte order mark takes no column. -/
def next (p : Cursor) : Cursor :=
  match p.rest with
  | [] => p
  | c :: rest =>
    if isBreak c && !(c == '\r' && rest.head? == some '\n') then ⟨rest, p.passed + 1, p.line + 1, 0⟩
    else if c == '\uFEFF' then ⟨rest, p.passed + 1, p.line, p.column⟩
    else ⟨rest, p.passed + 1, p.line, p.column + 1⟩

/-- The place after `n` more characters. -/
def skip : (n : Nat) → Cursor → Cursor
  | 0, p => p
  | n + 1, p => skip n p.next

/-- The characters of a class that come next, and the place after them. -/
def span (f : Char → Bool) (p : Cursor) : List Char × Cursor :=
  let found := p.rest.takeWhile f
  (found, p.skip found.length)

/-- The place after the characters of a class. -/
def skipWhile (f : Char → Bool) (p : Cursor) : Cursor :=
  (p.span f).2

/-- Passes a line break.  Two special separators stand for themselves, all other breaks for a line feed. -/
def lineBreak? (p : Cursor) : Option (Char × Cursor) :=
  match p.rest with
  | '\r' :: '\n' :: _ => some ('\n', p.skip 2)
  | '\u2028' :: _ => some ('\u2028', p.next)
  | '\u2029' :: _ => some ('\u2029', p.next)
  | c :: _ => if isBreak c then some ('\n', p.next) else none
  | [] => none

/-- These three characters stand alone here. -/
def atMark (mark : String) (p : Cursor) : Bool :=
  mark.toList.isPrefixOf p.rest && standsAlone (p.peekAt 3)

/-- A mark between documents stands here. -/
def atDocumentMark (p : Cursor) : Bool :=
  p.atMark "---" || p.atMark "..."

/-- Spaces and a comment, then the place where the line ends; nothing if more stands on it. -/
def restOfLine? (p : Cursor) : Option Cursor :=
  let p := p.skipWhile (· == ' ')
  let p := if p.peek == some '#' then p.skipWhile (!isBreak ·) else p
  if endsLine p.peek then some p else none

/-- The place after the next line break, if one comes. -/
def afterBreak (p : Cursor) : Cursor :=
  match p.lineBreak? with
  | some (_, p) => p
  | none => p

end Cursor

/-- What joins two lines of a scalar: a lone line feed becomes a space, of several breaks the first line
feed is dropped. -/
def foldBreaks (first : Char) (more : List Char) : List Char :=
  if first ≠ '\n' then first :: more else if more.isEmpty then [' '] else more

end Phrasing.Yaml
