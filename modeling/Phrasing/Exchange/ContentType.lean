import Phrasing.Charset.Named
import Phrasing.Text.Blank
import Phrasing.Text.Percent
import Phrasing.Text.Split

/-!
# Content types

The content type of a reply is a media type and parameters between semicolons, one of which may name the
character set of the body.  A value may stand in quotes, and it may be cut into numbered pieces or written with
percent escapes after the character set and the language of these.
-/

namespace Phrasing.ContentType

open Text

/-! ### Parameters -/

/-- The parts of a field between semicolons that no quotes enclose.  A quote after a backslash neither opens nor
closes; `escaped` says that the last character was a backslash. -/
def partsFrom (inQuotes escaped : Bool) : List Char → List (List Char)
  | [] => [[]]
  | c :: rest =>
    if c = ';' ∧ ¬ inQuotes then [] :: partsFrom false false rest
    else
      match partsFrom (if c = '\x22' && !escaped then !inQuotes else inQuotes) (c == '\\') rest with
      | part :: more => (c :: part) :: more
      | [] => [[c]]

/-- A parameter: its name and its value. -/
structure Parameter where
  name : List Char
  value : List Char
  deriving DecidableEq, Repr

/-- A part of a field as a parameter; the name of one with a value is in lower case. -/
def parameterOf (part : List Char) : Parameter :=
  match part.dropWhile (· ≠ '=') with
  | _ :: value => ⟨(trim (part.takeWhile (· ≠ '='))).map lowerAscii, trim value⟩
  | [] => ⟨trim part, []⟩

/-- The parameters of a field, what stands at its start being the first. -/
def parameters (field : List Char) : List Parameter :=
  (partsFrom false false field).map parameterOf

/-- Characters with a backslash before each of a class taken away from it. -/
def unescapeBackslash (p : Char → Bool) : List Char → List Char
  | '\\' :: c :: rest => if p c then c :: unescapeBackslash p rest else '\\' :: unescapeBackslash p (c :: rest)
  | c :: rest => c :: unescapeBackslash p rest
  | [] => []

/-- A value without the quotes or angle brackets around it. -/
def unquote (cs : List Char) : List Char :=
  if 1 < cs.length then
    if cs.head? = some '\x22' ∧ cs.getLast? = some '\x22' then
      unescapeBackslash (· == '\x22') (unescapeBackslash (· == '\\') (cs.drop 1).dropLast)
    else if cs.head? = some '<' ∧ cs.getLast? = some '>' then (cs.drop 1).dropLast
    else cs
  else cs

/-! ### Pieces -/

/-- A piece of a value: its number, its text, and whether that has percent escapes. -/
structure Piece where
  number : Option Nat
  text : List Char
  isEscaped : Bool
  deriving DecidableEq, Repr

/-- A character of a name. -/
def inName (c : Char) : Bool := isLetterOrDigit c || c == '_'

/-- The name whose value a parameter has a piece of, and the piece. -/
def pieceOf? (p : Parameter) : Option (List Char × Piece) :=
  let name := p.name.takeWhile inName
  let isEscaped := p.name.getLast? = some '*'
  let piece (number : Option Nat) : Option (List Char × Piece) := some (name, ⟨number, unquote p.value, isEscaped⟩)
  if name.isEmpty then none
  else
    match p.name.dropWhile inName with
    | ['*'] => piece none
    | '*' :: rest =>
      let digits := rest.takeWhile Char.isDigit
      let after := rest.dropWhile Char.isDigit
      if digits.isEmpty ∨ (after ≠ [] ∧ after ≠ ['*']) then none
      else piece (some (digits.foldl (fun n c => 10 * n + (c.toNat - '0'.toNat)) 0))
    | _ => none

/-- One piece does not come after another. -/
def Piece.le (a b : Piece) : Bool :=
  let earlier (m n : Nat) : Bool := m < n
  match a.number, b.number with
  | some m, some n => if m = n then texts else earlier m n
  | _, _ => texts
where
  /-- The order of the texts, where escaped ones come later. -/
  texts : Bool :=
    if a.text = b.text then !a.isEscaped || b.isEscaped else String.ofList a.text < String.ofList b.text

/-- A value put together from its pieces; escapes stand for characters by their bytes. -/
structure Joined where
  text : List Char
  isEscaped : Bool

/-- Puts pieces together in their order.  Pieces with and without numbers have none. -/
def join (pieces : List Piece) : Except Mishap Joined :=
  let isNumbered (p : Piece) : Bool := p.number.isSome
  if pieces.any isNumbered && !pieces.all isNumbered then
    let kind (p : Piece) : String := if isNumbered p then "int" else "NoneType"
    let first := (pieces.head?.map kind).getD ""
    let other := if first = "int" then "NoneType" else "int"
    .error (.reported "TypeError"
      ("'<' not supported between instances of '" ++ other ++ "' and '" ++ first ++ "'"))
  else
    let text (p : Piece) : List Char :=
      if p.isEscaped then (unescapedBytes p.text).map fun b => Char.ofNat b.toNat else p.text
    .ok ⟨(pieces.mergeSort Piece.le).flatMap text, pieces.any (·.isEscaped)⟩

/-! ### The character set -/

/-- The bytes of characters below U+0100. -/
def lowBytes (cs : List Char) : List UInt8 := cs.map fun c => UInt8.ofNat c.toNat

/-- The text of a value with escapes, which starts with the character set and the language of these. -/
def readEscaped (cs : List Char) : List Char :=
  match splitAtEach '\x27' cs with
  | set :: _ :: more@(_ :: _) =>
    let text := List.intercalate ['\x27'] more
    let name := if set.isEmpty then "us-ascii" else String.ofList set
    match (Charset.ofName? name).bind fun set => set.decodeStrict? (lowBytes text) with
    | some cs => cs
    | none => text
  | _ => cs

/-- A value put together, as a text. -/
def Joined.read (j : Joined) : List Char :=
  if j.isEscaped then readEscaped j.text else j.text

/-- The values that are cut into pieces, by their names. -/
def joinedValues (pieces : List (List Char × Piece)) : Except Mishap (List (List Char × Joined)) :=
  ((pieces.map Prod.fst).eraseDups).mapM fun name =>
    (join ((pieces.filter (·.1 == name)).map Prod.snd)).map (Prod.mk name)

/-- The name of the character set that a content type gives, in lower case. -/
def charsetName? (field : String) : Except Mishap (Option String) :=
  let all := parameters field.toList
  let whole := all.take 1 ++ (all.drop 1).filter fun p => (pieceOf? p).isNone
  let isCharset (name : List Char) : Bool := name.map lowerAscii == "charset".toList
  (joinedValues ((all.drop 1).filterMap pieceOf?)).map fun joined =>
    let plain := (whole.find? fun p => isCharset p.name).map fun p => unquote p.value
    let found := plain.or ((joined.find? fun v => isCharset v.1).map fun v => v.2.read)
    (found.filter (·.all isAscii)).map fun cs => String.ofList (cs.map lowerAscii)

/-- The character set that a content type names, if it is one that is known. -/
def charset? (field : Option String) : Except Mishap (Option Charset) :=
  match field with
  | none => .ok none
  | some field => (charsetName? field).map fun name => name.bind Charset.ofName?

end Phrasing.ContentType
