import Phrasing.Json.Parser
import Phrasing.Text.Split
import Phrasing.Yaml.Time

/-!
# The types of nodes

A node has a type: that of its tag, or one that follows from how it is written.  A plain scalar may be a
truth value, a number, a point in time or null by its spelling alone, and two spellings have a meaning as
keys of mappings (`NodeType.ofPlain`).  All other scalars are texts.
-/

namespace Phrasing.Yaml

open Text

/-- The type of a node. -/
inductive NodeType where
  | null
  | truth
  | integer
  | float
  | time
  | binary
  | text
  | sequence
  | mapping
  | set
  | orderedMapping
  | pairs
  /-- A key under which other mappings are merged. -/
  | merge
  /-- A key for the value of a mapping that stands for a scalar. -/
  | mainValue
  /-- A type that cannot be loaded. -/
  | unknown
  deriving DecidableEq, Repr

/-- The types by the last part of the names of their tags. -/
def namedTypes : List (String × NodeType) := [
  ("null", .null), ("bool", .truth), ("int", .integer), ("float", .float), ("timestamp", .time),
  ("binary", .binary), ("str", .text), ("seq", .sequence), ("map", .mapping), ("set", .set),
  ("omap", .orderedMapping), ("pairs", .pairs), ("merge", .merge), ("value", .mainValue)]

/-- The type that a tag names. -/
def NodeType.ofTag (tag : String) : NodeType :=
  (namedTypes.findSome? fun (name, type) =>
    if "tag:yaml.org,2002:" ++ name = tag then some type else none).getD .unknown

/-- The words for true and false in lower case. -/
def truthWords : List (String × Bool) := [
  ("yes", true), ("no", false), ("true", true), ("false", false), ("on", true), ("off", false)]

/-- A word of lower case letters, the same word capitalised, and in upper case. -/
def casings (word : String) : List (List Char) :=
  let lower := word.toList
  let upper := lower.map Char.toUpper
  [lower, upper.take 1 ++ lower.drop 1, upper]

/-- A digit or an underscore. -/
def isSpacedDigit (c : Char) : Bool := c.isDigit || c == '_'

/-- A text of one or more characters of a class. -/
def someOf (f : Char → Bool) (cs : List Char) : Bool :=
  !cs.isEmpty && cs.all f

/-- A digit, then digits and underscores. -/
def isSpacedNumber (cs : List Char) : Bool :=
  cs.head?.any Char.isDigit && cs.all isSpacedDigit

/-- A text without a sign at its start. -/
def unsigned : List Char → List Char
  | '+' :: rest => rest
  | '-' :: rest => rest
  | cs => cs

/-- A digit of a number to the base 60, in one or two decimal digits. -/
def isBase60Digit : List Char → Bool
  | [a] => a.isDigit
  | [a, b] => '0' ≤ a && a ≤ '5' && b.isDigit
  | _ => false

/-- An integer without its sign: binary, octal, decimal, hexadecimal or to the base 60. -/
def spellsMagnitude : List Char → Bool
  | ['0'] => true
  | '0' :: 'b' :: rest => someOf (fun c => c == '0' || c == '1' || c == '_') rest
  | '0' :: 'x' :: rest => someOf (fun c => (Json.hexValue? c).isSome || c == '_') rest
  | '0' :: rest => someOf (fun c => ('0' ≤ c && c ≤ '7') || c == '_') rest
  | cs =>
    match splitAtEach ':' cs with
    | first :: more => isSpacedNumber first && more.all isBase60Digit
    | [] => false

/-- An exponent with its sign, or nothing. -/
def spellsExponent : List Char → Bool
  | [] => true
  | e :: sign :: digits => (e == 'e' || e == 'E') && (sign == '+' || sign == '-') && someOf Char.isDigit digits
  | _ => false

/-- A number to the base 60 before the point of a fraction. -/
def spellsBase60 (cs : List Char) : Bool :=
  match splitAtEach ':' cs with
  | first :: more => isSpacedNumber first && !more.isEmpty && more.all isBase60Digit
  | [] => false

/-- A floating-point number: decimal with a point, to the base 60 with a point, infinite, or not a number. -/
def spellsFloat (cs : List Char) : Bool :=
  let bare := unsigned cs
  let whole := bare.takeWhile (· ≠ '.')
  match bare.dropWhile (· ≠ '.') with
  | [] => false
  | _ :: fraction =>
    let tail := fraction.dropWhile isSpacedDigit
    if whole.isEmpty then
      (casings "inf").contains fraction || (cs == bare && (["nan", "NaN", "NAN"].map String.toList).contains fraction) ||
        (cs == bare && fraction.head?.any Char.isDigit && spellsExponent tail)
    else (isSpacedNumber whole && spellsExponent tail) || (spellsBase60 whole && tail.isEmpty)

/-- The type that a plain scalar has by its spelling.  A line feed at its end does not count.  The marks of tags,
anchors and repetitions cannot be loaded. -/
def NodeType.ofPlain (cs : List Char) : NodeType :=
  let spelled := if cs.getLast? = some '\n' then cs.dropLast else cs
  if cs.isEmpty ∨ spelled = ['~'] ∨ (casings "null").contains spelled then .null
  else if truthWords.any fun (word, _) => (casings word).contains spelled then .truth
  else if spellsFloat spelled then .float
  else if spellsMagnitude (unsigned spelled) then .integer
  else if spelled = ['<', '<'] then .merge
  else if spellsTime spelled then .time
  else if spelled = ['='] then .mainValue
  else if [['!'], ['&'], ['*']].contains spelled then .unknown
  else .text

end Phrasing.Yaml
