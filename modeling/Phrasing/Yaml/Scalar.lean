import Phrasing.Number.Arithmetic
import Phrasing.Number.Integer
import Phrasing.Text.Base64
import Phrasing.Yaml.NodeType
import Phrasing.Yaml.Token

/-!
# The values of scalars

What the text of a scalar stands for, given its type.  A type that a tag asks for may not fit the text, and a
spelling may fit without standing for anything, as that of a day that does not exist.
-/

namespace Phrasing.Yaml

open Text

/-- The truth value of a word in any mixture of cases. -/
def truthValue (s : String) : Except Trouble Value :=
  let lower := s.toList.map Char.toLower
  match truthWords.find? fun (word, _) => word.toList = lower with
  | some (_, b) => .ok (.bool b)
  | none => .error (.mishap (.notATruthWord (quoted (String.ofList lower))))

/-- The sign of a number and the rest of its text. -/
def takeSign (cs : List Char) : Except Trouble (Bool × List Char) :=
  if cs.isEmpty then .error (.mishap .emptyNumber) else .ok (Binary64.takeSign cs)

/-- An integer to some base, without underscores. -/
def integerTo (base : Nat) (cs : List Char) : Except Trouble Int :=
  match readInteger? base cs with
  | some n => .ok n
  | none => .error (.mishap (.notAnIntegerText (quoted (String.ofList cs))))

/-- The integer that a text without a sign stands for. -/
def magnitudeOf (cs : List Char) : Except Trouble Int :=
  match cs with
  | [] => .error (.mishap .emptyNumber)
  | ['0'] => .ok 0
  | '0' :: 'b' :: rest => integerTo 2 rest
  | '0' :: 'x' :: rest => integerTo 16 rest
  | '0' :: _ => integerTo 8 cs
  | cs => (splitAtEach ':' cs).foldlM (fun n part => (integerTo 10 part).map (60 * n + ·)) 0

/-- The integer that a text stands for. -/
def integerValue (s : String) : Except Trouble Value := do
  let (negative, cs) ← takeSign (s.toList.filter (· ≠ '_'))
  let n ← magnitudeOf cs
  return .int (if negative then -n else n)

/-- The floating-point number that a text without underscores stands for. -/
def floatPart (cs : List Char) : Except Trouble Binary64 :=
  match Binary64.read? (String.ofList cs) with
  | some x => .ok x
  | none => .error (.mishap (.notANumberText (quoted (String.ofList cs))))

/-- The sum of digits to the base 60, least digit first, each times its power, which must not be too large for a
number itself. -/
def sumBase60 : (sum : Binary64) → (power : Nat) → List Binary64 → Except Trouble Binary64
  | sum, _, [] => .ok sum
  | sum, power, digit :: rest =>
    let factor := Binary64.ofInt power
    if factor.isFinite then sumBase60 (sum.plus (digit.times factor)) (60 * power) rest
    else .error (.mishap .tooLarge)

/-- The floating-point number that a text stands for. -/
def floatValue (s : String) : Except Trouble Value := do
  let (negative, cs) ← takeSign ((s.toList.filter (· ≠ '_')).map Char.toLower)
  let signed (x : Binary64) : Value := .float (if negative then x.negate else x)
  if cs = ".inf".toList then return signed (.infinite false)
  else if cs = ".nan".toList then return .float .nan
  else if cs.contains ':' then
    let digits ← (splitAtEach ':' cs).mapM floatPart
    return signed (← sumBase60 .zero 1 digits.reverse)
  else return signed (← floatPart cs)

/-- The date or the point in time that a text stands for.  A line feed at its end does not count. -/
def timeValue (s : String) : Except Trouble Value :=
  let cs := s.toList
  match Time.read? (if cs.getLast? = some '\n' then cs.dropLast else cs) with
  | none => .error (.mishap .notATimeText)
  | some t => t.value.mapError fun e => .mishap (.noSuchTime (e.message s))

/-- The bytes that a text stands for. -/
def binaryValue (s : String) : Except Trouble Value :=
  match if s.toList.all fun c => c.toNat < 0x80 then ofBase64? s.toList else none with
  | some bytes => .ok (.bytes bytes)
  | none => .error .malformed

/-- The value of a scalar of a type; a text is no collection. -/
def scalarValue (type : NodeType) (s : String) : Except Trouble Value :=
  match type with
  | .null => .ok .null
  | .truth => truthValue s
  | .integer => integerValue s
  | .float => floatValue s
  | .time => timeValue s
  | .binary => binaryValue s
  | .text => .ok (.text s)
  | _ => .error .malformed

end Phrasing.Yaml
