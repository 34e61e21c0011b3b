import Phrasing.Fault
import Phrasing.Value.Display

/-!
# Wire values

The service exchanges typed values as objects with a number for the kind and, under the key that
belongs to the kind, a list with the value.  `WireValue` has one constructor per kind, so a value never
stands under the key of another kind.  `encode` makes a wire value of a value, `toWire` writes it down,
`parse` reads it back and `told` gives the text it stands for.
-/

namespace Phrasing

open Calendar

/-- A number under the kind of floating-point numbers, which may have been written as an integer. -/
inductive Numeral where
  | int (n : Int)
  | float (x : Binary64)
  deriving DecidableEq, Repr

namespace Numeral

/-- The number as a value. -/
def toValue : Numeral → Value
  | .int n => .int n
  | .float x => .float x

/-- Equality of numbers, exact also between the two spellings. -/
def same : Numeral → Numeral → Bool
  | .int m, .int n => m == n
  | .int n, .float x | .float x, .int n => x.sameInt n
  | .float x, .float y => x.same y

end Numeral

/-- A typed value as the service knows it. -/
inductive WireValue where
  | text (s : String)
  | integer (n : Int)
  | float (x : Numeral)
  | boolean (b : Bool)
  /-- A point in time; one that was read keeps the text it was read from. -/
  | timestamp (t : Timestamp) (verbatim : Option String)
  deriving DecidableEq, Repr

/-- The kinds of wire values. -/
inductive WireKind where
  | text
  | integer
  | float
  | boolean
  | timestamp
  deriving DecidableEq, Repr

namespace WireKind

/-- The number that stands for a kind. -/
def code : WireKind → Int
  | .text => 0
  | .integer => 1
  | .float => 2
  | .boolean => 3
  | .timestamp => 4

/-- The kind of a number. -/
def ofCode? : Int → Option WireKind
  | 0 => some .text
  | 1 => some .integer
  | 2 => some .float
  | 3 => some .boolean
  | 4 => some .timestamp
  | _ => none

/-- The key of the list that holds the values of a kind. -/
def arrayKey : WireKind → String
  | .text => "stringValues"
  | .integer => "intValues"
  | .float => "floatValues"
  | .boolean => "booleanValues"
  | .timestamp => "dateTimeValues"

end WireKind

namespace WireValue

/-- The kind of a wire value. -/
def kind : WireValue → WireKind
  | .text _ => .text
  | .integer _ => .integer
  | .float _ => .float
  | .boolean _ => .boolean
  | .timestamp _ _ => .timestamp

/-- The text a wire value stands for. -/
def asText : WireValue → String
  | .text s => s
  | .integer n => toString n
  | .float x => x.toValue.display
  | .boolean b => if b then "true" else "false"
  | .timestamp _ (some verbatim) => verbatim
  | .timestamp t none => t.iso

/-- The element of the list in the written form. -/
def element : WireValue → Value
  | .text s => .text s
  | .integer n => .int n
  | .float x => x.toValue
  | .boolean b => .bool b
  | w@(.timestamp _ _) => .text w.asText

/-- The text a wire value stands for, if it can be told: an integer may have too many digits for that. -/
def told (w : WireValue) : Except Mishap String := do
  w.element.checkLiteral Value.mostLevels
  return w.asText

/-- The value that a wire value holds. -/
def value : WireValue → Value
  | .timestamp t _ => .timestamp t
  | w => w.element

/-- The written form with that kind and that element. -/
def form (kind : WireKind) (element : Value) : Value :=
  .object [("kind", .int kind.code), (kind.arrayKey, .list [element])]

/-- The written form of a wire value. -/
def toWire (w : WireValue) : Value :=
  form w.kind w.element

/-- Equality of wire values: the same kind and equal values, whatever text a point in time was read
from. -/
def same : WireValue → WireValue → Bool
  | .text a, .text b => a == b
  | .integer a, .integer b => a == b
  | .float a, .float b => a.same b
  | .boolean a, .boolean b => a == b
  | .timestamp a _, .timestamp b _ => a.same b
  | _, _ => false

/-- The wire value of a value: a text, a truth value, an integer, a finite number, a point in time, or
a date, which stands for its midnight. -/
def encode : Value → Except Fault WireValue
  | .bool b => .ok (.boolean b)
  | .text s => .ok (.text s)
  | .int n => .ok (.integer n)
  | .float x =>
    if x.isFinite then .ok (.float (.float x))
    else .error (.unsupported ("Cannot encode non-finite float " ++ x.text))
  | .timestamp t => .ok (.timestamp t none)
  | .date d => .ok (.timestamp (.ofDate d) none)
  | v => .error (.unsupported ("Cannot encode value of type " ++ v.typeName))

/-- A final letter Z, which stands for universal time, written as an offset. -/
def zuluAsOffset (text : String) : String :=
  match text.toList.reverse with
  | 'Z' :: rest | 'z' :: rest => String.ofList (rest.reverse ++ "+00:00".toList)
  | _ => text

/-- Reads a point in time, with its text kept. -/
def readTimestamp (text : String) : Except Fault WireValue :=
  let candidate := zuluAsOffset text
  match Timestamp.ofIso candidate with
  | .ok t => .ok (.timestamp t (some text))
  | .error e =>
    .error (.malformed
      ("Invalid date-time value " ++ Text.quoted text ++ ": " ++ e.message candidate))

/-- The refusal of an element that does not belong to the kind. -/
def misplaced (kind : WireKind) (element : Value) : Fault :=
  .malformed ("Wire value of kind " ++ toString kind.code ++ " holds " ++ element.typeName ++ " in " ++
    kind.arrayKey)

/-- Reads the element of a kind. -/
def ofElement (kind : WireKind) (element : Value) : Except Fault WireValue :=
  match kind, element with
  | .text, .text s => .ok (.text s)
  | .integer, .int n => .ok (.integer n)
  | .float, .int n => .ok (.float (.int n))
  | .float, .float x => .ok (.float (.float x))
  | .boolean, .bool b => .ok (.boolean b)
  | .timestamp, .text s => readTimestamp s
  | kind, element => .error (misplaced kind element)

/-- The kind that a written form names. -/
def kindOf? (data : Value) : Option WireKind :=
  match data.get? "kind" with
  | some (.int n) => WireKind.ofCode? n
  | _ => none

/-- The refusal of what stands for a kind and names none.  It quotes what stands there, where that can be
spelled. -/
def unknownKind (named : Value) : Fault :=
  match named.spelled with
  | .ok literal => .malformed ("Unknown wire value kind: " ++ literal)
  | .error m => .mishap m

/-- Reads a wire value from its written form.  Other keys, and elements after the first, are
ignored. -/
def parse (data : Value) : Except Fault WireValue :=
  match data with
  | .mapping _ =>
    match kindOf? data with
    | none => .error (unknownKind (data.getD "kind"))
    | some kind =>
      match data.get? kind.arrayKey with
      | some (.list (first :: _)) => ofElement kind first
      | _ =>
        .error (.malformed
          ("Wire value of kind " ++ toString kind.code ++ " has no " ++ kind.arrayKey))
  | _ => .error (.malformed ("Wire value must be an object, got " ++ data.typeName))

/-- The text of a written form. -/
def decode (data : Value) : Except Fault String :=
  match data with
  | .mapping _ => do
    let w ← parse data
    w.told.mapError .mishap
  | _ => .error (.mishap (.notDecodable data.typeName))

end WireValue

end Phrasing
