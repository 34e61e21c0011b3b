import Phrasing.Calendar.Iso
import Phrasing.Fault
import Phrasing.Number.Integer
import Phrasing.Value.Basic

/-!
# Values in messages

`literal` writes a value so that its kind can be seen: texts between quotes, numbers bare, collections in
brackets.  `display` writes a text or a point in time as it is and any other value as its literal.
`typeName` is the word for the kind of a value.  A value with an integer of too many digits in it has no
literal, nor has one whose collections stand too deep in each other; `spelled` is the literal where there is
one.
-/

namespace Phrasing

open Calendar Text

/-- The word for the kind of a scalar. -/
def Scalar.typeName : Scalar → String
  | .null => "NoneType"
  | .bool _ => "bool"
  | .int _ => "int"
  | .float _ => "float"
  | .text _ => "str"
  | .bytes _ => "bytes"
  | .date _ => "date"
  | .timestamp _ => "datetime"
  | .decimal _ => "Decimal"

/-- The word for the kind of a value. -/
def Value.typeName : Value → String
  | .scalar s => s.typeName
  | .list _ => "list"
  | .tuple _ => "tuple"
  | .set _ => "set"
  | .mapping _ => "dict"
  | .record _ => "SimpleNamespace"

/-- The word for the kind of a value, with the library it belongs to where that is not the basic one. -/
def Value.qualifiedTypeName (v : Value) : String :=
  match v with
  | .date _ | .timestamp _ => "datetime." ++ v.typeName
  | .scalar (.decimal _) => "decimal." ++ v.typeName
  | .record _ => "types." ++ v.typeName
  | v => v.typeName

/-- Texts with a comma between them. -/
def commaJoined (items : List String) : String :=
  ", ".intercalate items

/-- The numbers of a time of day, without seconds or microseconds at the end that are zero. -/
def timeNumbers (t : TimeOfDay) : List Nat :=
  if t.microsecond ≠ 0 then [t.hour, t.minute, t.second, t.microsecond]
  else if t.second ≠ 0 then [t.hour, t.minute, t.second]
  else [t.hour, t.minute]

/-- The literal of an offset. -/
def offsetLiteral (o : Offset) : String :=
  if o.microseconds = 0 then "datetime.timezone.utc"
  else "datetime.timezone(" ++ durationText o.microseconds ++ ")"

/-- The literal of a point in time. -/
def timestampLiteral (t : Timestamp) : String :=
  let numbers := [t.date.year, t.date.month, t.date.day] ++ timeNumbers t.time
  let zone := t.offset.toList.map fun o => "tzinfo=" ++ offsetLiteral o
  "datetime.datetime(" ++ commaJoined (numbers.map toString ++ zone) ++ ")"

/-- The literal of a scalar. -/
def Scalar.literal : Scalar → String
  | .null => "None"
  | .bool b => if b then "True" else "False"
  | .int n => toString n
  | .float x => x.text
  | .text s => quoted s
  | .bytes bs => quotedBytes bs
  | .date d => "datetime.date(" ++ commaJoined ([d.year, d.month, d.day].map toString) ++ ")"
  | .timestamp t => timestampLiteral t
  | .decimal spelling => "Decimal(" ++ quoted spelling ++ ")"

mutual

/-- The literal of a value. -/
def Value.literal : Value → String
  | .scalar s => s.literal
  | .list items => "[" ++ commaJoined (itemLiterals items) ++ "]"
  | .tuple items =>
    "(" ++ commaJoined (itemLiterals items) ++ (if items.length = 1 then ",)" else ")")
  | .set items =>
    if items.isEmpty then "set()" else "\x7b" ++ commaJoined (itemLiterals items) ++ "\x7d"
  | .mapping entries => "\x7b" ++ commaJoined (entryLiterals entries) ++ "\x7d"
  | .record attributes => "namespace(" ++ commaJoined (attributeLiterals attributes) ++ ")"

/-- The literals of the items of a collection. -/
def itemLiterals : List Value → List String
  | [] => []
  | v :: rest => v.literal :: itemLiterals rest

/-- The literals of the entries of a mapping. -/
def entryLiterals : List (Scalar × Value) → List String
  | [] => []
  | (k, v) :: rest => (k.literal ++ ": " ++ v.literal) :: entryLiterals rest

/-- The literals of the attributes of a record. -/
def attributeLiterals : List (String × Value) → List String
  | [] => []
  | (name, v) :: rest => (name ++ "=" ++ v.literal) :: attributeLiterals rest

end

/-- A value as running text. -/
def Value.display : Value → String
  | .text s => s
  | .date d => d.iso
  | .timestamp t =>
    String.ofList (t.date.isoChars ++ ' ' :: t.time.isoChars ++ (t.offset.map Offset.isoChars).getD [])
  | .scalar (.decimal spelling) => spelling
  | v => v.literal

/-! ### Too long integers -/

/-- A scalar that can be written: no integer of too many digits. -/
def Scalar.isWritable : Scalar → Bool
  | .int n => n.natAbs < Nat.pow 10 mostDigits
  | _ => true

mutual

/-- A value in which every integer can be written. -/
def Value.isWritable : Value → Bool
  | .scalar s => s.isWritable
  | .list items | .tuple items | .set items => areWritable items
  | .mapping entries => entriesAreWritable entries
  | .record attributes => attributesAreWritable attributes

/-- Items that can be written. -/
def areWritable : List Value → Bool
  | [] => true
  | v :: rest => v.isWritable && areWritable rest

/-- Entries that can be written. -/
def entriesAreWritable : List (Scalar × Value) → Bool
  | [] => true
  | (k, v) :: rest => k.isWritable && v.isWritable && entriesAreWritable rest

/-- Attributes that can be written. -/
def attributesAreWritable : List (String × Value) → Bool
  | [] => true
  | (_, v) :: rest => v.isWritable && attributesAreWritable rest

end

/-- Refuses an integer of too many digits. -/
def Scalar.checkDigits (s : Scalar) : Except Mishap Unit :=
  if s.isWritable then .ok () else .error (.tooManyDigits none)

mutual

/-- Refuses a value that has no literal: from the front, the first integer of too many digits in it or the first
collection below all levels. -/
def Value.checkLiteral : (levels : Nat) → Value → Except Mishap Unit
  | _, .scalar s => s.checkDigits
  | 0, _ => .error (.tooDeep " while getting the repr of an object")
  | levels + 1, .list items | levels + 1, .tuple items | levels + 1, .set items => checkLiterals levels items
  | levels + 1, .mapping entries => checkEntryLiterals levels entries
  | levels + 1, .record attributes => checkAttributeLiterals levels attributes

/-- Refuses items without a literal. -/
def checkLiterals (levels : Nat) : List Value → Except Mishap Unit
  | [] => .ok ()
  | v :: rest => do
    v.checkLiteral levels
    checkLiterals levels rest

/-- Refuses entries without a literal. -/
def checkEntryLiterals (levels : Nat) : List (Scalar × Value) → Except Mishap Unit
  | [] => .ok ()
  | (k, v) :: rest => do
    k.checkDigits
    v.checkLiteral levels
    checkEntryLiterals levels rest

/-- Refuses attributes without a literal. -/
def checkAttributeLiterals (levels : Nat) : List (String × Value) → Except Mishap Unit
  | [] => .ok ()
  | (_, v) :: rest => do
    v.checkLiteral levels
    checkAttributeLiterals levels rest

end

/-- The literal of a value that has one. -/
def Value.spelled (v : Value) : Except Mishap String := do
  v.checkLiteral mostLevels
  return v.literal

end Phrasing
