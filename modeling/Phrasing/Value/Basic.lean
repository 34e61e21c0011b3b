import Phrasing.Calendar.Timestamp
import Phrasing.Entries
import Phrasing.Number.Binary64

/-!
# Values

What callers, documents and services hand over: scalars, collections of values, mappings from scalars,
and records with named attributes.  A mapping keeps the order in which its keys were written.
-/

namespace Phrasing

open Calendar

/-- A value without parts. -/
inductive Scalar where
  | null
  | bool (b : Bool)
  | int (n : Int)
  | float (x : Binary64)
  | text (s : String)
  | bytes (bs : List UInt8)
  | date (d : Date)
  | timestamp (t : Timestamp)
  /-- A decimal number by its spelling. -/
  | decimal (spelling : String)
  deriving DecidableEq, Repr

/-- A value. -/
inductive Value where
  | scalar (s : Scalar)
  | list (items : List Value)
  | tuple (items : List Value)
  | set (items : List Value)
  | mapping (entries : List (Scalar × Value))
  | record (attributes : List (String × Value))

namespace Scalar

/-- The digits of a decimal spelling are all zero. -/
def isZeroSpelling (s : String) : Bool :=
  let mantissa := s.toList.takeWhile fun c => c != 'e' && c != 'E'
  mantissa.any Char.isDigit && mantissa.all fun c => !c.isDigit || c == '0'

/-- A scalar that counts as nothing given: null, false, zero, and what is empty. -/
def isVacant : Scalar → Bool
  | .null => true
  | .bool b => !b
  | .int n => n == 0
  | .float x => x.isZero
  | .text s => s.isEmpty
  | .bytes bs => bs.isEmpty
  | .decimal spelling => isZeroSpelling spelling
  | .date _ | .timestamp _ => false

end Scalar

namespace Value

@[match_pattern] abbrev null : Value := .scalar .null
@[match_pattern] abbrev bool (b : Bool) : Value := .scalar (.bool b)
@[match_pattern] abbrev int (n : Int) : Value := .scalar (.int n)
@[match_pattern] abbrev float (x : Binary64) : Value := .scalar (.float x)
@[match_pattern] abbrev text (s : String) : Value := .scalar (.text s)
@[match_pattern] abbrev bytes (bs : List UInt8) : Value := .scalar (.bytes bs)
@[match_pattern] abbrev date (d : Date) : Value := .scalar (.date d)
@[match_pattern] abbrev timestamp (t : Timestamp) : Value := .scalar (.timestamp t)

instance : Inhabited Value := ⟨.null⟩

/-- A mapping with texts for keys. -/
def object (fields : List (String × Value)) : Value :=
  .mapping (fields.map fun (name, v) => (.text name, v))

/-- A list of texts. -/
def texts (items : List String) : Value :=
  .list (items.map .text)

/-- A text, or null when there is none. -/
def ofText? : Option String → Value
  | some s => .text s
  | none => .null

/-- A number, or null when there is none. -/
def ofNat? : Option Nat → Value
  | some n => .int n
  | none => .null

/-- The value under a text in a mapping. -/
def get? (name : String) : Value → Option Value
  | .mapping entries => Entries.get? (.text name) entries
  | _ => none

/-- The value under a text in a mapping, null if there is none. -/
def getD (name : String) (v : Value) : Value :=
  (v.get? name).getD .null

/-- The attribute of a record. -/
def attribute? (name : String) : Value → Option Value
  | .record attributes => Entries.get? name attributes
  | _ => none

/-- A null value. -/
def isNull : Value → Bool
  | .null => true
  | _ => false

/-- The text, if the value is one. -/
def text? : Value → Option String
  | .text s => some s
  | _ => none

/-- A value that counts as nothing given: a vacant scalar or an empty collection. -/
def isVacant : Value → Bool
  | .scalar s => s.isVacant
  | .list items | .tuple items | .set items => items.isEmpty
  | .mapping entries => entries.isEmpty
  | .record _ => false

/-- The value, or another one in place of a vacant one. -/
def orElse (v other : Value) : Value :=
  if v.isVacant then other else v

/-- The most collections that may stand in each other where a value is read or written. -/
def mostLevels : Nat := 970

end Value

end Phrasing
