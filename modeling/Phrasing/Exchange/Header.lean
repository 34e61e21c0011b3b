import Phrasing.Fault
import Phrasing.Text.Encoding
import Phrasing.Value.Display

/-!
# Header fields

The value of a header field leaves as ASCII text or as bytes.
-/

namespace Phrasing.Header

open Text

/-- The place of the first run of characters outside ASCII. -/
def firstRun? (cs : List Char) : Option (Nat × Nat × Char) :=
  let before := cs.takeWhile fun c => c.toNat < 0x80
  let rest := cs.dropWhile fun c => c.toNat < 0x80
  rest.head?.map fun c =>
    (before.length, before.length + (rest.takeWhile fun c => 0x80 ≤ c.toNat).length - 1, c)

/-- A text as the value of a field. -/
def ofText (s : String) : Except Mishap String :=
  match firstRun? s.toList with
  | none => .ok s
  | some (first, last, c) => .error (.headerNotAscii first last c)

/-- Bytes as the text they are read as: UTF-8 if they are that, one character for every byte otherwise. -/
def ofBytes (bytes : List UInt8) : String :=
  match Encoding.utf8.decodeStrict false bytes with
  | .ok cs => String.ofList cs
  | .error _ => String.ofList (Encoding.latin1.decodeTolerant bytes)

/-- A value as the value of a field. -/
def ofValue : Value → Except Mishap String
  | .text s => ofText s
  | .bytes bs => .ok (ofBytes bs)
  | v => .error (.headerNotText v.qualifiedTypeName)

end Phrasing.Header
