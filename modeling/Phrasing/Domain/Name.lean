import Phrasing.Domain.Label

/-!
# Domain names

A name is labels with dots between them, and perhaps one more dot at its end.  `Name.toAscii` writes every
label in ASCII, `Name.toUnicode` with all its characters.
-/

namespace Phrasing.Domain.Name

open Text

/-- A dot between labels; the scripts of East Asia have dots of their own. -/
def isDot (strict : Bool) (c : Char) : Bool :=
  c == '.' || (!strict && (c.toNat == 0x3002 || c.toNat == 0xFF0E || c.toNat == 0xFF61))

/-- The labels of a name, and whether a dot ends it. -/
def labels (strict : Bool) (name : List Char) : List (List Char) × Bool :=
  let parts := splitAtEach '.' (name.map fun c => if isDot strict c then '.' else c)
  match parts.getLast? with
  | some [] => (parts.dropLast, true)
  | _ => (parts, false)

/-- A name with every label in another form. -/
def convert (strict : Bool) (form : List Char → Except NameFault (List Char)) (name : List Char) :
    Except NameFault (List Char × Bool) := do
  if 254 < name.length then throw (.form "Domain too long")
  if name.isEmpty then throw (.form "Empty domain")
  let (parts, dotted) := labels strict name
  let parts ← parts.mapM form
  return (List.intercalate ['.'] (if dotted then parts ++ [[]] else parts), dotted)

/-- A name in ASCII. -/
def toAscii (strict : Bool) (name : List Char) : Except NameFault (List Char) := do
  let (written, dotted) ← convert strict Domain.toAscii name
  if (if dotted then 254 else 253) < written.length then throw (.form "Domain too long")
  return written

/-- A name with all its characters. -/
def toUnicode (name : List Char) : Except NameFault (List Char) :=
  (convert false Domain.toUnicode name).map Prod.fst

end Phrasing.Domain.Name
