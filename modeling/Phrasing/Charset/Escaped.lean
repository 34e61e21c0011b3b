import Phrasing.Charset.Step
import Phrasing.Text.Percent

/-!
# Texts with backslash escapes

Every byte is the character with its number, but a backslash may start an escape: of a character by its code,
and in the fuller form also of control characters and of bytes by three octal digits.  Characters by their
names are not known.
-/

namespace Phrasing.Charset.Escaped

open Text

/-- The value of a hexadecimal digit. -/
def hexByte? (b : UInt8) : Option Nat :=
  if b < 0x80 then hexDigitValue? (Char.ofNat b.toNat) else none

/-- So many hexadecimal digits after the start of an escape: their number, or how many bytes fit. -/
def hexDigits? : (left n taken : Nat) → List UInt8 → Except Nat Nat
  | 0, n, _, _ => .ok n
  | _ + 1, _, taken, [] => .error taken
  | left + 1, n, taken, b :: rest =>
    match hexByte? b with
    | some d => hexDigits? left (16 * n + d) (taken + 1) rest
    | none => .error taken

/-- An escape of so many digits after a backslash and a letter.  Half of a pair is replaced. -/
def codeStep (count : Nat) (rest : List UInt8) : Step Unit :=
  match hexDigits? count 0 0 rest with
  | .error taken => .one () (taken + 2) none
  | .ok n =>
    if 0x10FFFF < n then .one () (count + 2) none
    else if 0xD800 ≤ n ∧ n ≤ 0xDFFF then .one () (count + 2) (some '\uFFFD')
    else .one () (count + 2) (some (Char.ofNat n))

/-- The number of at most so many octal digits, and how many there are. -/
def octal : (left : Nat) → List UInt8 → Nat × Nat
  | left + 1, b :: rest =>
    if 0x30 ≤ b ∧ b ≤ 0x37 then
      let (n, count) := octal left rest
      ((b.toNat - 0x30) * Nat.pow 8 count + n, count + 1)
    else (0, 0)
  | _, _ => (0, 0)

/-- The character of an escape of one letter. -/
def letter? (b : UInt8) : Option Char :=
  match b with
  | 0x5C => some '\\'
  | 0x27 => some '\x27'
  | 0x22 => some '\x22'
  | 0x62 => some '\x08'
  | 0x66 => some '\x0C'
  | 0x74 => some '\t'
  | 0x6E => some '\n'
  | 0x72 => some '\r'
  | 0x76 => some '\x0B'
  | 0x61 => some '\x07'
  | _ => none

/-- A character by its name in braces, after a backslash and a letter: none, up to the closing brace. -/
def namedStep (rest : List UInt8) : Step Unit :=
  match rest with
  | 0x7B :: name =>
    let size := (name.takeWhile (· ≠ 0x7D)).length
    if size = name.length then .one () (3 + size) none
    else if size = 0 then .one () 3 none
    else .one () (4 + size) none
  | _ => .one () 2 none

/-- A step in the plainer form, where only codes of four and of eight digits are escapes. -/
def rawStep (_ : Unit) : List UInt8 → Step Unit
  | 0x5C :: b :: rest =>
    if b = 0x75 then codeStep 4 rest
    else if b = 0x55 then codeStep 8 rest
    else .took [some '\\', some (Char.ofNat b.toNat)] 2 ()
  | b :: _ => .one () 1 (some (Char.ofNat b.toNat))
  | [] => .more

/-- A step in the fuller form. -/
def fullStep (_ : Unit) : List UInt8 → Step Unit
  | 0x5C :: b :: rest =>
    if b = 0x75 then codeStep 4 rest
    else if b = 0x55 then codeStep 8 rest
    else if b = 0x78 then codeStep 2 rest
    else if b = 0x4E then namedStep rest
    else if b = 0x0A then .took [] 2 ()
    else if 0x30 ≤ b ∧ b ≤ 0x37 then
      let (n, count) := octal 3 (b :: rest)
      .one () (count + 1) (some (Char.ofNat n))
    else
      match letter? b with
      | some c => .one () 2 (some c)
      | none => .took [some '\\', some (Char.ofNat b.toNat)] 2 ()
  | [0x5C] => .one () 1 none
  | b :: _ => .one () 1 (some (Char.ofNat b.toNat))
  | [] => .more

/-- Decodes bytes. -/
def decode (raw : Bool) (bytes : List UInt8) : Glyphs :=
  (decodeAll (if raw then rawStep else fullStep) () bytes).1

end Phrasing.Charset.Escaped
