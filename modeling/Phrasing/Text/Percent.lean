import Phrasing.Text.Ascii
import Phrasing.Text.Encoding

/-!
# Percent escapes

A character that may not stand in an address is written as its bytes, each a percent sign and two hexadecimal
digits.
-/

namespace Phrasing.Text

/-- A byte as an escape. -/
def escapedByte (b : UInt8) : List Char :=
  '%' :: (hexDigits 2 b.toNat).map upperAscii

/-- A character as the escapes of its bytes. -/
def escapedChar (c : Char) : List Char :=
  (utf8Bytes (String.singleton c)).flatMap escapedByte

/-- Writes the characters outside a class as escapes. -/
def escapeOutside (allowed : Char → Bool) (cs : List Char) : List Char :=
  cs.flatMap fun c => if allowed c then [c] else escapedChar c

/-- The value of a hexadecimal digit. -/
def hexDigitValue? (c : Char) : Option Nat :=
  if c.isDigit then some (c.toNat - '0'.toNat)
  else if isHexDigit c then some ((lowerAscii c).toNat - 'a'.toNat + 10)
  else none

/-- The byte that an escape after a percent sign stands for. -/
def escapeByte? (a b : Char) : Option UInt8 :=
  match hexDigitValue? a, hexDigitValue? b with
  | some a, some b => some (UInt8.ofNat (16 * a + b))
  | _, _ => none

/-- The bytes of a text with its escapes resolved. -/
def unescapedBytes : List Char → List UInt8
  | [] => []
  | '%' :: a :: b :: rest =>
    match escapeByte? a b with
    | some byte => byte :: unescapedBytes rest
    | none => 0x25 :: unescapedBytes (a :: b :: rest)
  | c :: rest => utf8Bytes (String.singleton c) ++ unescapedBytes rest

/-- A text with its escapes resolved, a replacement character where they fit none. -/
def unescape (cs : List Char) : List Char :=
  Encoding.utf8.decodeTolerant (unescapedBytes cs)

end Phrasing.Text
