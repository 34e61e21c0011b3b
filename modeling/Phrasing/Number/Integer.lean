import Phrasing.Number.Decimal
import Phrasing.Text.Split

/-!
# Integers in free texts

An integer to some base: blanks around it, a sign, and digits with single underscores between them, those up
to nine of any script.  To the bases 2, 8 and 16 the letter of the base may stand before the digits, after a
zero.  A text with more than 4300 decimal digits is refused.
-/

namespace Phrasing

open Text

/-- The most decimal digits that are converted to or from an integer. -/
def mostDigits : Nat := 4300

/-- The value of a digit to a base of at most 36. -/
def baseDigit? (base : Nat) (c : Char) : Option Nat :=
  let letter := c.toLower
  let value := (asciiDigit? c).or
    (if 'a' ≤ letter ∧ letter ≤ 'z' then some (letter.toNat - 'a'.toNat + 10) else none)
  value.filter (· < base)

/-- The letter that announces a base. -/
def baseLetter? : Nat → Option Char
  | 2 => some 'b'
  | 8 => some 'o'
  | 16 => some 'x'
  | _ => none

/-- The digits without the letter of their base, and without an underscore after it. -/
def dropBaseLetter (base : Nat) : List Char → List Char
  | '0' :: c :: rest =>
    if baseLetter? base = some c.toLower then
      match rest with
      | '_' :: rest => rest
      | rest => rest
    else '0' :: c :: rest
  | cs => cs

/-- Digits without the underscores between them. -/
def withoutUnderscores? (cs : List Char) : Option (List Char) :=
  let parts := splitAtEach '_' cs
  if parts.any (·.isEmpty) then none else some parts.flatten

/-- The integer to a base that a text spells. -/
def readInteger? (base : Nat) (cs : List Char) : Option Int :=
  let spelled := Binary64.asciiSpelling cs
  let (negative, cs) :=
    Binary64.takeSign (dropTrailing Binary64.isAsciiSpace (spelled.dropWhile Binary64.isAsciiSpace))
  match (withoutUnderscores? (dropBaseLetter base cs)).bind (·.mapM (baseDigit? base)) with
  | none | some [] => none
  | some digits =>
    if base = 10 ∧ mostDigits < digits.length then none
    else
      let n : Int := (digits.foldl (fun n d => base * n + d) 0 : Nat)
      some (if negative then -n else n)

end Phrasing
