import Phrasing.Charset.Step
import Phrasing.Text.Base64
import Phrasing.Text.Encoding

/-!
# UTF-7

Characters outside ASCII stand as UTF-16 in base 64 between a plus sign and the first character that does not
belong to it, a hyphen there being part of the mark.
-/

namespace Phrasing.Charset.Utf7

open Text

/-- A stretch of base 64: the bits that are left over, their number, and the first half of a pair. -/
structure Stretch where
  bits : Nat
  count : Nat
  half : Option Nat

/-- The characters of a unit after the first half of a pair or after none.  A half alone is replaced. -/
def unitGlyphs (half : Option Nat) (n : Nat) : Glyphs × Option Nat :=
  match half with
  | some h =>
    if isLowSurrogate n then ([some (joinSurrogates h n)], none)
    else
      let (glyphs, next) := alone n
      (some '\uFFFD' :: glyphs, next)
  | none => alone n
where
  /-- A unit that is not the second half of a pair. -/
  alone (n : Nat) : Glyphs × Option Nat :=
    if isHighSurrogate n then ([], some n)
    else ([some (if isLowSurrogate n then '\uFFFD' else Char.ofNat n)], none)

/-- Adds six bits to a stretch. -/
def Stretch.add (s : Stretch) (six : Nat) : Glyphs × Stretch :=
  let bits := s.bits * 64 + six
  let count := s.count + 6
  if 16 ≤ count then
    let (glyphs, half) := unitGlyphs s.half (bits / Nat.pow 2 (count - 16))
    (glyphs, ⟨bits % Nat.pow 2 (count - 16), count - 16, half⟩)
  else ([], ⟨bits, count, s.half⟩)

/-- The bits that are left over are part of a character, or are not zero. -/
def Stretch.isCut (s : Stretch) : Bool :=
  6 ≤ s.count || s.bits ≠ 0

/-- Decodes bytes, in a stretch of base 64 or outside. -/
def decodeFrom : Option Stretch → List UInt8 → Glyphs
  | none, [] => []
  | some s, [] => if s.isCut || s.half.isSome then [none] else []
  | none, b :: rest =>
    if b = 0x2B then
      match rest with
      | [] => []
      | c :: rest' =>
        if c = 0x2D then some '+' :: decodeFrom none rest'
        else if (sixBits? (Char.ofNat c.toNat)).isSome then decodeFrom (some ⟨0, 0, none⟩) (c :: rest')
        else none :: decodeFrom none rest'
    else (if b < 0x80 then some (Char.ofNat b.toNat) else none) :: decodeFrom none rest
  | some s, b :: rest =>
    match sixBits? (Char.ofNat b.toNat) with
    | some six =>
      let (glyphs, s) := s.add six
      glyphs ++ decodeFrom (some s) rest
    | none =>
      if s.isCut then none :: decodeFrom none rest
      else if b < 0x80 then
        (if s.half.isSome then [some '\uFFFD'] else []) ++
          (if b = 0x2D then [] else [some (Char.ofNat b.toNat)]) ++ decodeFrom none rest
      else none :: decodeFrom none rest

/-- Decodes bytes. -/
def decode (bytes : List UInt8) : Glyphs :=
  decodeFrom none bytes

end Phrasing.Charset.Utf7
