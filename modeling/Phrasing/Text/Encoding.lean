import Phrasing.Text.Quoted

/-!
# Encodings

Texts arrive as bytes.  Each decoder here yields characters and, where the bytes fit no character, a
`Misfit` that says which bytes and why.  A strict reader stops at the first misfit, a tolerant one puts a
replacement character in its place.
-/

namespace Phrasing.Text

/-- Bytes that stand for no character, by the place of the first and the last. -/
structure Misfit where
  first : Nat
  last : Nat
  byte : UInt8
  reason : String
  deriving DecidableEq, Repr

/-- A character, or bytes that stand for none. -/
abbrev Decoded := Except Misfit Char

/-- The encodings of Unicode, and the two sets that are the start of it. -/
inductive Encoding where
  | ascii
  | latin1
  | utf8
  /-- UTF-8 whose byte order mark, if there is one, is not part of the text. -/
  | utf8Signed
  | utf16 (bigEndian : Bool)
  /-- UTF-16 in the order that its byte order mark says, little-endian without one. -/
  | utf16Marked
  | utf32 (bigEndian : Bool)
  | utf32Marked
  deriving DecidableEq, Repr

/-- A continuation byte of UTF-8. -/
def isContinuation (b : UInt8) : Bool :=
  0x80 ≤ b && b ≤ 0xBF

/-- What a lead byte promises: how many bytes follow, the range of the next one, and its own bits. -/
def leadByte? (b : UInt8) : Option (Nat × UInt8 × UInt8 × Nat) :=
  let n := b.toNat
  if 0xC2 ≤ n ∧ n ≤ 0xDF then some (1, 0x80, 0xBF, n - 0xC0)
  else if n = 0xE0 then some (2, 0xA0, 0xBF, 0)
  else if n = 0xED then some (2, 0x80, 0x9F, 0xD)
  else if 0xE1 ≤ n ∧ n ≤ 0xEF then some (2, 0x80, 0xBF, n - 0xE0)
  else if n = 0xF0 then some (3, 0x90, 0xBF, 0)
  else if n = 0xF4 then some (3, 0x80, 0x8F, 4)
  else if 0xF1 ≤ n ∧ n ≤ 0xF3 then some (3, 0x80, 0xBF, n - 0xF0)
  else none

/-- The reason for a misfit whose bytes end too early. -/
def unfinished : String := "unexpected end of data"

/-- The reason for a misfit whose bytes are followed by one that cannot go on. -/
def notContinued : String := "invalid continuation byte"

/-- How the bytes after a lead byte come out: the code point, or how many of them fit and why no more. -/
def continuation (low high : UInt8) (bits taken : Nat) : Nat → List UInt8 → Except (Nat × String) Nat
  | 0, _ => .ok bits
  | _ + 1, [] => .error (taken, unfinished)
  | more + 1, b :: rest =>
    if low ≤ b ∧ b ≤ high then
      continuation 0x80 0xBF (bits * 64 + (b.toNat - 0x80)) (taken + 1) more rest
    else .error (taken, notContinued)

/-- Three bytes that would spell half of a surrogate pair. -/
def spellsHalf (lead : UInt8) (rest : List UInt8) : Bool :=
  match rest with
  | b :: c :: _ => lead == 0xED && 0xA0 ≤ b && b ≤ 0xBF && isContinuation c
  | _ => false

/-- Decodes UTF-8 from a place on.  Bytes that belong to an item already reported are skipped.  With
`halves`, half of a surrogate pair passes as a replacement character. -/
def utf8From (halves : Bool) (pos : Nat) (skip : Nat) : List UInt8 → List Decoded
  | [] => []
  | b :: rest =>
    match skip with
    | more + 1 => utf8From halves (pos + 1) more rest
    | 0 =>
      if b < 0x80 then .ok (Char.ofNat b.toNat) :: utf8From halves (pos + 1) 0 rest
      else if halves && spellsHalf b rest then .ok '\uFFFD' :: utf8From halves (pos + 1) 2 rest
      else
        match leadByte? b with
        | none => .error ⟨pos, pos, b, "invalid start byte"⟩ :: utf8From halves (pos + 1) 0 rest
        | some (count, low, high, bits) =>
          match continuation low high bits 0 count rest with
          | .ok n => .ok (Char.ofNat n) :: utf8From halves (pos + 1) count rest
          | .error (taken, reason) =>
            .error ⟨pos, pos + taken, b, reason⟩ :: utf8From halves (pos + 1) taken rest

/-- The number that two bytes form. -/
def pair (bigEndian : Bool) (a b : UInt8) : Nat :=
  if bigEndian then a.toNat * 256 + b.toNat else b.toNat * 256 + a.toNat

/-- The high half of a pair of UTF-16 units. -/
def isHighSurrogate (n : Nat) : Bool := 0xD800 ≤ n && n ≤ 0xDBFF

/-- The low half of a pair of UTF-16 units. -/
def isLowSurrogate (n : Nat) : Bool := 0xDC00 ≤ n && n ≤ 0xDFFF

/-- The character of a pair of UTF-16 units. -/
def joinSurrogates (high low : Nat) : Char :=
  Char.ofNat (0x10000 + (high - 0xD800) * 0x400 + (low - 0xDC00))

/-- Half of a surrogate pair as a misfit, or as a replacement character where halves pass. -/
def halfItem (halves : Bool) (misfit : Misfit) : Decoded :=
  if halves then .ok '\uFFFD' else .error misfit

/-- Decodes UTF-16 from a place on. -/
def utf16From (halves bigEndian : Bool) (pos : Nat) : List UInt8 → List Decoded
  | [] => []
  | [b] => [.error ⟨pos, pos, b, "truncated data"⟩]
  | a :: b :: rest =>
    let n := pair bigEndian a b
    if isHighSurrogate n then
      match rest with
      | c :: d :: rest' =>
        let m := pair bigEndian c d
        if isLowSurrogate m then .ok (joinSurrogates n m) :: utf16From halves bigEndian (pos + 4) rest'
        else halfItem halves ⟨pos, pos + 1, a, "illegal UTF-16 surrogate"⟩ ::
          utf16From halves bigEndian (pos + 2) (c :: d :: rest')
      | rest =>
        halfItem halves ⟨pos, pos + 1 + rest.length, a, unfinished⟩ ::
          (if halves then utf16From halves bigEndian (pos + 2) rest else [])
    else if isLowSurrogate n then
      halfItem halves ⟨pos, pos + 1, a, "illegal encoding"⟩ ::
        utf16From halves bigEndian (pos + 2) rest
    else .ok (Char.ofNat n) :: utf16From halves bigEndian (pos + 2) rest

/-- Decodes UTF-32 from a place on. -/
def utf32From (halves bigEndian : Bool) (pos : Nat) : List UInt8 → List Decoded
  | [] => []
  | a :: b :: c :: d :: rest =>
    let n :=
      if bigEndian then pair true a b * 65536 + pair true c d
      else pair false c d * 65536 + pair false a b
    let item : Decoded :=
      if 0x110000 ≤ n then .error ⟨pos, pos + 3, a, "code point not in range(0x110000)"⟩
      else if 0xD800 ≤ n ∧ n ≤ 0xDFFF then
        halfItem halves ⟨pos, pos + 3, a, "code point in surrogate code point range"⟩
      else .ok (Char.ofNat n)
    item :: utf32From halves bigEndian (pos + 4) rest
  | b :: rest => [.error ⟨pos, pos + rest.length, b, "truncated data"⟩]

/-- Decodes an encoding with one byte for every character. -/
def bytewise (decode : UInt8 → Option Char) (reason : String) (bytes : List UInt8) : List Decoded :=
  (bytes.zipIdx).map fun (b, i) =>
    match decode b with
    | some c => .ok c
    | none => .error ⟨i, i, b, reason⟩

namespace Encoding

/-- The characters and misfits of bytes. -/
def decode (halves : Bool) (bytes : List UInt8) : Encoding → List Decoded
  | .ascii =>
    bytewise (fun b => if b < 0x80 then some (Char.ofNat b.toNat) else none)
      "ordinal not in range(128)" bytes
  | .latin1 => bytewise (fun b => some (Char.ofNat b.toNat)) "" bytes
  | .utf8 => utf8From halves 0 0 bytes
  | .utf8Signed =>
    match bytes with
    | 0xEF :: 0xBB :: 0xBF :: rest => utf8From halves 0 0 rest
    | bytes => utf8From halves 0 0 bytes
  | .utf16 bigEndian => utf16From halves bigEndian 0 bytes
  | .utf16Marked =>
    match bytes with
    | 0xFE :: 0xFF :: rest => utf16From halves true 2 rest
    | 0xFF :: 0xFE :: rest => utf16From halves false 2 rest
    | bytes => utf16From halves false 0 bytes
  | .utf32 bigEndian => utf32From halves bigEndian 0 bytes
  | .utf32Marked =>
    match bytes with
    | 0x00 :: 0x00 :: 0xFE :: 0xFF :: rest => utf32From halves true 4 rest
    | 0xFF :: 0xFE :: 0x00 :: 0x00 :: rest => utf32From halves false 4 rest
    | bytes => utf32From halves false 0 bytes

/-- The name under which an encoding reports misfits in these bytes. -/
def reportName (bytes : List UInt8) : Encoding → String
  | .ascii => "ascii"
  | .latin1 => "latin-1"
  | .utf8 | .utf8Signed => "utf-8"
  | .utf16 true => "utf-16-be"
  | .utf16 false => "utf-16-le"
  | .utf16Marked => if bytes.take 2 = [0xFE, 0xFF] then "utf-16-be" else "utf-16-le"
  | .utf32 true => "utf-32-be"
  | .utf32 false => "utf-32-le"
  | .utf32Marked => if bytes.take 4 = [0x00, 0x00, 0xFE, 0xFF] then "utf-32-be" else "utf-32-le"

/-- The text of bytes with a replacement character for every misfit. -/
def decodeTolerant (e : Encoding) (bytes : List UInt8) : List Char :=
  (e.decode false bytes).map fun
    | .ok c => c
    | .error _ => '\uFFFD'

/-- The text of bytes, or the first misfit. -/
def decodeStrict (e : Encoding) (halves : Bool) (bytes : List UInt8) : Except Misfit (List Char) :=
  (e.decode halves bytes).mapM id

/-- A misfit in words. -/
def report (e : Encoding) (bytes : List UInt8) (m : Misfit) : String :=
  let place :=
    if m.first = m.last then
      "byte 0x" ++ String.ofList (hexDigits 2 m.byte.toNat) ++ " in position " ++ toString m.first
    else "bytes in position " ++ toString m.first ++ "-" ++ toString m.last
  "'" ++ e.reportName bytes ++ "' codec can't decode " ++ place ++ ": " ++ m.reason

end Encoding

/-- The bytes of a text in UTF-8. -/
def utf8Bytes (s : String) : List UInt8 :=
  s.toUTF8.toList

end Phrasing.Text
