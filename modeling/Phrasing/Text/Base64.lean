/-!
# Base 64

Bytes written with 64 characters, six bits each.  Other characters are skipped; padding that completes a group
of four ends the text.
-/

namespace Phrasing.Text

/-- The six bits of a character. -/
def sixBits? (c : Char) : Option Nat :=
  if 'A' ≤ c ∧ c ≤ 'Z' then some (c.toNat - 'A'.toNat)
  else if 'a' ≤ c ∧ c ≤ 'z' then some (c.toNat - 'a'.toNat + 26)
  else if '0' ≤ c ∧ c ≤ '9' then some (c.toNat - '0'.toNat + 52)
  else if c = '+' then some 62
  else if c = '/' then some 63
  else none

/-- The bytes of a text from the character at a place in its group of four on.  `left` holds the bits not yet
written, and `pads` counts the padding since the last other character. -/
def base64From : (place left pads : Nat) → List Char → Option (List UInt8)
  | place, _, _, [] => if place = 0 then some [] else none
  | place, left, pads, c :: rest =>
    if c = '=' then
      if 2 ≤ place ∧ 4 ≤ place + pads + 1 then some []
      else base64From place left (if 2 ≤ place then pads + 1 else pads) rest
    else
      match sixBits? c with
      | none => base64From place left pads rest
      | some bits =>
        let write (kept next : Nat) : Option (List UInt8) :=
          (base64From ((place + 1) % 4) (bits % Nat.pow 2 (6 - kept)) 0 rest).map
            (UInt8.ofNat (left * Nat.pow 2 kept + bits / Nat.pow 2 next) :: ·)
        match place with
        | 0 => base64From 1 bits 0 rest
        | 1 => write 2 4
        | 2 => write 4 2
        | _ => write 6 0

/-- The bytes that a text stands for. -/
def ofBase64? (cs : List Char) : Option (List UInt8) :=
  base64From 0 0 0 cs

/-- The character of six bits. -/
def sixBitsChar (n : Nat) : Char :=
  if n < 26 then Char.ofNat (n + 'A'.toNat)
  else if n < 52 then Char.ofNat (n - 26 + 'a'.toNat)
  else if n < 62 then Char.ofNat (n - 52 + '0'.toNat)
  else if n = 62 then '+'
  else '/'

/-- The text of bytes. -/
def toBase64 : List UInt8 → List Char
  | [] => []
  | [a] =>
    let n := a.toNat
    [sixBitsChar (n / 4), sixBitsChar (n % 4 * 16), '=', '=']
  | [a, b] =>
    let n := a.toNat * 256 + b.toNat
    [sixBitsChar (n / 1024), sixBitsChar (n / 16 % 64), sixBitsChar (n % 16 * 4), '=']
  | a :: b :: c :: rest =>
    let n := (a.toNat * 256 + b.toNat) * 256 + c.toNat
    sixBitsChar (n / 262144) :: sixBitsChar (n / 4096 % 64) :: sixBitsChar (n / 64 % 64) ::
      sixBitsChar (n % 64) :: toBase64 rest

end Phrasing.Text
