import Phrasing.Deflate.Block

/-!
# Envelopes of compressed data

Compressed data travels bare or in one of two envelopes, each with a head before the data and checks after it.
Data that ends too early is expanded as far as it goes; checks are made on what is there.
-/

namespace Phrasing.Deflate

/-! ### Checks -/

/-- The sum of bytes, and the sum of all such sums on the way, each below 65521. -/
def adlerSum (bytes : Array UInt8) : Nat :=
  let (a, b) := bytes.foldl (fun (a, b) byte =>
    let a := (a + byte.toNat) % 65521
    (a, (b + a) % 65521)) (1, 0)
  b * 65536 + a

/-- One bit of the division that a cyclic check is the remainder of. -/
def divideBit (n : UInt32) : UInt32 :=
  if n &&& 1 = 1 then (n >>> 1) ^^^ 0xEDB88320 else n >>> 1

/-- The cyclic check after one more byte. -/
def cyclicStep (check : UInt32) (byte : UInt8) : UInt32 :=
  (List.range 8).foldl (fun n _ => divideBit n) (check ^^^ byte.toUInt32)

/-- The cyclic check of bytes. -/
def cyclicCheck (bytes : Array UInt8) : Nat :=
  ((bytes.foldl cyclicStep 0xFFFFFFFF) ^^^ 0xFFFFFFFF).toNat

/-- Bytes as one number, the first the highest. -/
def highFirst (bytes : List UInt8) : Nat :=
  bytes.foldl (fun n b => 256 * n + b.toNat) 0

/-! ### Heads -/

/-- The head of an envelope with a sum.  A dictionary that the data asks for is not there. -/
def takeSummedHead : Read Unit := do
  let method ← take 8
  let flags ← take 8
  if (256 * method + flags) % 31 ≠ 0 then broken "incorrect header check"
  if method % 16 ≠ 8 then broken "unknown compression method"
  if 7 < method / 16 then broken "invalid window size"
  if flags / 32 % 2 = 1 then
    let _ ← take 32
    throw .noDictionary

/-- Bytes up to a zero, which is the last of them. -/
def takeName : (fuel : Nat) → Read (List UInt8)
  | 0 => throw .ended
  | fuel + 1 => do
    let b := UInt8.ofNat (← take 8)
    if b = 0 then return [b]
    return b :: (← takeName fuel)

/-- The fields of a head with a cyclic check that its flags announce. -/
def takeFields (flags : Nat) : Read (List UInt8) := do
  let mut fields := []
  if flags / 4 % 2 = 1 then
    let size ← takeAll 2
    fields := size ++ (← takeAll (highFirst size.reverse))
  if flags / 8 % 2 = 1 then
    fields := fields ++ (← takeName ((← get).length + 1))
  if flags / 16 % 2 = 1 then
    fields := fields ++ (← takeName ((← get).length + 1))
  return fields

/-- The head of an envelope with a cyclic check. -/
def takeCheckedHead : Read Unit := do
  let magic ← takeAll 2
  if magic ≠ [0x1F, 0x8B] then broken "incorrect header check"
  let kind ← takeAll 2
  let flags := (kind[1]?.getD 0).toNat
  if kind[0]? ≠ some 8 then broken "unknown compression method"
  if 32 ≤ flags then broken "unknown header flags set"
  let time ← takeAll 6
  let fields ← takeFields flags
  if flags / 2 % 2 = 1 then
    let check ← take 16
    if check ≠ cyclicCheck (magic ++ kind ++ time ++ fields).toArray % 65536 then broken "header crc mismatch"

/-! ### Tails -/

/-- The sum after the data. -/
def takeSummedTail (out : Array UInt8) : Read Unit := do
  align
  if highFirst (← takeAll 4) ≠ adlerSum out then broken "incorrect data check"

/-- The cyclic check and the size after the data. -/
def takeCheckedTail (out : Array UInt8) : Read Unit := do
  align
  if (← take 32) ≠ cyclicCheck out then broken "incorrect data check"
  if (← take 32) ≠ out.size % Nat.pow 2 32 then broken "incorrect length check"

/-! ### Opening -/

/-- The kinds of envelopes. -/
inductive Envelope where
  | bare
  /-- With a sum of all bytes. -/
  | summed
  /-- With a cyclic check and the size. -/
  | checked
  deriving DecidableEq, Repr

/-- The head of an envelope. -/
def Envelope.head : Envelope → Read Unit
  | .bare => return
  | .summed => takeSummedHead
  | .checked => takeCheckedHead

/-- The tail of an envelope after some output. -/
def Envelope.tail : Envelope → Array UInt8 → Read Unit
  | .bare, _ => return
  | .summed, out => takeSummedTail out
  | .checked, out => takeCheckedTail out

/-- What is in an envelope as far as the data goes, or why it cannot be opened. -/
def Envelope.contents (e : Envelope) (bytes : List UInt8) : Except Stop (List UInt8) :=
  let cut (out : Array UInt8) : Stop → Except Stop (List UInt8)
    | .ended => .ok out.toList
    | stop => .error stop
  match e.head.run (bitsOf bytes) with
  | .error stop => cut #[] stop
  | .ok ((), bits) =>
    match inflate bits with
    | (out, .error stop) => cut out stop
    | (out, .ok bits) =>
      match (e.tail out).run bits with
      | .error stop => cut out stop
      | .ok _ => .ok out.toList

end Phrasing.Deflate
