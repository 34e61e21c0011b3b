/-!
# Bits of compressed data

Compressed data is a sequence of bits, those of a byte from the lowest to the highest.  A reader stops where
the bits end or where they break the rules of the format.
-/

namespace Phrasing.Deflate

/-- Why a reader stopped. -/
inductive Stop where
  /-- The data ends here; what was read before it counts. -/
  | ended
  | broken (reason : String)
  /-- The data needs a dictionary that is not there. -/
  | noDictionary
  deriving DecidableEq, Repr

/-- A failure in words. -/
def Stop.text : Stop → String
  | .ended => "Error -5 while decompressing data: incomplete or truncated stream"
  | .broken reason => "Error -3 while decompressing data: " ++ reason
  | .noDictionary => "Error 2 while decompressing data"

/-- A reader of bits. -/
abbrev Read (α : Type) := StateT (List Bool) (Except Stop) α

/-- Stops at data that breaks the rules. -/
def broken {α : Type} (reason : String) : Read α :=
  throw (.broken reason)

/-- The bits of a byte. -/
def bitsOfByte (b : UInt8) : List Bool :=
  (List.range 8).map b.toNat.testBit

/-- The bits of bytes. -/
def bitsOf (bytes : List UInt8) : List Bool :=
  bytes.flatMap bitsOfByte

/-- A number of so many bits at the start of others, the lowest one first. -/
def numberOf? : Nat → List Bool → Option (Nat × List Bool)
  | 0, bits => some (0, bits)
  | _ + 1, [] => none
  | n + 1, b :: rest => (numberOf? n rest).map fun (v, rest) => (2 * v + b.toNat, rest)

/-- Reads a number of so many bits. -/
def take (n : Nat) : Read Nat := do
  match numberOf? n (← get) with
  | some (v, rest) =>
    set rest
    return v
  | none => throw .ended

/-- Passes over the bits before the next whole byte. -/
def align : Read Unit :=
  modify fun bits => bits.drop (bits.length % 8)

/-- Reads so many bytes. -/
def takeAll : Nat → Read (List UInt8)
  | 0 => return []
  | n + 1 => do
    let b ← take 8
    return UInt8.ofNat b :: (← takeAll n)

/-- The bytes at the start of bits, whole ones only and at most so many, and the bits after them. -/
def bytesOf : Nat → List Bool → List UInt8 × List Bool
  | 0, bits => ([], bits)
  | n + 1, bits =>
    match numberOf? 8 bits with
    | some (b, rest) =>
      let (bytes, rest) := bytesOf n rest
      (UInt8.ofNat b :: bytes, rest)
    | none => ([], bits)

end Phrasing.Deflate
