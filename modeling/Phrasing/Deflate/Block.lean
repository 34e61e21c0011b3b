import Phrasing.Deflate.Code

/-!
# Blocks of compressed data

Data comes in blocks: bytes as they are, or symbols in a code that is fixed or stands before them.  A symbol
is a byte, the end of the block, or the length of a stretch that repeats bytes from some distance back.
`inflate` expands blocks as far as the data goes.
-/

namespace Phrasing.Deflate

/-- The shortest stretch of each length symbol, with the number of further bits. -/
def stretches : List (Nat × Nat) := [
  (3, 0), (4, 0), (5, 0), (6, 0), (7, 0), (8, 0), (9, 0), (10, 0), (11, 1), (13, 1), (15, 1), (17, 1),
  (19, 2), (23, 2), (27, 2), (31, 2), (35, 3), (43, 3), (51, 3), (59, 3), (67, 4), (83, 4), (99, 4), (115, 4),
  (131, 5), (163, 5), (195, 5), (227, 5), (258, 0)]

/-- The shortest distance of each distance symbol, with the number of further bits. -/
def distances : List (Nat × Nat) := [
  (1, 0), (2, 0), (3, 0), (4, 0), (5, 1), (7, 1), (9, 2), (13, 2), (17, 3), (25, 3), (33, 4), (49, 4),
  (65, 5), (97, 5), (129, 6), (193, 6), (257, 7), (385, 7), (513, 8), (769, 8), (1025, 9), (1537, 9),
  (2049, 10), (3073, 10), (4097, 11), (6145, 11), (8193, 12), (12289, 12), (16385, 13), (24577, 13)]

/-- The two codes of a block: one for bytes and lengths, one for distances. -/
structure Codes where
  symbols : Code
  distances : Code

/-- The codes of a block that brings none. -/
def fixedCodes : Codes :=
  let lengths := List.replicate 144 8 ++ List.replicate 112 9 ++ List.replicate 24 7 ++ List.replicate 8 8
  ⟨(Code.ofLengths? true lengths).getD ⟨[]⟩, (Code.ofLengths? true (List.replicate 32 5)).getD ⟨[]⟩⟩

/-! ### Codes that stand before a block -/

/-- The order in which the lengths of the code for lengths are written. -/
def lengthOrder : List Nat := [16, 17, 18, 0, 8, 7, 9, 6, 10, 5, 11, 4, 12, 3, 13, 2, 14, 1, 15]

/-- So many numbers of three bits. -/
def takeTriples : Nat → Read (List Nat)
  | 0 => return []
  | n + 1 => do
    let v ← take 3
    return v :: (← takeTriples n)

/-- What a symbol of the code for lengths stands for after the lengths read so far, the last one first: how
often which length follows. -/
def repetition (read : List Nat) (symbol : Nat) : Read (Nat × Nat) := do
  if symbol < 16 then return (1, symbol)
  else if symbol = 16 then
    let n ← take 2
    match read with
    | [] => broken "invalid bit length repeat"
    | last :: _ => return (3 + n, last)
  else if symbol = 17 then return (3 + (← take 3), 0)
  else return (11 + (← take 7), 0)

/-- Reads lengths until there are enough; `read` are those read so far, the last one first. -/
def takeLengths (code : Code) (count : Nat) : (fuel : Nat) → (read : List Nat) → Read (List Nat)
  | 0, _ => throw .ended
  | fuel + 1, read => do
    if count ≤ read.length then return read.reverse
    let symbol ← code.symbol
    let (n, length) ← repetition read (symbol.getD 0)
    if count < read.length + n then broken "invalid bit length repeat"
    else takeLengths code count fuel (List.replicate n length ++ read)

/-- The code that lengths make, or the rule that they break. -/
def codeOf (exact : Bool) (lengths : List Nat) (reason : String) : Read Code :=
  match Code.ofLengths? exact lengths with
  | some code => return code
  | none => broken reason

/-- The codes that stand before a block. -/
def takeCodes : Read Codes := do
  let symbols := (← take 5) + 257
  let distances := (← take 5) + 1
  let triples := (← take 4) + 4
  if 286 < symbols ∨ 30 < distances then broken "too many length or distance symbols"
  let places := lengthOrder.zip (← takeTriples triples)
  let lengthOf (symbol : Nat) : Nat := (places.lookup symbol).getD 0
  let code ← codeOf true ((List.range 19).map lengthOf) "invalid code lengths set"
  let all ← takeLengths code (symbols + distances) (symbols + distances + 1) []
  if all[256]? = some 0 then broken "invalid code -- missing end-of-block"
  let first ← codeOf false (all.take symbols) "invalid literal/lengths set"
  let second ← codeOf false (all.drop symbols) "invalid distances set"
  return ⟨first, second⟩

/-! ### The contents of a block -/

/-- Repeats so many bytes from a distance back. -/
def repeatBytes (out : Array UInt8) (distance : Nat) : Nat → Array UInt8
  | 0 => out
  | n + 1 => repeatBytes (out.push (out[out.size - distance]?.getD 0)) distance n

/-- A number that is given by its least value and further bits. -/
def takeFrom (table : List (Nat × Nat)) (i : Nat) (reason : String) : Read Nat := do
  match table[i]? with
  | none => broken reason
  | some (least, extra) => return least + (← take extra)

/-- What comes next in a block after some output: more output, or nothing at the end of the block. -/
def takeItem (codes : Codes) (out : Array UInt8) : Read (Option (Array UInt8)) := do
  match ← codes.symbols.symbol with
  | none => broken "invalid literal/length code"
  | some symbol =>
    if symbol < 256 then return some (out.push (UInt8.ofNat symbol))
    else if symbol = 256 then return none
    else
      let length ← takeFrom stretches (symbol - 257) "invalid literal/length code"
      match ← codes.distances.symbol with
      | none => broken "invalid distance code"
      | some symbol =>
        let distance ← takeFrom distances symbol "invalid distance code"
        if out.size < distance then broken "invalid distance too far back"
        else return some (repeatBytes out distance length)

/-- Output, and the bits after it or why there is no more. -/
abbrev Expanded := Array UInt8 × Except Stop (List Bool)

/-- Expands the contents of a block. -/
def expandItems (codes : Codes) : (fuel : Nat) → Array UInt8 → List Bool → Expanded
  | 0, out, _ => (out, .error .ended)
  | fuel + 1, out, bits =>
    match (takeItem codes out).run bits with
    | .error stop => (out, .error stop)
    | .ok (none, bits) => (out, .ok bits)
    | .ok (some out, bits) => expandItems codes fuel out bits

/-- The size of a block of bytes as they are. -/
def takeSize : Read Nat := do
  align
  let size ← take 16
  let check ← take 16
  if size + check ≠ 0xFFFF then broken "invalid stored block lengths"
  return size

/-- Expands a block of bytes as they are. -/
def expandStored (out : Array UInt8) (bits : List Bool) : Expanded :=
  match takeSize.run bits with
  | .error stop => (out, .error stop)
  | .ok (size, bits) =>
    let (bytes, bits) := bytesOf size bits
    (out ++ bytes.toArray, if bytes.length < size then .error .ended else .ok bits)

/-- Expands a block of the kind that two bits name. -/
def expandBlock (kind : Nat) (out : Array UInt8) (bits : List Bool) : Expanded :=
  match kind with
  | 0 => expandStored out bits
  | 1 => expandItems fixedCodes (bits.length + 1) out bits
  | 2 =>
    match takeCodes.run bits with
    | .error stop => (out, .error stop)
    | .ok (codes, bits) => expandItems codes (bits.length + 1) out bits
  | _ => (out, .error (.broken "invalid block type"))

/-- What a block starts with: whether it is the last one, and its kind. -/
def takeBlockHead : Read (Nat × Nat) := do
  let bits ← take 3
  return (bits % 2, bits / 2)

/-- Expands blocks up to the last one. -/
def expandBlocks : (fuel : Nat) → Array UInt8 → List Bool → Expanded
  | 0, out, _ => (out, .error .ended)
  | fuel + 1, out, bits =>
    match takeBlockHead.run bits with
    | .error stop => (out, .error stop)
    | .ok ((last, kind), bits) =>
      match expandBlock kind out bits with
      | (out, .ok bits) => if last = 1 then (out, .ok bits) else expandBlocks fuel out bits
      | ended => ended

/-- Expands compressed data. -/
def inflate (bits : List Bool) : Expanded :=
  expandBlocks (bits.length + 1) #[] bits

end Phrasing.Deflate
