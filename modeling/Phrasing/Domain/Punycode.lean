import Phrasing.Text.Ascii

/-!
# Punycode

A text of any script written with letters, digits and hyphens: first its ASCII characters, then after the last
hyphen where the others go in, as numbers with 36 digits whose places have thresholds that adapt to the text.
-/

namespace Phrasing.Domain.Punycode

open Text

/-- How many divisions by 35 bring a number down to 455, 36 for each, and what is left. -/
def reduce (n divisions : Nat) : Nat × Nat :=
  if 455 < n then reduce (n / 35) (divisions + 36) else (n, divisions)
termination_by n
decreasing_by exact Nat.div_lt_self (by omega) (by omega)

/-- The bias after a number, for a text of so many characters. -/
def adapt (number : Nat) (first : Bool) (size : Nat) : Nat :=
  let n := if first then number / 700 else number / 2
  let (left, divisions) := reduce (n + n / size) 0
  divisions + 36 * left / (left + 38)

/-- The threshold of a place: a digit below it ends the number. -/
def threshold (bias place : Nat) : Nat :=
  min 26 (max 1 (36 * (place + 1) - bias))

/-- The value of a digit. -/
def digitValue? (c : Char) : Option Nat :=
  if c.isDigit then some (c.toNat - '0'.toNat + 26)
  else if isLetter c then some ((lowerAscii c).toNat - 'a'.toNat)
  else none

/-- The digit of a value. -/
def digit (n : Nat) : Char :=
  if n < 26 then Char.ofNat (n + 'a'.toNat) else Char.ofNat (n - 26 + '0'.toNat)

/-! ### Reading -/

/-- A text that is being read: its characters so far, the code and the place of the last one that went in, and
the number that is being read. -/
structure Reading where
  text : List Char
  code : Nat
  place : Nat
  bias : Nat
  first : Bool
  digits : Nat
  weight : Nat
  number : Nat

/-- Nothing but the ASCII characters read. -/
def Reading.start (text : List Char) : Reading :=
  ⟨text, 0x80, 0, 72, true, 0, 1, 0⟩

/-- Puts a character in where a complete number says.  A code beyond all characters becomes a question mark where
misfits pass, and half of a pair a replacement character. -/
def Reading.put? (tolerant : Bool) (r : Reading) (number : Nat) : Option Reading :=
  let place := r.place + number
  let size := r.text.length + 1
  let code := r.code + place / size
  if 0x10FFFF < code ∧ ¬ tolerant then none
  else
    let code := if 0x10FFFF < code then '?'.toNat else code
    let char := if 0xD800 ≤ code ∧ code ≤ 0xDFFF then '\uFFFD' else Char.ofNat code
    let text := r.text.take (place % size) ++ char :: r.text.drop (place % size)
    some ⟨text, code, place % size + 1, adapt number r.first text.length, false, 0, 1, 0⟩

/-- Reads the numbers after the ASCII characters.  Where misfits pass, what was read before one is the text. -/
def readNumbers? (tolerant : Bool) (r : Reading) : List Char → Option (List Char)
  | [] => if r.digits = 0 ∨ tolerant then some r.text else none
  | c :: rest =>
    match digitValue? c with
    | none => if tolerant then some r.text else none
    | some d =>
      let t := threshold r.bias r.digits
      let number := r.number + d * r.weight
      if d < t then
        match r.put? tolerant number with
        | some r => readNumbers? tolerant r rest
        | none => none
      else readNumbers? tolerant { r with digits := r.digits + 1, weight := r.weight * (36 - t), number } rest

/-- The parts before and after the last hyphen. -/
def cutAtLastHyphen (cs : List Char) : List Char × List Char :=
  if cs.contains '-' then
    let after := (cs.reverse.takeWhile (· ≠ '-')).reverse
    (cs.take (cs.length - after.length - 1), after)
  else ([], cs)

/-- The text that is written in Punycode. -/
def decode? (cs : List Char) : Option (List Char) :=
  let (plain, numbers) := cutAtLastHyphen cs
  readNumbers? false (.start plain) numbers

/-! ### Writing -/

theorem threshold_pos (bias place : Nat) : 1 ≤ threshold bias place := by
  unfold threshold; omega

/-- A number from a place on. -/
def writeNumber (bias place n : Nat) : List Char :=
  let t := threshold bias place
  if n < t then [digit n]
  else digit (t + (n - t) % (36 - t)) :: writeNumber bias (place + 1) ((n - t) / (36 - t))
termination_by n
decreasing_by
  have h₁ := threshold_pos bias place
  have h₂ := Nat.div_le_self (n - threshold bias place) (36 - threshold bias place)
  omega

/-- A text that is being written: the numbers so far, what the next one counts, the bias and the number of
characters written. -/
structure Writing where
  numbers : List Char
  count : Nat
  bias : Nat
  size : Nat

/-- Passes a character of the text while those with a code are written. -/
def Writing.pass (plain code : Nat) (w : Writing) (c : Char) : Writing :=
  if c.toNat < code then { w with count := w.count + 1 }
  else if c.toNat = code then
    ⟨w.numbers ++ writeNumber w.bias 0 w.count, 0, adapt w.count (w.size = plain) (w.size + 1), w.size + 1⟩
  else w

/-- Writes the characters with each of some codes in turn, from a code on. -/
def writeCodes (text : List Char) (plain : Nat) (w : Writing) (code : Nat) : List Nat → Writing
  | [] => w
  | n :: rest =>
    let w := { w with count := w.count + (n - code) * (w.size + 1) }
    let w := text.foldl (Writing.pass plain n) w
    writeCodes text plain { w with count := w.count + 1 } (n + 1) rest

/-- A text in Punycode. -/
def encode (text : List Char) : List Char :=
  let plain := text.filter isAscii
  let codes := ((text.filter (!isAscii ·)).map Char.toNat).mergeSort.eraseReps
  let written := writeCodes text plain.length ⟨[], 0, 72, plain.length⟩ 0x80 codes
  (if plain.isEmpty then [] else plain ++ ['-']) ++ written.numbers

end Phrasing.Domain.Punycode
