import Phrasing.Text.Encoding

/-!
# Lines

A line of a file ends at a line feed, at a carriage return, or at the pair of both; whichever it was, the
line is read with a line feed at its end.  Only the last line may lack one.  A file of bytes is decoded
block by block, so that bytes which fit no character stop a reader only after the lines that earlier blocks
have completed.
-/

namespace Phrasing.Text

/-- A text with every line end written as a line feed. -/
def unifyLineEnds : List Char → List Char
  | [] => []
  | '\r' :: '\n' :: rest => '\n' :: unifyLineEnds rest
  | '\r' :: rest => '\n' :: unifyLineEnds rest
  | c :: rest => c :: unifyLineEnds rest

/-- The lines of a text whose line ends are line feeds, each with its line end. -/
def splitLines : List Char → List (List Char)
  | [] => []
  | '\n' :: rest => ['\n'] :: splitLines rest
  | c :: rest =>
    match rest, splitLines rest with
    | [], _ => [[c]]
    | _ :: _, line :: lines => (c :: line) :: lines
    | _ :: _, [] => [[c]]

/-- The lines of a file. -/
def fileLines (cs : List Char) : List (List Char) :=
  splitLines (unifyLineEnds cs)

/-- The lines that are known to be complete when more may follow: after a carriage return at the end a
line feed could come. -/
def completeLines (cs : List Char) : List (List Char) :=
  let settled := if cs.getLast? = some '\r' then cs.dropLast else cs
  (fileLines settled).filter fun line => line.getLast? = some '\n'

/-- How many bytes of a file are decoded at a time. -/
def blockSize : Nat := 8192

/-- How many bytes are decoded before a misfit is met: the blocks before its own, and where the file ends
within a character everything before that one. -/
def bytesBefore (m : Misfit) : Nat :=
  if m.reason = unfinished then m.first
  else
    let culprit := if m.reason = notContinued then m.last + 1 else m.first
    culprit / blockSize * blockSize

/-- The characters that end within the first `size` bytes of a text in UTF-8. -/
def charsWithin (size : Nat) : List Char → List Char
  | [] => []
  | c :: rest => if c.utf8Size ≤ size then c :: charsWithin (size - c.utf8Size) rest else []

/-- The lines of a file in UTF-8 as far as it can be read, and the misfit that stops the reader. -/
def linesOfBytes (bytes : List UInt8) : List (List Char) × Option Misfit :=
  match Encoding.utf8.decodeStrict false bytes with
  | .ok cs => (fileLines cs, none)
  | .error m =>
    let before := Encoding.utf8.decodeTolerant (bytes.take m.first)
    (completeLines (charsWithin (bytesBefore m) before), some m)

end Phrasing.Text
