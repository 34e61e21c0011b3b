import Phrasing.Deflate.Bits

/-!
# Prefix codes

A code gives every symbol a length; symbols of one length follow each other, and longer ones come after
shorter ones.  `Code.ofLengths?` refuses lengths for which there are not enough words, and those that leave
words over, unless a single word of one bit is all there is.
-/

namespace Phrasing.Deflate

/-- A prefix code: for each length from one bit on the symbols with words of that length. -/
structure Code where
  levels : List (List Nat)

namespace Code

/-- The symbols with words of a length. -/
def symbolsOfLength (lengths : List Nat) (n : Nat) : List Nat :=
  lengths.zipIdx.filterMap fun (length, symbol) => if length = n then some symbol else none

/-- How many words are left over after those of each length, if there are enough. -/
def wordsLeft? : (left : Nat) → List (List Nat) → Option Nat
  | left, [] => some left
  | left, symbols :: deeper =>
    if 2 * left < symbols.length then none else wordsLeft? (2 * left - symbols.length) deeper

/-- The code in which symbols have words of these lengths, none where the length is zero.  With `exact` no word
may be left over. -/
def ofLengths? (exact : Bool) (lengths : List Nat) : Option Code :=
  let longest := lengths.foldl max 0
  let levels := ((List.range (max 1 longest)).map (· + 1)).map (symbolsOfLength lengths)
  if longest = 0 then some ⟨levels⟩
  else
    match wordsLeft? 1 levels with
    | none => none
    | some 0 => some ⟨levels⟩
    | some (_ + 1) => if exact ∨ longest ≠ 1 then none else some ⟨levels⟩

/-- Reads a word whose first bits were read before.  `word` is twice their number and `first` the first word of
the next length.  There is no symbol where no word goes on. -/
def symbolFrom : (word first : Nat) → List (List Nat) → Read (Option Nat)
  | _, _, [] => return none
  | word, first, symbols :: deeper => do
    let word := word + (← take 1)
    match symbols[word - first]? with
    | some symbol => return some symbol
    | none => symbolFrom (2 * word) (2 * (first + symbols.length)) deeper

/-- Reads the word of a symbol. -/
def symbol (code : Code) : Read (Option Nat) :=
  symbolFrom 0 0 code.levels

end Code

end Phrasing.Deflate
