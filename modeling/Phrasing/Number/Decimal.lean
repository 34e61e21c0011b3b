import Phrasing.Number.Binary64
import Phrasing.Text.Blank
import Phrasing.Text.DecimalDigit

/-!
# Decimal texts of floating-point numbers

`Binary64.shortest` finds the fewest decimal digits that read back as a number, the nearest such
decimal among those, and `Binary64.text` writes them: positionally while the decimal exponent lies in
-4 … 15 and in scientific form otherwise.  `Binary64.ofDecimal` reads a decimal with correct rounding,
and `Binary64.read?` reads a free text: blanks around it, single underscores between digits, digits of
any script, and the names of infinity and of what is not a number.
-/

namespace Phrasing.Binary64

open Phrasing.Text

/-! ### Writing -/

/-- Compares `a * 10^k` with `b` for an integer exponent: `a * 10^k ≤ b`. -/
def scaledLe (a : Nat) (k : Int) (b : Nat) : Bool :=
  match k with
  | .ofNat k => a * Nat.pow 10 k ≤ b
  | .negSucc k => a ≤ b * Nat.pow 10 (k + 1)

/-- Compares `b` with `a * 10^k` for an integer exponent: `b ≤ a * 10^k`. -/
def leScaled (b a : Nat) (k : Int) : Bool :=
  match k with
  | .ofNat k => b ≤ a * Nat.pow 10 k
  | .negSucc k => b * Nat.pow 10 (k + 1) ≤ a

/-- Twice the midpoint between the magnitudes of a rank and of the next one, in units. -/
def midpoint (rank : Nat) : Nat :=
  units rank + units (rank + 1)

/-- Whether `digits * 10^k` reads back as the magnitude of a positive rank: it lies between the
midpoints to the neighbours, which themselves belong to the even rank. -/
def readsBack (rank digits : Nat) (k : Int) : Bool :=
  let doubled := 2 * digits * Nat.pow 2 1074
  let low := midpoint (rank - 1)
  let high := midpoint rank
  leScaled low doubled k && scaledLe doubled k high &&
    (rank % 2 == 0 || !(scaledLe doubled k low || leScaled high doubled k))

/-- The decimal exponent of the first digit of a magnitude in units, searched from an estimate. -/
def leadingExponent (u : Nat) : Int :=
  let estimate : Int := ((u.log2 : Int) - 1074) * 30103 / 100000
  let reaches (e : Int) : Bool := scaledLe (Nat.pow 2 1074) e u
  let candidates := [estimate + 1, estimate, estimate - 1]
  (candidates.find? reaches).getD (estimate - 2)

/-- The decimals with `count` digits next to a magnitude that read back as it, nearest first. -/
def candidates (rank : Nat) (e : Int) (count : Nat) : List (Nat × Int) :=
  let u := units rank
  let k := e - count + 1
  let below := match k with
    | .ofNat k => u / (Nat.pow 2 1074 * Nat.pow 10 k)
    | .negSucc k => u * Nat.pow 10 (k + 1) / Nat.pow 2 1074
  -- The upper neighbour is nearer when the magnitude lies past the middle, or on it with an odd `below`.
  let middle := (2 * below + 1) * Nat.pow 2 1074
  let upper := leScaled (2 * u) middle k = false ||
    (scaledLe middle k (2 * u) && below % 2 == 1)
  let order := if upper then [below + 1, below] else [below, below + 1]
  (order.filter (readsBack rank · k)).map (·, k)

/-- The fewest digits of a positive rank, with the exponent of the last one. -/
def shortest (rank : Nat) : Nat × Int :=
  let e := leadingExponent (units rank)
  let found := ((List.range 17).map (· + 1)).findSome? fun count => (candidates rank e count).head?
  found.getD (0, 0)

/-- Decimal digits without the zeros at the end, which move into the exponent. -/
def normalised (digits : Nat) (k : Int) : List Char × Int :=
  let text := (toString digits).toList
  let kept := dropTrailing (· == '0') text
  (kept, k + (text.length - kept.length : Nat))

/-- A magnitude in positional or scientific form; the exponent is that of the last digit. -/
def magnitudeText (digits : List Char) (k : Int) : List Char :=
  let lead : Int := k + digits.length - 1
  if lead < -4 ∨ 16 ≤ lead then
    let fraction := digits.drop 1
    let sign := if lead < 0 then '-' else '+'
    let exponent := (toString lead.natAbs).toList
    digits.take 1 ++ (if fraction.isEmpty then [] else '.' :: fraction) ++
      ['e', sign] ++ List.replicate (2 - exponent.length) '0' ++ exponent
  else if lead < 0 then
    '0' :: '.' :: List.replicate (-lead - 1).toNat '0' ++ digits
  else
    let whole := lead.toNat + 1
    let fraction := digits.drop whole
    digits.take whole ++ List.replicate (whole - digits.length) '0' ++
      '.' :: (if fraction.isEmpty then ['0'] else fraction)

/-- The text of a number. -/
def text : Binary64 → String
  | .nan => "nan"
  | .infinite negative => if negative then "-inf" else "inf"
  | .finite negative rank =>
    let magnitude :=
      if rank.val = 0 then "0.0".toList
      else
        let (digits, k) := shortest rank
        let (kept, k) := normalised digits k
        magnitudeText kept k
    String.ofList (if negative then '-' :: magnitude else magnitude)

/-! ### Reading -/

/-- The number nearest to `digits * 10^k`.  An exponent far outside the range of the format is decided
without forming its power. -/
def ofDecimal (negative : Bool) (digits : Nat) (k : Int) : Binary64 :=
  let lead : Int := k + (toString digits).length
  if digits = 0 ∨ lead < -400 then ofRank negative 0
  else if 400 < lead then .infinite negative
  else match k with
    | .ofNat k => ofRatio negative (digits * Nat.pow 10 k) 1
    | .negSucc k => ofRatio negative digits (Nat.pow 10 (k + 1))

/-- Digits with single underscores between them, without the underscores; the rest starts where no
further digit follows. -/
def takeDigits : List Char → List Nat × List Char
  | [] => ([], [])
  | '_' :: rest => ([], '_' :: rest)
  | c :: rest =>
    match asciiDigit? c with
    | none => ([], c :: rest)
    | some d =>
      match rest with
      | '_' :: c' :: rest' =>
        if (asciiDigit? c').isSome then
          let (ds, tail) := takeDigits (c' :: rest')
          (d :: ds, tail)
        else ([d], rest)
      | rest =>
        let (ds, tail) := takeDigits rest
        (d :: ds, tail)

/-- The natural number that digits spell. -/
def ofDigits (ds : List Nat) : Nat :=
  ds.foldl (fun n d => 10 * n + d) 0

/-- An optional sign. -/
def takeSign : List Char → Bool × List Char
  | '-' :: rest => (true, rest)
  | '+' :: rest => (false, rest)
  | rest => (false, rest)

/-- Letters of ASCII in lower case. -/
def lowerAscii (cs : List Char) : List Char :=
  cs.map fun c => if 'A' ≤ c ∧ c ≤ 'Z' then Char.ofNat (c.toNat + 32) else c

/-- The exponent part of a number, which must be all that is left of the text. -/
def readExponent? : List Char → Option Int
  | [] => some 0
  | c :: rest =>
    if c = 'e' ∨ c = 'E' then
      let (negative, rest) := takeSign rest
      match takeDigits rest with
      | ([], _) => none
      | (ds, []) => some (if negative then -(ofDigits ds : Int) else ofDigits ds)
      | _ => none
    else none

/-- A number without its sign. -/
def readMagnitude? (negative : Bool) (cs : List Char) : Option Binary64 :=
  let word := lowerAscii cs
  if word = "inf".toList ∨ word = "infinity".toList then some (.infinite negative)
  else if word = "nan".toList then some .nan
  else
    let (whole, rest) := takeDigits cs
    let (fraction, rest) := match rest with
      | '.' :: rest => takeDigits rest
      | rest => ([], rest)
    if whole.isEmpty ∧ fraction.isEmpty then none
    else (readExponent? rest).map fun e =>
      ofDecimal negative (ofDigits (whole ++ fraction)) (e - fraction.length)

/-- The ASCII spelling of a free text: digits of any script become ASCII digits, and blanks outside
ASCII become spaces. -/
def asciiSpelling (cs : List Char) : List Char :=
  cs.map fun c =>
    match digitValue? c with
    | some d => Char.ofNat (d + '0'.toNat)
    | none => if 0x80 ≤ c.toNat && isBlank c then ' ' else c

/-- The blanks of ASCII other than the separators U+001C to U+001F. -/
def isAsciiSpace (c : Char) : Bool :=
  c == ' ' || (0x09 ≤ c.toNat && c.toNat ≤ 0x0D)

/-- The number a free text spells. -/
def read? (s : String) : Option Binary64 :=
  let spelled := asciiSpelling s.toList
  let (negative, rest) := takeSign (dropTrailing isAsciiSpace (spelled.dropWhile isAsciiSpace))
  readMagnitude? negative rest

end Phrasing.Binary64
