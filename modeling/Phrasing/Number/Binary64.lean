/-!
# Binary floating-point numbers of 64 bits

The finite magnitudes of the format, in ascending order, are numbered by their *rank*: rank 0 is zero,
ranks below 2^52 are the subnormal numbers, and every further 2^52 ranks double the spacing.  A rank
therefore determines its magnitude as a significand times a power of two (`significand`, `exponent`),
and the neighbours of a number are the neighbouring ranks.  `ofRatio` rounds a quotient to the nearest
rank, a tie to the even one.
-/

namespace Phrasing

/-- How many magnitudes are finite. -/
def finiteRanks : Nat := 2047 * Nat.pow 2 52

/-- A number of the format. -/
inductive Binary64 where
  | nan
  | infinite (negative : Bool)
  | finite (negative : Bool) (rank : Fin finiteRanks)
  deriving DecidableEq, Repr

namespace Binary64

/-- The significand of a rank. -/
def significand (rank : Nat) : Nat :=
  if rank < Nat.pow 2 52 then rank else Nat.pow 2 52 + rank % Nat.pow 2 52

/-- How often the spacing of the subnormal numbers, 2^-1074, is doubled at a rank. -/
def doublings (rank : Nat) : Nat :=
  rank / Nat.pow 2 52 - 1

/-- The magnitude of a rank in units of 2^-1074. -/
def units (rank : Nat) : Nat :=
  significand rank * Nat.pow 2 (doublings rank)

/-- The number of that rank, infinite past the last finite one. -/
def ofRank (negative : Bool) (rank : Nat) : Binary64 :=
  if h : rank < finiteRanks then .finite negative ⟨rank, h⟩ else .infinite negative

/-- A quotient rounded to the nearest integer, a tie to the even one. -/
def roundDiv (num den : Nat) : Nat :=
  let q := num / den
  let r := 2 * (num % den)
  if r < den then q else if den < r then q + 1 else q + q % 2

/-- The number nearest to `num / den`, a tie going to the even rank. -/
def ofRatio (negative : Bool) (num den : Nat) : Binary64 :=
  -- In units of 2^-1074 the quotient has about this many bits more than the 53 that are kept.
  let scaled := num * Nat.pow 2 1074
  let bits := (scaled / den).log2
  let shift := bits - 52
  ofRank negative (shift * Nat.pow 2 52 + roundDiv scaled (den * Nat.pow 2 shift))

/-- The number nearest to an integer. -/
def ofInt (n : Int) : Binary64 :=
  ofRatio (n < 0) n.natAbs 1

/-- A number other than the infinities and the one that is not a number. -/
def isFinite : Binary64 → Bool
  | .finite _ _ => true
  | _ => false

/-- Zero of either sign. -/
def isZero : Binary64 → Bool
  | .finite _ rank => rank.val == 0
  | _ => false

/-- Positive zero. -/
def zero : Binary64 := ofRank false 0

/-- Equality of numbers: zeros are equal whatever their sign, and what is not a number equals nothing. -/
def same : Binary64 → Binary64 → Bool
  | .nan, _ => false
  | _, .nan => false
  | x, y => x == y || (x.isZero && y.isZero)

/-- Whether a number is exactly an integer. -/
def sameInt (n : Int) : Binary64 → Bool
  | .finite negative rank =>
    n.natAbs * Nat.pow 2 1074 == units rank && (n == 0 || negative == decide (n < 0))
  | _ => false

end Binary64

end Phrasing
