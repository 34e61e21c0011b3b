import Phrasing.Number.Binary64

/-!
# Sums and products

The sum and the product of two floating-point numbers: the exact result on the units of 2^-1074, rounded to
the nearest number.
-/

namespace Phrasing.Binary64

/-- The magnitude with the other sign. -/
def negate : Binary64 → Binary64
  | .nan => .nan
  | .infinite negative => .infinite (!negative)
  | .finite negative rank => .finite (!negative) rank

/-- A finite number in units of 2^-1074. -/
def signedUnits (negative : Bool) (rank : Nat) : Int :=
  if negative then -(units rank : Int) else units rank

/-- The sum of two numbers. -/
def plus : Binary64 → Binary64 → Binary64
  | .nan, _ | _, .nan => .nan
  | .infinite a, .infinite b => if a = b then .infinite a else .nan
  | .infinite a, _ | _, .infinite a => .infinite a
  | .finite a m, .finite b n =>
    let sum := signedUnits a m + signedUnits b n
    ofRatio (if sum = 0 then a && b else sum < 0) sum.natAbs (Nat.pow 2 1074)

/-- The product of two numbers. -/
def times : Binary64 → Binary64 → Binary64
  | .nan, _ | _, .nan => .nan
  | .infinite a, .infinite b => .infinite (a != b)
  | .infinite a, .finite b n | .finite b n, .infinite a => if n.val = 0 then .nan else .infinite (a != b)
  | .finite a m, .finite b n => ofRatio (a != b) (units m * units n) (Nat.pow 2 2148)

end Phrasing.Binary64
