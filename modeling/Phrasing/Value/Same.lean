import Phrasing.Value.Basic

/-!
# Equality of values

Values are the same when they are of one kind and their parts are the same, where numbers and truth values
count as one kind: an integer may equal a floating-point number, and true equals one.  Mappings and sets
are compared without regard to order.
-/

namespace Phrasing

/-- The number that a scalar counts as. -/
def Scalar.asNumber? : Scalar → Option (Int ⊕ Binary64)
  | .bool b => some (.inl (if b then 1 else 0))
  | .int n => some (.inl n)
  | .float x => some (.inr x)
  | _ => none

/-- Equality of scalars. -/
def Scalar.same (a b : Scalar) : Bool :=
  match a.asNumber?, b.asNumber? with
  | some (.inl m), some (.inl n) => m == n
  | some (.inl n), some (.inr x) | some (.inr x), some (.inl n) => x.sameInt n
  | some (.inr x), some (.inr y) => x.same y
  | none, none =>
    match a, b with
    | .timestamp s, .timestamp t => s.same t
    | a, b => a == b
  | _, _ => false

mutual

/-- Equality of values. -/
def Value.same : Value → Value → Bool
  | .scalar a, .scalar b => a.same b
  | .list xs, .list ys => sameItems xs ys
  | .tuple xs, .tuple ys => sameItems xs ys
  | .set xs, .set ys => xs.length == ys.length && allAmong xs ys
  | .mapping es, .mapping fs => es.length == fs.length && entriesAmong es fs
  | .record as, .record bs => as.length == bs.length && attributesAmong as bs
  | _, _ => false

/-- Equality of items one by one. -/
def sameItems : List Value → List Value → Bool
  | [], [] => true
  | x :: xs, y :: ys => x.same y && sameItems xs ys
  | _, _ => false

/-- Every item is among others. -/
def allAmong : List Value → List Value → Bool
  | [], _ => true
  | x :: xs, ys => ys.any (fun y => x.same y) && allAmong xs ys

/-- Every entry is among others. -/
def entriesAmong : List (Scalar × Value) → List (Scalar × Value) → Bool
  | [], _ => true
  | (k, v) :: es, fs => fs.any (fun (l, w) => k.same l && v.same w) && entriesAmong es fs

/-- Every attribute is among others. -/
def attributesAmong : List (String × Value) → List (String × Value) → Bool
  | [], _ => true
  | (k, v) :: as, bs => bs.any (fun (l, w) => k == l && v.same w) && attributesAmong as bs

end

end Phrasing
