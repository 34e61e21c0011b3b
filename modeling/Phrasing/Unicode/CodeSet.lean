import Phrasing.Text.Split

/-!
# Sets of code points

A property of characters is the set of code points that have it, kept as ranges in ascending order.  A set is
written down as hexadecimal numbers and ranges of them between blanks, such as `2D 30-39 61-7A`.
-/

namespace Phrasing.Unicode

open Text

/-- A set of code points: ranges with both ends, in ascending order. -/
structure CodeSet where
  ranges : Array (Nat × Nat)

/-- The value of a hexadecimal digit, zero for any other character. -/
def hexDigitValue (c : Char) : Nat :=
  if '0' ≤ c ∧ c ≤ '9' then c.toNat - '0'.toNat
  else if 'A' ≤ c ∧ c ≤ 'F' then c.toNat - 'A'.toNat + 10
  else if 'a' ≤ c ∧ c ≤ 'f' then c.toNat - 'a'.toNat + 10
  else 0

/-- The number that hexadecimal digits spell. -/
def hexNumber (cs : List Char) : Nat :=
  cs.foldl (fun n c => 16 * n + hexDigitValue c) 0

/-- The entries of a written table: what stands between blanks and line ends. -/
def tableEntries (s : String) : List (List Char) :=
  (splitAtEach ' ' (s.toList.map fun c => if c = '\n' then ' ' else c)).filter (!·.isEmpty)

/-- A range as it is written: one number, or two with a hyphen between them. -/
def rangeOf (cs : List Char) : Nat × Nat :=
  let first := hexNumber (cs.takeWhile (· ≠ '-'))
  match cs.dropWhile (· ≠ '-') with
  | _ :: last => (first, hexNumber last)
  | [] => (first, first)

namespace CodeSet

/-- The set that a text writes down. -/
def ofText (s : String) : CodeSet :=
  ⟨((tableEntries s).map rangeOf).toArray⟩

/-- Whether a code point is in one of the ranges between two places. -/
def containsBetween (ranges : Array (Nat × Nat)) (n low high : Nat) : Bool :=
  if _ : low < high then
    match ranges[(low + high) / 2]? with
    | none => false
    | some (first, last) =>
      if n < first then containsBetween ranges n low ((low + high) / 2)
      else if last < n then containsBetween ranges n ((low + high) / 2 + 1) high
      else true
  else false
termination_by high - low
decreasing_by all_goals omega

/-- Whether a character is in the set. -/
def contains (s : CodeSet) (c : Char) : Bool :=
  containsBetween s.ranges c.toNat 0 s.ranges.size

end CodeSet

/-- What a table in ascending order holds for a number, looked up between two places. -/
def findBetween? {α : Type} (table : Array (Nat × α)) (n low high : Nat) : Option α :=
  if _ : low < high then
    match table[(low + high) / 2]? with
    | none => none
    | some (m, a) =>
      if n < m then findBetween? table n low ((low + high) / 2)
      else if m < n then findBetween? table n ((low + high) / 2 + 1) high
      else some a
  else none
termination_by high - low
decreasing_by all_goals omega

end Phrasing.Unicode
