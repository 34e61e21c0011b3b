/-!
# Rows of characters

A set of characters with two bytes for each is written down in rows: the code of the first character of a row,
and the characters from there on.  U+FFFD stands where a code has no character.
-/

namespace Phrasing.Charset

/-- Characters by their codes, in rows with ascending codes. -/
structure Rows where
  rows : Array (Nat × String)

namespace Rows

/-- The rows of a list. -/
def of (rows : List (Nat × String)) : Rows :=
  ⟨rows.toArray⟩

/-- The last row that starts at a code or before it, looked for between two places. -/
def lastBetween? (rows : Array (Nat × String)) (code low high : Nat) : Option (Nat × String) :=
  if _ : low < high then
    match rows[(low + high) / 2]? with
    | none => none
    | some row =>
      if code < row.1 then lastBetween? rows code low ((low + high) / 2)
      else (lastBetween? rows code ((low + high) / 2 + 1) high).or (some row)
  else none
termination_by high - low
decreasing_by all_goals omega

/-- The character with a code. -/
def find? (t : Rows) (code : Nat) : Option Char :=
  match lastBetween? t.rows code 0 t.rows.size with
  | some (first, chars) => chars.toList[code - first]?.filter (· ≠ '\uFFFD')
  | none => none

end Rows

end Phrasing.Charset
