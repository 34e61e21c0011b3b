import Phrasing.Calendar.Iso
import Phrasing.Value.Basic

/-!
# Times in YAML

A date, or a date and a time of day after the letter T or some space, with an optional fraction of the second
and an optional zone.  Month, day and hour may have one digit.
-/

namespace Phrasing.Yaml

open Calendar

/-- A date as written, or a point in time. -/
structure Time where
  parts : RawTimestamp
  hasTimeOfDay : Bool
  deriving DecidableEq, Repr

/-- A number of one or two digits. -/
def oneOrTwoDigits? (cs : List Char) : Option (Nat × List Char) :=
  (takeDigits? 2 cs).or (takeDigits? 1 cs)

/-- The text after a character. -/
def after? (c : Char) : List Char → Option (List Char)
  | [] => none
  | d :: rest => if d = c then some rest else none

/-- A space or a tabulator. -/
def isTimeGap (c : Char) : Bool := c == ' ' || c == '\t'

/-- The zone at the end of a time in microseconds, nothing for a time without one. -/
def zone? (cs : List Char) : Option (Option Int) :=
  match cs, cs.dropWhile isTimeGap with
  | [], _ => some none
  | _, ['Z'] => some (some 0)
  | _, sign :: rest =>
    if sign ≠ '+' ∧ sign ≠ '-' then none
    else do
      let (hours, rest) ← oneOrTwoDigits? rest
      let minutes ← (show Option Nat from match rest with
        | [] => some 0
        | ':' :: rest =>
          match takeDigits? 2 rest with
          | some (minutes, []) => some minutes
          | _ => none
        | _ => none)
      let amount : Int := (hours * 60 + minutes : Nat) * 60000000
      return some (if sign = '-' then -amount else amount)
  | _, [] => none

/-- The microseconds that the digits of a fraction spell; those past the sixth do not count. -/
def microseconds (digits : List Char) : Nat :=
  ((digits ++ List.replicate 6 '0').take 6).foldl (fun n c => 10 * n + (c.toNat - '0'.toNat)) 0

/-- Reads a date or a point in time. -/
def Time.read? (cs : List Char) : Option Time := do
  let (year, rest) ← takeDigits? 4 cs
  let (month, rest) ← oneOrTwoDigits? (← after? '-' rest)
  let (day, rest) ← oneOrTwoDigits? (← after? '-' rest)
  let clock ← (show Option (Option (List Char)) from match rest with
    | [] => some none
    | 'T' :: rest | 't' :: rest => some (some rest)
    | c :: rest => if isTimeGap c then some (some (rest.dropWhile isTimeGap)) else none)
  match clock with
  | none => return ⟨⟨year, month, day, 0, 0, 0, 0, none⟩, false⟩
  | some rest =>
    let (hour, rest) ← oneOrTwoDigits? rest
    let (minute, rest) ← takeDigits? 2 (← after? ':' rest)
    let (second, rest) ← takeDigits? 2 (← after? ':' rest)
    let (fraction, rest) := match rest with
      | '.' :: rest => (rest.takeWhile Char.isDigit, rest.dropWhile Char.isDigit)
      | rest => ([], rest)
    let offset ← zone? rest
    return ⟨⟨year, month, day, hour, minute, second, microseconds fraction, offset⟩, true⟩

/-- The date or the point in time, if it exists. -/
def Time.value (t : Time) : Except IsoFault Value :=
  if t.hasTimeOfDay then t.parts.check.map .timestamp
  else (checkDate t.parts.year t.parts.month t.parts.day).map .date

/-- A plain scalar that is a time: a date alone has all ten characters. -/
def spellsTime (cs : List Char) : Bool :=
  match Time.read? cs with
  | some t => t.hasTimeOfDay || cs.length == 10
  | none => false

end Phrasing.Yaml
