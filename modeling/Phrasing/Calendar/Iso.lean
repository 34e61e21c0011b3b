import Phrasing.Calendar.Timestamp
import Phrasing.Text.DecimalDigit
import Phrasing.Text.Quoted

/-!
# Dates and times as texts

`Timestamp.iso` writes the extended ISO 8601 form: seconds always, microseconds and the seconds of an
offset only where they are not zero.  `Timestamp.ofIso` reads that form and much more: dates in basic
form or by week, any single character before the time, a time of two, four or six digits with or without
colons, a fraction of any length of which six digits count, and an offset of the same make.  What it
refuses is reported by cause: a text it cannot take apart, or a number out of range.
-/

namespace Phrasing.Calendar

open Phrasing.Text

/-! ### Writing -/

/-- The last `width` decimal digits of a number. -/
def decimalDigits : Nat → Nat → List Char
  | 0, _ => []
  | width + 1, n => decimalDigits width (n / 10) ++ [Char.ofNat (n % 10 + '0'.toNat)]

/-- The form `YYYY-MM-DD`. -/
def Date.isoChars (d : Date) : List Char :=
  decimalDigits 4 d.year ++ '-' :: decimalDigits 2 d.month ++ '-' :: decimalDigits 2 d.day

/-- Microseconds as a fraction, absent when there are none. -/
def fractionChars (microsecond : Nat) : List Char :=
  if microsecond = 0 then [] else '.' :: decimalDigits 6 microsecond

/-- The form `HH:MM:SS`, with a fraction if there is one. -/
def TimeOfDay.isoChars (t : TimeOfDay) : List Char :=
  decimalDigits 2 t.hour ++ ':' :: decimalDigits 2 t.minute ++ ':' :: decimalDigits 2 t.second ++
    fractionChars t.microsecond

/-- The form `+HH:MM`, with seconds and a fraction if there are any. -/
def Offset.isoChars (o : Offset) : List Char :=
  let n := o.microseconds.natAbs
  let seconds := n / 1000000
  let sign := if o.microseconds < 0 then '-' else '+'
  sign :: decimalDigits 2 (seconds / 3600) ++ ':' :: decimalDigits 2 (seconds / 60 % 60) ++
    (if n % 60000000 = 0 then []
     else ':' :: decimalDigits 2 (seconds % 60) ++ fractionChars (n % 1000000))

/-- A date and a time with `T` between them, and the offset if there is one. -/
def Timestamp.isoChars (t : Timestamp) : List Char :=
  t.date.isoChars ++ 'T' :: t.time.isoChars ++ (t.offset.map Offset.isoChars).getD []

/-- A date as a text. -/
def Date.iso (d : Date) : String := String.ofList d.isoChars

/-- A point in time as a text. -/
def Timestamp.iso (t : Timestamp) : String := String.ofList t.isoChars

/-! ### Reading -/

/-- Why a text is not a point in time. -/
inductive IsoFault where
  /-- The text cannot be taken apart. -/
  | unreadable
  /-- The offset is a day or more. -/
  | offsetRange (microseconds : Int)
  | yearRange (year : Nat)
  | monthRange
  | dayRange
  | hourRange
  | minuteRange
  | secondRange
  deriving DecidableEq, Repr

/-- The parts of a text before their ranges are checked. -/
structure RawTimestamp where
  year : Nat
  month : Nat
  day : Nat
  hour : Nat
  minute : Nat
  second : Nat
  microsecond : Nat
  offset : Option Int
  deriving DecidableEq, Repr

/-- Exactly `count` digits and what follows them. -/
def takeDigits? (count : Nat) (cs : List Char) : Option (Nat × List Char) :=
  go count 0 cs
where
  go : Nat → Nat → List Char → Option (Nat × List Char)
    | 0, n, cs => some (n, cs)
    | _ + 1, _, [] => none
    | count + 1, n, c :: cs => (asciiDigit? c).bind fun d => go count (10 * n + d) cs

/-- The character at a place, NUL past the end. -/
def charAt (cs : List Char) (i : Nat) : Char :=
  (cs[i]?).getD '\x00'

/-- A digit of ASCII. -/
def isDigit (c : Char) : Bool :=
  (asciiDigit? c).isSome

/-- How many characters the date takes at the start of a text.  Dates by week with hyphens are
ambiguous before another hyphen: two digits after it are taken for an hour, one for a weekday.
Without hyphens the parity of the digits decides. -/
def dateLength (cs : List Char) : Option Nat :=
  if cs.length < 7 then none
  else if cs.length = 7 then some 7
  else if charAt cs 4 = '-' then
    if charAt cs 5 = 'W' then
      if charAt cs 8 = '-' then
        if cs.length = 9 then none
        else if isDigit (charAt cs 10) then some 8
        else some 10
      else some 8
    else some 10
  else if charAt cs 4 = 'W' then
    let pos := 7 + ((cs.drop 7).takeWhile isDigit).length
    if pos < 9 then some pos else if pos % 2 = 0 then some 7 else some 8
  else some 8

/-- A hyphen, where the date uses them. -/
def skipHyphen? (hyphens : Bool) (cs : List Char) : Option (List Char) :=
  if hyphens then
    match cs with
    | '-' :: rest => some rest
    | _ => none
  else some cs

/-- Year, month and day from the start of a text whose date takes `length` characters. -/
def readDate? (length : Nat) (cs : List Char) : Option (Nat × Nat × Nat) := do
  let (year, cs) ← takeDigits? 4 cs
  let hyphens := cs.head? == some '-'
  let cs ← skipHyphen? hyphens cs
  match cs with
  | 'W' :: cs =>
    let (week, cs) ← takeDigits? 2 cs
    if (if hyphens then 8 else 7) < length then
      let cs ← skipHyphen? hyphens cs
      let (weekday, _) ← takeDigits? 1 cs
      ofWeek? year week weekday
    else ofWeek? year week 1
  | cs =>
    let (month, cs) ← takeDigits? 2 cs
    let cs ← skipHyphen? hyphens cs
    let (day, _) ← takeDigits? 2 cs
    return (year, month, day)

/-- Hour, minute, second and microsecond, and whether a single character was left over. -/
structure RawTime where
  parts : List Nat
  microsecond : Nat
  leftover : Bool
  deriving DecidableEq, Repr

/-- A fraction of a second: up to six digits count and further ones are skipped. -/
def readFraction? (parts : List Nat) (cs : List Char) : Option RawTime := do
  let counted := min 6 cs.length
  let (n, rest) ← takeDigits? counted cs
  let rest := rest.dropWhile isDigit
  return ⟨parts, n * Nat.pow 10 (6 - counted), rest.head?.any (· ≠ '\x00')⟩

/-- The parts of a time after those already read, latest first.  Colons separate either all parts or
none; a full stop or a comma starts the fraction after any part, and after the third part a colon does
too.  The last character before the end, or before the offset, is not looked at. -/
def readParts? (colons : Option Bool) (parts : List Nat) : Nat → List Char → Option RawTime
  | 0, cs => readFraction? parts cs
  | more + 1, cs =>
    (takeDigits? 2 cs).bind fun (n, cs) =>
      let parts := parts ++ [n]
      match cs with
      | [] => some ⟨parts, 0, false⟩
      | c :: rest =>
        let colons := colons.getD (c == ':')
        if 0x80 ≤ c.toNat then none
        else if rest.isEmpty then some ⟨parts, 0, c ≠ '\x00'⟩
        else if colons && c == ':' then readParts? (some colons) parts more rest
        else if c == '.' || c == ',' then readFraction? parts rest
        else if colons then none
        else readParts? (some colons) parts more (c :: rest)

/-- A time of day or the size of an offset: one to three parts of two digits. -/
def readTime? (cs : List Char) : Option RawTime :=
  readParts? none [] 3 cs

/-- A part of a time, zero if it was not given. -/
def RawTime.part (t : RawTime) (i : Nat) : Nat :=
  (t.parts[i]?).getD 0

/-- The sign or letter that starts an offset. -/
def startsOffset (c : Char) : Bool :=
  c == '+' || c == '-' || c == 'Z'

/-- An offset in microseconds.  Less than a second counts as none. -/
def readOffset? : List Char → Option Int
  | 'Z' :: rest => if rest.head?.any (· ≠ '\x00') then none else some 0
  | sign :: rest => do
    let t ← readTime? rest
    if t.leftover then none
    else
      let seconds := t.part 0 * 3600 + t.part 1 * 60 + t.part 2
      if seconds = 0 then some 0
      else
        let n : Int := seconds * 1000000 + t.microsecond
        some (if sign = '-' then -n else n)
  | [] => none

/-- A time of day with an optional offset. -/
def readTimeAndOffset? (cs : List Char) : Option (RawTime × Option Int) := do
  let clock := cs.takeWhile (!startsOffset ·)
  let zone := cs.dropWhile (!startsOffset ·)
  let time ← readTime? (if zone.isEmpty then cs else clock)
  if zone.isEmpty then
    if time.leftover then none else some (time, none)
  else
    let offset ← readOffset? zone
    some (time, some offset)

/-- Takes a text apart.  Any one character separates date and time. -/
def readRaw? (cs : List Char) : Option RawTimestamp := do
  let length ← dateLength cs
  let (year, month, day) ← readDate? length cs
  match cs.drop length with
  | [] => return ⟨year, month, day, 0, 0, 0, 0, none⟩
  | _ :: rest =>
    let (time, offset) ← readTimeAndOffset? rest
    return ⟨year, month, day, time.part 0, time.part 1, time.part 2, time.microsecond, offset⟩

/-- The offset of a number of microseconds. -/
def checkOffset : Option Int → Except IsoFault (Option Offset)
  | none => .ok none
  | some n =>
    match Offset.of? n with
    | some o => .ok (some o)
    | none => .error (.offsetRange n)

/-- The date, or the first of year, month and day that is out of range. -/
def checkDate (year month day : Nat) : Except IsoFault Date :=
  match Date.of? year month day with
  | some d => .ok d
  | none =>
    if year < 1 ∨ 9999 < year then .error (.yearRange year)
    else if month < 1 ∨ 12 < month then .error .monthRange
    else .error .dayRange

/-- The time, or the first of hour, minute and second that is out of range. -/
def checkTime (hour minute second microsecond : Nat) : Except IsoFault TimeOfDay :=
  match TimeOfDay.of? hour minute second microsecond with
  | some t => .ok t
  | none =>
    if 24 ≤ hour then .error .hourRange
    else if 60 ≤ minute then .error .minuteRange
    else .error .secondRange

/-- The point in time with these parts, if every part is in range. -/
def RawTimestamp.check (raw : RawTimestamp) : Except IsoFault Timestamp := do
  let offset ← checkOffset raw.offset
  let date ← checkDate raw.year raw.month raw.day
  let time ← checkTime raw.hour raw.minute raw.second raw.microsecond
  return ⟨date, time, offset⟩

/-- Reads a point in time. -/
def Timestamp.ofIso (text : String) : Except IsoFault Timestamp :=
  match readRaw? text.toList with
  | none => .error .unreadable
  | some raw => raw.check

/-- An amount of time in days, seconds and microseconds, those that are zero left out. -/
def durationText (microseconds : Int) : String :=
  let days := Int.fdiv microseconds dayMicroseconds
  let rest := (Int.fmod microseconds dayMicroseconds).toNat
  let part (name : String) (n : Int) : List String :=
    if n = 0 then [] else [name ++ "=" ++ toString n]
  let parts := part "days" days ++ part "seconds" (rest / 1000000 : Nat) ++
    part "microseconds" (rest % 1000000 : Nat)
  "datetime.timedelta(" ++ (if parts.isEmpty then "0" else ", ".intercalate parts) ++ ")"

/-- What is wrong with a text, in words. -/
def IsoFault.message (text : String) : IsoFault → String
  | .unreadable => "Invalid isoformat string: " ++ quoted text
  | .offsetRange n =>
    "offset must be a timedelta strictly between -timedelta(hours=24) and timedelta(hours=24), not " ++
      durationText n ++ "."
  | .yearRange year => "year " ++ toString year ++ " is out of range"
  | .monthRange => "month must be in 1..12"
  | .dayRange => "day is out of range for month"
  | .hourRange => "hour must be in 0..23"
  | .minuteRange => "minute must be in 0..59"
  | .secondRange => "second must be in 0..59"

end Phrasing.Calendar
