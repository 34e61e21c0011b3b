import Phrasing.Calendar.Date

/-!
# Points in time

A `Timestamp` is a date and a time of day to the microsecond, with or without an offset from universal
time.  Two timestamps with offsets are `same` when they name the same instant; one with and one without
never are.
-/

namespace Phrasing.Calendar

/-- A time of day. -/
structure TimeOfDay where
  hour : Nat
  minute : Nat
  second : Nat
  microsecond : Nat
  hour_lt : hour < 24
  minute_lt : minute < 60
  second_lt : second < 60
  microsecond_lt : microsecond < 1000000
  deriving DecidableEq, Repr

namespace TimeOfDay

/-- The time with these numbers, if it exists. -/
def of? (hour minute second microsecond : Nat) : Option TimeOfDay :=
  if h : hour < 24 ∧ minute < 60 ∧ second < 60 ∧ microsecond < 1000000 then
    some ⟨hour, minute, second, microsecond, h.1, h.2.1, h.2.2.1, h.2.2.2⟩
  else none

/-- The first moment of a day. -/
def midnight : TimeOfDay :=
  ⟨0, 0, 0, 0, by decide, by decide, by decide, by decide⟩

/-- The microseconds since midnight. -/
def microseconds (t : TimeOfDay) : Nat :=
  ((t.hour * 60 + t.minute) * 60 + t.second) * 1000000 + t.microsecond

end TimeOfDay

/-- The microseconds of a day. -/
def dayMicroseconds : Nat := 86400000000

/-- An offset from universal time, of less than a day. -/
structure Offset where
  microseconds : Int
  lt_day : microseconds.natAbs < dayMicroseconds
  deriving DecidableEq, Repr

namespace Offset

/-- The offset of universal time itself. -/
def utc : Offset := ⟨0, by decide⟩

/-- The offset of that many microseconds, if it is less than a day. -/
def of? (microseconds : Int) : Option Offset :=
  if h : microseconds.natAbs < dayMicroseconds then some ⟨microseconds, h⟩ else none

end Offset

/-- A point in time, local when it has no offset. -/
structure Timestamp where
  date : Date
  time : TimeOfDay
  offset : Option Offset
  deriving DecidableEq, Repr

namespace Timestamp

/-- The local midnight with which a date starts. -/
def ofDate (date : Date) : Timestamp :=
  ⟨date, .midnight, none⟩

/-- The microseconds of the local reading. -/
def localMicroseconds (t : Timestamp) : Nat :=
  t.date.ordinal * dayMicroseconds + t.time.microseconds

/-- The instant in universal time, if there is an offset. -/
def instant? (t : Timestamp) : Option Int :=
  t.offset.map fun o => t.localMicroseconds - o.microseconds

/-- Equality of points in time. -/
def same (a b : Timestamp) : Bool :=
  match a.instant?, b.instant? with
  | some x, some y => x == y
  | none, none => a.localMicroseconds == b.localMicroseconds
  | _, _ => false

end Timestamp

end Phrasing.Calendar
