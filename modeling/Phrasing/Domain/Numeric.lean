import Phrasing.Text.Ascii
import Phrasing.Text.Split

/-!
# Numeric addresses of hosts

A host can be given by its number: four numbers below 256 with points between them, or eight numbers of up to
four hexadecimal digits with colons between them, where one run of zeros may be left out.
-/

namespace Phrasing.Domain

open Text

/-- A number below 256 without zeros before it. -/
def isByteNumber (cs : List Char) : Bool :=
  match cs with
  | ['0'] => true
  | '0' :: _ | [] => false
  | cs => cs.length ≤ 3 && cs.all Char.isDigit && cs.foldl (fun n c => 10 * n + (c.toNat - '0'.toNat)) 0 ≤ 255

/-- Four numbers with points between them. -/
def isFourNumbers (cs : List Char) : Bool :=
  let parts := splitAtEach '.' cs
  parts.length == 4 && parts.all isByteNumber

/-- One of the eight numbers of a long address. -/
def isGroup (cs : List Char) : Bool :=
  !cs.isEmpty && cs.length ≤ 4 && cs.all isHexDigit

/-- Parts of a long address in which one part between the ends is empty: that stands for a run of zeros, and an
end may be empty only beside it. -/
def fitsAround (before after : List (List Char)) : Bool :=
  let before := if before = [[]] then [] else before
  let after := if after = [[]] then [] else after
  before.all isGroup && after.all isGroup && before.length + after.length < 8

/-- The parts of a long address, the last two of which may be given as four numbers, which have to look as
`areFour` says. -/
def longParts? (areFour : List Char → Bool) (cs : List Char) : Option (List (List Char)) :=
  let parts := splitAtEach ':' cs
  match parts.getLast? with
  | some last =>
    if parts.length < 3 then none
    else if last.contains '.' then
      if areFour last then some (parts.dropLast ++ [['0'], ['0']]) else none
    else some parts
  | none => none

/-- Eight numbers with colons between them, the last two perhaps as four numbers of some look. -/
def isLongNumberWith (areFour : List Char → Bool) (cs : List Char) : Bool :=
  match longParts? areFour cs with
  | none => false
  | some parts =>
    let inner := (parts.drop 1).dropLast
    match inner.countP (·.isEmpty) with
    | 0 => parts.length == 8 && parts.all isGroup
    | 1 =>
      let place := inner.findIdx (·.isEmpty) + 1
      parts.length ≤ 9 && fitsAround (parts.take place) (parts.drop (place + 1))
    | _ => false

/-- Eight numbers with colons between them. -/
def isLongNumber (cs : List Char) : Bool :=
  isLongNumberWith isFourNumbers cs

/-- A long address, with the name of a zone after a percent sign or without. -/
def isZonedNumber (cs : List Char) : Bool :=
  match cs.dropWhile (· ≠ '%') with
  | [] => isLongNumber cs
  | _ :: zone => !zone.isEmpty && !zone.contains '%' && isLongNumber (cs.takeWhile (· ≠ '%'))

end Phrasing.Domain
