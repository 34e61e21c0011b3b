import Phrasing.Domain.Permitted
import Phrasing.Domain.Punycode
import Phrasing.Fault
import Phrasing.Unicode.Composition
import Phrasing.Unicode.Direction
import Phrasing.Unicode.Script

/-!
# Labels of domain names

A label is a part of a domain name between dots.  One with characters outside ASCII is written in Punycode
after a prefix; `check` says which labels may be written so, and `toAscii` and `toUnicode` lead from one form
to the other.
-/

namespace Phrasing.Domain

open Text Unicode

/-- Why a name is none. -/
inductive NameFault where
  /-- Its form is wrong. -/
  | form (text : String)
  /-- Characters of both directions meet in a way that they must not. -/
  | direction (text : String)
  /-- A character is not permitted. -/
  | character (text : String)
  /-- A character is not permitted among its neighbours. -/
  | context (text : String)
  deriving DecidableEq, Repr

/-- A fault of a name among other mishaps. -/
def NameFault.mishap : NameFault → Mishap
  | .form text => .reported "IDNAError" text
  | .direction text => .reported "IDNABidiError" text
  | .character text => .reported "InvalidCodepoint" text
  | .context text => .reported "InvalidCodepointContext" text

/-- A code point as messages write it. -/
def codeName (c : Char) : String :=
  let digits := ((Nat.toDigits 16 c.toNat).map upperAscii)
  "U+" ++ String.ofList (List.replicate (4 - digits.length) '0' ++ digits)

/-- A label as messages show it. -/
def shownLabel (label : List Char) : String := quoted (String.ofList label)

/-! ### Characters that depend on their neighbours -/

/-- The first character that a joined script does not pass over joins as it should. -/
def joinsWith (side : CodeSet) (cs : List Char) : Bool :=
  match cs.dropWhile joinTransparent.contains with
  | c :: _ => side.contains c || joinBoth.contains c
  | [] => false

/-- Whether a joiner may stand after characters, the last one first, and before others.  Next to a character
whose combining class is not known it may not. -/
def joinerFits (c : Char) (before after : List Char) : Bool :=
  match before with
  | b :: _ =>
    !undirected.contains b &&
      (combiningClass b == 9 || (c.toNat == 0x200C && joinsWith joinLeft before && joinsWith joinRight after))
  | [] => false

/-- Whether a sign that belongs to one script may stand in a label after characters, the last one first, and
before others. -/
def signFits (label : List Char) (c : Char) (before after : List Char) : Bool :=
  let n := c.toNat
  let anyIn (first last : Nat) : Bool := label.any fun d => first ≤ d.toNat && d.toNat ≤ last
  if n = 0xB7 then before.head? = some 'l' && after.head? = some 'l'
  else if n = 0x375 then after.head?.any greek.contains
  else if n = 0x5F3 ∨ n = 0x5F4 then before.head?.any hebrew.contains
  else if n = 0x30FB then
    label.any fun d =>
      d.toNat ≠ 0x30FB && (hiragana.contains d || katakana.contains d || han.contains d)
  else if 0x660 ≤ n ∧ n ≤ 0x669 then !anyIn 0x6F0 0x6F9
  else !anyIn 0x660 0x669

/-- Whether a character is a sign that belongs to one script. -/
def isSign (c : Char) : Bool :=
  let n := c.toNat
  n = 0xB7 || n = 0x375 || n = 0x5F3 || n = 0x5F4 || n = 0x30FB ||
    (0x660 ≤ n && n ≤ 0x669) || (0x6F0 ≤ n && n ≤ 0x6F9)

/-- Checks a character of a label. -/
def checkCharacter (label before : List Char) (c : Char) (after : List Char) : Except NameFault Unit :=
  let place := toString (before.length + 1)
  if permitted.contains c then .ok ()
  else if c.toNat = 0x200C ∨ c.toNat = 0x200D then
    if joinerFits c before after then .ok ()
    else
      .error (.form ("Unknown codepoint adjacent to joiner " ++ codeName c ++ " at position " ++ place ++
        " in " ++ shownLabel label))
  else if isSign c then
    if signFits label c before after then .ok ()
    else
      .error (.context ("Codepoint " ++ codeName c ++ " not allowed at position " ++ place ++ " in " ++
        shownLabel label))
  else
    .error (.character ("Codepoint " ++ codeName c ++ " at position " ++ place ++ " of " ++ shownLabel label ++
      " not allowed"))

/-- Checks the characters of a label from a place on; `before` are those up to it, the last one first. -/
def checkCharacters (label before : List Char) : List Char → Except NameFault Unit
  | [] => .ok ()
  | c :: after =>
    match checkCharacter label before c after with
    | .ok () => checkCharacters label (c :: before) after
    | .error e => .error e

/-! ### Directions -/

/-- What is known of the direction of a label after some of its characters. -/
structure Course where
  /-- A character stands there with which the label may end. -/
  mayEnd : Bool
  /-- The kind of digits that were met. -/
  digits : Option Direction

/-- Goes over a character of a label written from right to left, or from left to right. -/
def Course.step (toLeft : Bool) (place : Nat) (k : Course) (d : Direction) : Except NameFault Course :=
  let wrong (side : String) : Except NameFault Course :=
    .error (.direction ("Invalid direction for codepoint at position " ++ toString place ++ " in a " ++ side ++
      " label"))
  if toLeft then
    if d = .leftToRight then wrong "right-to-left"
    else
      let mayEnd := d = .rightToLeft || d = .europeanNumber || d = .arabicNumber || (d = .mark && k.mayEnd)
      if d = .arabicNumber ∨ d = .europeanNumber then
        match k.digits with
        | some e =>
          if e = d then .ok ⟨mayEnd, k.digits⟩
          else .error (.direction "Can not mix numeral types in a right-to-left label")
        | none => .ok ⟨mayEnd, some d⟩
      else .ok ⟨mayEnd, k.digits⟩
  else if d = .rightToLeft ∨ d = .arabicNumber then wrong "left-to-right"
  else .ok ⟨d = .leftToRight || d = .europeanNumber || (d = .mark && k.mayEnd), k.digits⟩

/-- Goes over the characters of a label from a place on. -/
def Course.run (toLeft : Bool) (place : Nat) (k : Course) : List Direction → Except NameFault Course
  | [] => .ok k
  | d :: rest =>
    match k.step toLeft place d with
    | .ok k => run toLeft (place + 1) k rest
    | .error e => .error e

/-- Checks that the directions in a label do not mix.  One without letters written from right to left has
nothing to mix. -/
def checkDirections (label : List Char) : Except NameFault Unit :=
  let directions := label.map direction
  match directions.findIdx? (· = .unknown) with
  | some i =>
    .error (.direction ("Unknown directionality in label " ++ shownLabel label ++ " at position " ++
      toString (i + 1)))
  | none =>
    if directions.all fun d => d ≠ .rightToLeft && d ≠ .arabicNumber then .ok ()
    else
      let first := directions.head?
      if first ≠ some .rightToLeft ∧ first ≠ some .leftToRight then
        .error (.direction ("First codepoint in label " ++ shownLabel label ++
          " must be directionality L, R or AL"))
      else
        match Course.run (first = some .rightToLeft) 1 ⟨false, none⟩ directions with
        | .error e => .error e
        | .ok k =>
          if k.mayEnd then .ok () else .error (.direction "Label ends with illegal codepoint directionality")

/-! ### Both forms -/

/-- Checks that a label may stand in a name. -/
def check (label : List Char) : Except NameFault Unit := do
  if label.isEmpty then throw (.form "Empty Label")
  if 254 < label.length then throw (.form "Label too long")
  if !isComposed label then throw (.form "Label must be in Normalization Form C")
  if (label.drop 2).take 2 = ['-', '-'] then throw (.form "Label has disallowed hyphens in 3rd and 4th position")
  if label.head? = some '-' ∨ label.getLast? = some '-' then
    throw (.form "Label must not start or end with a hyphen")
  if label.head?.any marks.contains then throw (.form "Label begins with an illegal combining character")
  checkCharacters label [] label
  checkDirections label

/-- The prefix of labels written in Punycode. -/
def punycodePrefix : List Char := "xn--".toList

/-- A label with all its characters. -/
def toUnicode (label : List Char) : Except NameFault (List Char) := do
  if 1024 < label.length then throw (.form "Label too long")
  if !label.all isAscii then
    check label
    return label
  let label := label.map lowerAscii
  if !punycodePrefix.isPrefixOf label then
    check label
    return label
  let written := label.drop 4
  if written.isEmpty then throw (.form "Malformed A-label, no Punycode eligible content found")
  if written.getLast? = some '-' then throw (.form "A-label must not end with a hyphen")
  match Punycode.decode? written with
  | none => throw (.form "Invalid A-label")
  | some label =>
    check label
    return label

/-- A label in ASCII. -/
def toAscii (label : List Char) : Except NameFault (List Char) := do
  let written ←
    if label.all isAscii then
      let _ ← toUnicode label
      pure label
    else
      check label
      pure (punycodePrefix ++ Punycode.encode label)
  if 63 < written.length then throw (.form "Label too long")
  return written

end Phrasing.Domain
