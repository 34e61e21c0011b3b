import Phrasing.Charset.Hangul
import Phrasing.Charset.HangulExtension
import Phrasing.Charset.Hanzi
import Phrasing.Charset.HanziExtension
import Phrasing.Charset.HongKongHanzi
import Phrasing.Charset.Kanji
import Phrasing.Charset.KanjiExtension
import Phrasing.Charset.KanjiSupplement
import Phrasing.Charset.Step
import Phrasing.Charset.TraditionalHanzi
import Phrasing.Charset.VendorKanji

/-!
# Encodings with characters of two bytes

In the encodings of East Asia a byte of ASCII is a character of its own, and most other characters have two
bytes.  Some encodings shift the codes of the general set to other bytes; some have characters of one byte
beyond ASCII, and some have characters of three, four or eight bytes.
-/

namespace Phrasing.Charset

/-- The encodings without states. -/
inductive DoubleByte where
  | gb2312
  | gbk
  | gb18030
  | big5
  | cp950
  | big5hkscs
  | eucKr
  | cp949
  | johab
  | shiftJis
  | cp932
  | shiftJis2004
  | shiftJisX0213
  | eucJp
  | eucJis2004
  | eucJisX0213
  deriving DecidableEq, Repr

/-! ### Sets of characters -/

/-- The code of two bytes. -/
def codeOf (a b : UInt8) : Nat := a.toNat * 256 + b.toNat

/-- The code that two bytes have in a set with codes from 21 to 7E, if both have their highest bit set. -/
def lowered? (a b : UInt8) : Option Nat :=
  if 0x80 ≤ a ∧ 0x80 ≤ b then some (codeOf (a - 0x80) (b - 0x80)) else none

/-- A character of the basic Chinese set by its code from 21 to 7E. -/
def basicHanzi? (code : Nat) : Option Char :=
  let row := code / 256
  let place := code % 256
  let runs := basicHanziGaps.filter fun (r, _, _) => r == row
  let isRow := row = 0x21 || row = 0x23 || (0x30 ≤ row && row ≤ 0x77)
  let isFilled :=
    if runs.isEmpty then isRow && 0x21 ≤ place && place ≤ 0x7E
    else runs.any fun (_, first, last) => first ≤ place && place ≤ last
  if code = 0x2124 then some (Char.ofNat 0x30FB)
  else if code = 0x212A then some (Char.ofNat 0x2015)
  else if isFilled then hanzi.find? (code + 0x8080)
  else none

/-- A character of the complete Chinese set that two bytes stand for. -/
def completeHanzi? (code : Nat) : Option Char :=
  (hanzi.find? code).or ((hanziExtension.find? code).or
    ((privateHanzi.find? fun (first, last, _) => first ≤ code && code ≤ last).map fun (first, _, char) =>
      Char.ofNat (char + (code - first))))

/-- The character that four bytes stand for. -/
def fourByteChar? (a b c d : UInt8) : Option Char :=
  let isDigit (x : UInt8) : Bool := 0x30 ≤ x && x ≤ 0x39
  let isHigh (x : UInt8) : Bool := 0x81 ≤ x && x ≤ 0xFE
  if isHigh a && isDigit b && isHigh c && isDigit d then
    let lead := a.toNat - 0x81
    let rest := ((b.toNat - 0x30) * 126 + (c.toNat - 0x81)) * 10 + (d.toNat - 0x30)
    let n := lead * 12600 + rest
    if lead < 4 then
      if n < 39420 then
        (fourByteRuns.reverse.find? fun (first, _) => first ≤ n).map fun (first, char) =>
          Char.ofNat (char + (n - first))
      else none
    else if 15 ≤ lead ∧ (lead - 15) * 12600 + rest ≤ 0xFFFFF then
      some (Char.ofNat (0x10000 + (lead - 15) * 12600 + rest))
    else none
  else none

/-- Code points as characters. -/
def charsOf (codes : List Nat) : List Char := codes.map Char.ofNat

/-- The characters of Hong Kong that two bytes stand for. -/
def hongKongChars? (code : Nat) : Option (List Char) :=
  match hongKongPairs.lookup code with
  | some codes => some (charsOf codes)
  | none =>
    if hongKongGaps.contains code then none
    else ((hongKongHanzi.find? code).or (traditionalHanzi.find? code)).map ([·])

/-- What the first plane of the extended Japanese set has for a code from 21 to 7E, with or without the revision. -/
def extendedKanji? (revised : Bool) (code : Nat) : Option (List Char) :=
  match kanjiPairs.lookup code with
  | some codes => some (charsOf codes)
  | none =>
    if !revised && revisedKanji.contains code then none
    else ((kanji.find? code).or (kanjiExtension.find? code)).map ([·])

/-- What the second plane of the extended Japanese set has for a code from 21 to 7E. -/
def secondPlane? (revised : Bool) (code : Nat) : Option Char :=
  if !revised ∧ code = 0x7D3B then some (Char.ofNat 0x9B1D) else kanjiSecondPlane.find? code

/-! ### Shifted codes -/

/-- The row and the place in it that shifted bytes stand for, both counted from 21. -/
def shiftedCode? (a b : UInt8) : Option (Nat × Nat) :=
  let isLead := (0x81 ≤ a && a ≤ 0x9F) || (0xE0 ≤ a && a ≤ 0xFC)
  let isTrail := 0x40 ≤ b && b ≤ 0xFC && b ≠ 0x7F
  if isLead && isTrail then
    let row := 2 * (if a < 0xE0 then a.toNat - 0x81 else a.toNat - 0xC1)
    let place := if b < 0x80 then b.toNat - 0x40 else b.toNat - 0x41
    some (if place < 94 then (row + 0x21, place + 0x21) else (row + 0x22, place - 94 + 0x21))
  else none

/-- The rows of the second plane that the shifted rows from 7F on stand for. -/
def secondPlaneRows : List Nat := [
  0x21, 0x28, 0x23, 0x24, 0x25, 0x2C, 0x2D, 0x2E, 0x2F, 0x6E, 0x6F, 0x70, 0x71, 0x72, 0x73, 0x74, 0x75, 0x76,
  0x77, 0x78, 0x79, 0x7A, 0x7B, 0x7C, 0x7D, 0x7E]

/-- What shifted bytes stand for in the extended Japanese set. -/
def shiftedExtended? (revised : Bool) (a b : UInt8) : Option (List Char) :=
  match shiftedCode? a b with
  | none => none
  | some (row, place) =>
    if row < 0x7F then
      let code := row * 256 + place
      if code = 0x2140 then some ['\\']
      else if code = 0x2232 then some ['~']
      else extendedKanji? revised code
    else
      match secondPlaneRows[row - 0x7F]? with
      | some row => (secondPlane? revised (row * 256 + place)).map ([·])
      | none => none

/-- What shifted bytes stand for in the Japanese set of vendors, where rows from F0 on are private. -/
def shiftedVendor? (a b : UInt8) : Option Char :=
  match vendorKanji.find? (codeOf a b) with
  | some c => some c
  | none =>
    match shiftedCode? a b with
    | none => none
    | some (row, place) =>
      if 0xF0 ≤ a ∧ a ≤ 0xF9 then
        let trail := if b < 0x80 then b.toNat - 0x40 else b.toNat - 0x41
        some (Char.ofNat (0xE000 + 188 * (a.toNat - 0xF0) + trail))
      else if a ≤ 0xEA then kanji.find? (row * 256 + place)
      else none

/-! ### Syllables put together -/

/-- The syllable of a first, a middle and a last letter, where zero is no last letter. -/
def syllable (first middle last : Nat) : Char :=
  Char.ofNat (0xAC00 + first * 588 + middle * 28 + last)

/-- The first letters of syllables by the bytes of the letters from A1 on, and the last ones. -/
def firstLetters : List (Option Nat) := [
  some 0, some 1, none, some 2, none, none, some 3, some 4, some 5, none, none, none, none, none, none, none,
  some 6, some 7, some 8, none, some 9, some 10, some 11, some 12, some 13, some 14, some 15, some 16, some 17,
  some 18]

/-- The last letters of syllables by the bytes of the letters from A1 on. -/
def lastLetters : List (Option Nat) := [
  some 1, some 2, some 3, some 4, some 5, some 6, some 7, none, some 8, some 9, some 10, some 11, some 12,
  some 13, some 14, some 15, some 16, some 17, none, some 18, some 19, some 20, some 21, some 22, none, some 23,
  some 24, some 25, some 26, some 27]

/-- The syllable of three letters by the second bytes of theirs. -/
def syllableOf? (first middle last : UInt8) : Option Char := do
  let f ← (firstLetters[first.toNat - 0xA1]?).join
  let m ← if 0xBF ≤ middle ∧ middle ≤ 0xD3 then some (middle.toNat - 0xBF) else none
  let l ← if last = 0xD4 then some 0 else (lastLetters[last.toNat - 0xA1]?).join
  if first < 0xA1 ∨ (last < 0xA1 ∧ last ≠ 0xD4) then none else return syllable f m l

/-- Letters of Korean by their five bits: the number in a syllable, where the filler is `some none`. -/
def johabLetter? (filler : Nat) (gaps : List Nat) (last bits : Nat) : Option (Option Nat) :=
  if bits = filler then some none
  else if bits < filler ∨ last < bits ∨ gaps.contains bits then none
  else some (some (bits - filler - 1 - (gaps.countP (· < bits))))

/-- The letters that stand alone for those that start a syllable. -/
def loneFirst : List Nat := [
  0x31, 0x32, 0x34, 0x37, 0x38, 0x39, 0x41, 0x42, 0x43, 0x45, 0x46, 0x47, 0x48, 0x49, 0x4A, 0x4B, 0x4C, 0x4D, 0x4E]

/-- The letters that stand alone for those that end a syllable. -/
def loneLast : List Nat := [
  0x31, 0x32, 0x33, 0x34, 0x35, 0x36, 0x37, 0x39, 0x3A, 0x3B, 0x3C, 0x3D, 0x3E, 0x3F, 0x40, 0x41, 0x42, 0x44,
  0x45, 0x46, 0x47, 0x48, 0x4A, 0x4B, 0x4C, 0x4D, 0x4E]

/-- The character that two bytes of three letters with five bits each stand for. -/
def johabSyllable? (a b : UInt8) : Option Char := do
  let n := codeOf a b
  let first ← johabLetter? 1 [] 20 (n / 1024 % 32)
  let middle ← johabLetter? 2 [8, 9, 16, 17, 24, 25] 29 (n / 32 % 32)
  let last ← johabLetter? 1 [18] 29 (n % 32)
  let letter (table : List Nat) (i : Nat) : Option Char := table[i]?.map fun n => Char.ofNat (0x3100 + n)
  match first, middle, last with
  | some f, some m, none => return syllable f m 0
  | some f, some m, some l => return syllable f m (l + 1)
  | some f, none, none => letter loneFirst f
  | none, some m, none => return Char.ofNat (0x314F + m)
  | none, none, some l => letter loneLast l
  | none, none, none => return Char.ofNat 0x3000
  | _, _, _ => none

/-- The sign or hanja that two bytes stand for beside syllables of letters. -/
def johabSign? (a b : UInt8) : Option Char :=
  if a = 0xDF ∨ a < 0xD9 ∨ 0xF9 < a ∨ b < 0x31 ∨ (0x80 ≤ b ∧ b < 0x91) ∨ b % 128 = 0x7F ∨
      (a = 0xDA ∧ 0xA1 ≤ b ∧ b ≤ 0xD3) then none
  else
    let row := if a < 0xE0 then 2 * (a.toNat - 0xD9) else 2 * a.toNat - 0x197
    let place := if b < 0x91 then b.toNat - 0x31 else b.toNat - 0x43
    if place < 94 then hangul.find? ((row + 0x21) * 256 + place + 0x21)
    else hangul.find? ((row + 0x22) * 256 + (place - 94) + 0x21)

/-! ### Steps -/

/-- A half-width kana. -/
def kana? (b : UInt8) : Option Char :=
  if 0xA1 ≤ b ∧ b ≤ 0xDF then some (Char.ofNat (0xFEC0 + b.toNat)) else none

/-- What a byte stands for alone, if it does not start anything longer: a character or none. -/
def DoubleByte.alone? (e : DoubleByte) (b : UInt8) : Option (Option Char) :=
  let isShiftLead := (0x81 ≤ b && b ≤ 0x9F) || (0xE0 ≤ b && b ≤ 0xFC)
  let shifted (b : UInt8) : Option (Option Char) := if isShiftLead then none else some (kana? b)
  match e with
  | .shiftJis => if b < 0x80 then some (Char.ofNat b.toNat) else shifted b
  | .shiftJis2004 | .shiftJisX0213 =>
    if b = 0x5C then some (some '¥')
    else if b = 0x7E then some (some '‾')
    else if b < 0x80 then some (Char.ofNat b.toNat)
    else shifted b
  | .cp932 =>
    if b ≤ 0x80 then some (Char.ofNat b.toNat)
    else if b = 0xA0 then some (some (Char.ofNat 0xF8F0))
    else if 0xFD ≤ b then some (some (Char.ofNat (0xF8F1 + (b.toNat - 0xFD))))
    else shifted b
  | _ => if b < 0x80 then some (Char.ofNat b.toNat) else none

/-- The characters that two bytes stand for. -/
def DoubleByte.pair? (e : DoubleByte) (a b : UInt8) : Option (List Char) :=
  let one (c : Option Char) : Option (List Char) := c.map ([·])
  let code := codeOf a b
  match e with
  | .gb2312 => one ((lowered? a b).bind basicHanzi?)
  | .gbk => one (hanzi.find? code)
  | .gb18030 => one (completeHanzi? code)
  | .big5 => one (traditionalHanzi.find? code)
  | .cp950 => one ((vendorHanzi.find? code).or (traditionalHanzi.find? code))
  | .big5hkscs => hongKongChars? code
  | .eucKr => one ((lowered? a b).bind hangul.find?)
  | .cp949 => one (((lowered? a b).bind hangul.find?).or (hangulExtension.find? code))
  | .johab => one (if a < 0xD8 then johabSyllable? a b else johabSign? a b)
  | .shiftJis => one ((shiftedCode? a b).bind fun (row, place) => kanji.find? (row * 256 + place))
  | .cp932 => one (shiftedVendor? a b)
  | .shiftJis2004 => shiftedExtended? true a b
  | .shiftJisX0213 => shiftedExtended? false a b
  | .eucJp => one (if a = 0x8E then kana? b else (lowered? a b).bind kanji.find?)
  | .eucJis2004 => if a = 0x8E then one (kana? b) else (lowered? a b).bind (extendedKanji? true)
  | .eucJisX0213 => if a = 0x8E then one (kana? b) else (lowered? a b).bind (extendedKanji? false)

/-- The character that two bytes stand for after the byte 8F. -/
def DoubleByte.triple? (e : DoubleByte) (b c : UInt8) : Option Char :=
  let supplement (revised : Bool) : Option Char :=
    (lowered? b c).bind fun code => (secondPlane? revised code).or (kanjiSupplement.find? code)
  match e with
  | .eucJis2004 => supplement true
  | .eucJisX0213 => supplement false
  | _ => (lowered? b c).bind kanjiSupplement.find?

/-- Whether two bytes are a code that only the revision has given to a character. -/
def DoubleByte.isUnrevised (e : DoubleByte) (a b : UInt8) : Bool :=
  match e with
  | .eucJisX0213 => (lowered? a b).any revisedKanji.contains
  | .shiftJisX0213 => (shiftedCode? a b).any fun (row, place) => revisedKanji.contains (row * 256 + place)
  | _ => false

/-- Whether the byte 8F starts a character of three bytes. -/
def DoubleByte.hasTriples (e : DoubleByte) : Bool :=
  e == .eucJp || e == .eucJis2004 || e == .eucJisX0213

/-- A step of an encoding. -/
def DoubleByte.step (e : DoubleByte) (_ : Unit) (bytes : List UInt8) : Step Unit :=
  match bytes with
  | [] => .more
  | a :: rest =>
    match e.alone? a with
    | some glyph => .one () 1 glyph
    | none =>
      match rest with
      | [] => .more
      | b :: rest =>
        if e.hasTriples && a == 0x8F then
          match rest with
          | [] => .more
          | c :: _ => .orSkip () 3 ((e.triple? b c).map ([·]))
        else if e = .gb18030 ∧ 0x30 ≤ b ∧ b ≤ 0x39 then
          match rest with
          | c :: d :: _ => .orSkip () 4 ((fourByteChar? a b c d).map ([·]))
          | _ => .more
        else if e = .eucKr ∧ a = 0xA4 ∧ b = 0xD4 then
          match rest with
          | c :: first :: d :: middle :: f :: last :: _ =>
            .orSkip () 8 (if c = 0xA4 ∧ d = 0xA4 ∧ f = 0xA4 then (syllableOf? first middle last).map ([·]) else none)
          | _ => .more
        else if e.isUnrevised a b then .one () 2 none
        else .orSkip () 2 (e.pair? a b)

end Phrasing.Charset
