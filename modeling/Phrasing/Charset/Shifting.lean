import Phrasing.Charset.DoubleByte
import Phrasing.Charset.CodePage

/-!
# Encodings that shift between sets

Some encodings have bytes of seven bits only, and sequences of them that say which set of characters the next
bytes belong to.
-/

namespace Phrasing.Charset

/-- The encodings that shift. -/
inductive Shifting where
  | hz
  | jp
  | jp1
  | jp2
  | jp2004
  | jp3
  | jpExt
  | kr
  deriving DecidableEq, Repr

/-! ### Tildes -/

/-- A step of the encoding in which a tilde shifts; the state says whether Chinese characters are on. -/
def hzStep (chinese : Bool) : List UInt8 → Step Bool
  | [] => .more
  | 0x7E :: rest =>
    match rest with
    | [] => .more
    | c :: _ =>
      if c = 0x7E ∧ ¬ chinese then .took [some '~'] 2 chinese
      else if c = 0x7B ∧ ¬ chinese then .took [] 2 true
      else if c = 0x0A ∧ ¬ chinese then .took [] 2 chinese
      else if c = 0x7D ∧ chinese then .took [] 2 false
      else .one chinese 1 none
  | a :: rest =>
    if 0x80 ≤ a then .one chinese 1 none
    else if !chinese then .one chinese 1 (some (Char.ofNat a.toNat))
    else
      match rest with
      | [] => .more
      | b :: _ => .orSkip chinese 2 ((basicHanzi? (codeOf a b)).map ([·]))

/-! ### Escape sequences -/

/-- A set that can be shifted to, by the byte that names it and by whether it has two bytes. -/
structure CharSet where
  mark : UInt8
  double : Bool
  deriving DecidableEq, Repr

/-- The set of ASCII. -/
def CharSet.ascii : CharSet := ⟨0x42, false⟩

/-- The sets that an encoding shifts to beside ASCII. -/
def Shifting.sets : Shifting → List CharSet
  | .hz => []
  | .jp => [⟨0x42, true⟩, ⟨0x4A, false⟩, ⟨0x40, true⟩]
  | .jp1 => [⟨0x42, true⟩, ⟨0x44, true⟩, ⟨0x4A, false⟩, ⟨0x40, true⟩]
  | .jp2 => [⟨0x42, true⟩, ⟨0x44, true⟩, ⟨0x43, true⟩, ⟨0x41, true⟩, ⟨0x4A, false⟩, ⟨0x40, true⟩,
    ⟨0x41, false⟩, ⟨0x46, false⟩]
  | .jp2004 => [⟨0x51, true⟩, ⟨0x42, true⟩, ⟨0x50, true⟩]
  | .jp3 => [⟨0x4F, true⟩, ⟨0x42, true⟩, ⟨0x50, true⟩]
  | .jpExt => [⟨0x42, true⟩, ⟨0x44, true⟩, ⟨0x4A, false⟩, ⟨0x49, false⟩, ⟨0x40, true⟩]
  | .kr => [⟨0x43, true⟩]

/-- The characters of a set that bytes stand for. -/
def CharSet.chars? (s : CharSet) (a : UInt8) (b : UInt8) : Option (List Char) :=
  let code := codeOf a b
  let one (c : Option Char) : Option (List Char) := c.map ([·])
  if s.double then
    match s.mark with
    | 0x40 | 0x42 => one (kanji.find? code)
    | 0x44 => one (kanjiSupplement.find? code)
    | 0x43 => one (hangul.find? code)
    | 0x41 => one (basicHanzi? code)
    | 0x51 => extendedKanji? true code
    | 0x4F => extendedKanji? false code
    | 0x50 => one (secondPlane? true code)
    | _ => none
  else
    match s.mark with
    | 0x4A => some [if a = 0x5C then '¥' else if a = 0x7E then '‾' else Char.ofNat a.toNat]
    | 0x49 => one (if 0x21 ≤ a ∧ a ≤ 0x5F then some (Char.ofNat (0xFF40 + a.toNat)) else none)
    | _ => none

/-- Which sets are chosen, and whether the second one is on. -/
structure Shifts where
  first : CharSet
  second : CharSet
  third : CharSet
  isShifted : Bool
  /-- An escape sequence that is not known is being passed through. -/
  isPassing : Bool

/-- The state at the start. -/
def Shifts.start : Shifts := ⟨.ascii, .ascii, .ascii, false, false⟩

/-- A byte that ends an escape sequence. -/
def endsEscape (b : UInt8) : Bool := 0x40 ≤ b && b ≤ 0x5A

/-- How many bytes after the escape byte belong to its sequence: `none` if bytes are missing, zero if it does
not end.  `left` is how many more may, and a prefix of two bytes that announces another sequence is passed. -/
def escapeLength? (prefixed : Bool) : (left taken : Nat) → List UInt8 → Option Nat
  | 0, _, _ => some 0
  | _ + 1, _, [] => none
  | left + 1, taken, b :: rest =>
    if endsEscape b then some (taken + 1)
    else
      match rest with
      | 0x40 :: tail =>
        if prefixed ∧ b = 0x26 then escapeLength? prefixed (left - 2) (taken + 3) (tail.drop 1)
        else escapeLength? prefixed left (taken + 1) (0x40 :: tail)
      | rest => escapeLength? prefixed left (taken + 1) rest
termination_by _ _ bytes => bytes.length
decreasing_by all_goals simp_all <;> omega

/-- The set that an escape sequence of some length chooses, and its place, if it is known. -/
def chosen? (e : Shifting) (sequence : List UInt8) : Option (CharSet × Nat) :=
  match sequence with
  | [0x24, mark] => some (⟨mark, true⟩, 0)
  | [0x28, mark] => some (⟨mark, false⟩, 0)
  | [0x29, mark] => some (⟨mark, false⟩, 1)
  | [0x2E, mark] => if e = .jp2 then some (⟨mark, false⟩, 2) else none
  | [0x24, 0x28, mark] => some (⟨mark, true⟩, 0)
  | [0x24, 0x29, mark] => some (⟨mark, true⟩, 1)
  | [0x26, 0x40, 0x1B, 0x24, 0x42] => if e ≠ .kr then some (⟨0x42, true⟩, 0) else none
  | _ => none

/-- Goes over an escape sequence that starts with one of the known bytes. -/
def escapeStep (e : Shifting) (s : Shifts) (rest : List UInt8) : Step Shifts :=
  match escapeLength? (e != .kr) 15 0 rest with
  | none => .more
  | some 0 => .one s 1 none
  | some n =>
    match chosen? e (rest.take n) with
    | none => .one s (n + 1) none
    | some (set, place) =>
      if set = .ascii ∨ e.sets.contains set then
        .took [] (n + 1) (match place with
          | 0 => { s with first := set }
          | 1 => { s with second := set }
          | _ => { s with third := set })
      else .one s (n + 1) none

/-- The character of the upper half of the third set. -/
def thirdChar? (set : CharSet) (b : UInt8) : Option Char :=
  if set = .ascii then (if b < 0x80 then some (Char.ofNat b.toNat) else none)
  else if set.mark = 0x41 then (if b < 0x80 then some (Char.ofNat (b.toNat + 0x80)) else none)
  else
    match codePages.find? fun p => p.name == "iso8859_7" with
    | some p => (p.decode [b ^^^ 0x80]).head?.join
    | none => none

/-- A step of an encoding with escape sequences. -/
def escapingStep (e : Shifting) (s : Shifts) : List UInt8 → Step Shifts
  | [] => .more
  | a :: rest =>
    let plain (s : Shifts) : Step Shifts := .one s 1 (some (Char.ofNat a.toNat))
    if s.isPassing then plain { s with isPassing := !endsEscape a }
    else if a = 0x1B then
      match rest with
      | [] => .more
      | b :: rest' =>
        if [0x28, 0x29, 0x24, 0x2E, 0x26].contains b then escapeStep e s rest
        else if e = .jp2 ∧ b = 0x4E then
          match rest' with
          | [] => .more
          | c :: _ => .one s 3 (thirdChar? s.third c)
        else plain { s with isPassing := true }
    else if a = 0x0F ∧ e = .kr then .took [] 1 { s with isShifted := false }
    else if a = 0x0E ∧ e = .kr then .took [] 1 { s with isShifted := true }
    else if a = 0x0A then plain { s with isShifted := false }
    else if a < 0x20 then plain s
    else if 0x80 ≤ a then .one s 1 none
    else
      let set := if s.isShifted then s.second else s.first
      if set = .ascii then plain s
      else
        match set.double, rest with
        | true, [] => .more
        | true, b :: _ =>
          match set.chars? a b with
          | some cs => .took (cs.map some) 2 s
          | none => .one s 2 none
        | false, _ => .orSkip s 1 (set.chars? a 0)

/-- Decodes bytes, and tells how many are left at the end to which others are missing. -/
def Shifting.decode (e : Shifting) (bytes : List UInt8) : Glyphs × Nat :=
  match e with
  | .hz => decodeAll hzStep false bytes
  | e => decodeAll (escapingStep e) .start bytes

end Phrasing.Charset
