import Phrasing.Proofs.Except
import Phrasing.Proofs.IsoText

/-! # Texts before an offset of zero

A final letter Z is read as the offset `+00:00` in its place.  This module compares how a text is read
before that offset with how it is read alone, part by part: digits and dates are read the same
(`readDate?_append`), and a date takes the same characters (`dateLength_append`); a time of day is
read the same, but a character that it leaves over no longer counts
(`readTimeAndOffset?_clock_append`); and an offset that stands there already is read as if none
followed (`readOffset?_of_append`).

What the offset of zero is taken for therefore depends on how far the text before it goes, to its date,
to a time of day or to an offset (`readBefore_of_append`).
-/

namespace Phrasing.Calendar

open Text

/-- The offset of zero as it stands for a final letter Z. -/
def zeroOffset : List Char := ['+', '0', '0', ':', '0', '0']

/-! ## Digits -/

section Digits

variable {count m n : Nat} {cs rest : List Char}

theorem takeDigits?_go_append (count n : Nat) (cs : List Char) :
    takeDigits?.go count n (cs ++ zeroOffset) =
      (takeDigits?.go count n cs).map fun (m, rest) => (m, rest ++ zeroOffset) := by
  induction count generalizing n cs with
  | zero => rfl
  | succ count ih =>
    cases cs with
    | nil => rfl
    | cons c cs =>
      rw [List.cons_append]
      simp only [takeDigits?.go]
      cases asciiDigit? c with
      | none => rfl
      | some d => exact ih _ cs

/-- Digits are read without the offset that follows them. -/
theorem takeDigits?_append (count : Nat) (cs : List Char) :
    takeDigits? count (cs ++ zeroOffset) =
      (takeDigits? count cs).map fun (n, rest) => (n, rest ++ zeroOffset) :=
  takeDigits?_go_append count 0 cs

theorem takeDigits?_go_length (h : takeDigits?.go count m cs = some (n, rest)) :
    count ≤ cs.length ∧ rest = cs.drop count := by
  induction count generalizing m cs with
  | zero =>
    cases h
    exact ⟨Nat.zero_le _, rfl⟩
  | succ count ih =>
    cases cs with
    | nil => cases h
    | cons c cs =>
      simp only [takeDigits?.go] at h
      obtain ⟨d, _, h⟩ := Option.bind_eq_some_iff.mp h
      obtain ⟨hlength, hrest⟩ := ih h
      exact ⟨Nat.succ_le_succ hlength, hrest⟩

/-- As many characters are read as there are digits to be. -/
theorem takeDigits?_eq_some (h : takeDigits? count cs = some (n, rest)) :
    count ≤ cs.length ∧ rest = cs.drop count :=
  takeDigits?_go_length h

end Digits

/-! ## Dates -/

theorem skipHyphen?_append (hyphens : Bool) (cs : List Char) :
    skipHyphen? hyphens (cs ++ zeroOffset) = (skipHyphen? hyphens cs).map (· ++ zeroOffset) := by
  cases hyphens with
  | false => rfl
  | true =>
    cases cs with
    | nil => rfl
    | cons c cs =>
      by_cases hc : c = '-'
      · subst hc
        rfl
      · simp [skipHyphen?, hc]

theorem skipHyphen?_eq_some {hyphens : Bool} {cs rest : List Char}
    (h : skipHyphen? hyphens cs = some rest) :
    cs.length = rest.length + (if hyphens then 1 else 0) := by
  cases hyphens with
  | false =>
    cases h
    rfl
  | true =>
    cases cs with
    | nil => cases h
    | cons c cs =>
      by_cases hc : c = '-'
      · subst hc
        cases h
        rfl
      · simp [skipHyphen?, hc] at h

/-- The weekday of a date by week, if one is given. -/
def readWeekday? (given hyphens : Bool) (year week : Nat) (cs : List Char) : Option (Nat × Nat × Nat) :=
  if given then
    (skipHyphen? hyphens cs).bind fun cs =>
      (takeDigits? 1 cs).bind fun weekday => ofWeek? year week weekday.1
  else ofWeek? year week 1

/-- The month and the day of a date. -/
def readMonthAndDay? (hyphens : Bool) (year : Nat) (cs : List Char) : Option (Nat × Nat × Nat) :=
  (takeDigits? 2 cs).bind fun month =>
    (skipHyphen? hyphens month.2).bind fun cs =>
      (takeDigits? 2 cs).bind fun day => some (year, month.1, day.1)

/-- What follows the year of a date. -/
def readWithinYear? (length : Nat) (hyphens : Bool) (year : Nat) (cs : List Char) :
    Option (Nat × Nat × Nat) :=
  if cs.head? = some 'W' then
    (takeDigits? 2 cs.tail).bind fun week =>
      readWeekday? (decide ((if hyphens then 8 else 7) < length)) hyphens year week.1 week.2
  else readMonthAndDay? hyphens year cs

/-- A date is read year first. -/
theorem readDate?_eq (length : Nat) (cs : List Char) :
    readDate? length cs = (takeDigits? 4 cs).bind fun year =>
      (skipHyphen? (year.2.head? == some '-') year.2).bind
        (readWithinYear? length (year.2.head? == some '-') year.1) := by
  unfold readDate?
  simp only [Option.bind_eq_bind]
  refine congrArg (Option.bind _) (funext fun year => ?_)
  refine congrArg (Option.bind _) (funext fun cs => ?_)
  unfold readWithinYear?
  split
  · rw [List.head?_cons, if_pos rfl]
    unfold readWeekday?
    simp only [decide_eq_true_eq, List.tail_cons]
  · rename_i hne
    rw [if_neg]
    · rfl
    · intro h
      obtain ⟨rest, rfl⟩ := List.head?_eq_some_iff.mp h
      exact hne rest rfl

theorem readWeekday?_append (given hyphens : Bool) (year week : Nat) (cs : List Char) :
    readWeekday? given hyphens year week (cs ++ zeroOffset) =
      readWeekday? given hyphens year week cs := by
  unfold readWeekday?
  rw [skipHyphen?_append, Option.bind_map]
  simp only [Function.comp_def, takeDigits?_append, Option.bind_map]

theorem readMonthAndDay?_append (hyphens : Bool) (year : Nat) (cs : List Char) :
    readMonthAndDay? hyphens year (cs ++ zeroOffset) = readMonthAndDay? hyphens year cs := by
  unfold readMonthAndDay?
  simp only [takeDigits?_append, Option.bind_map, Function.comp_def, skipHyphen?_append]

theorem readWithinYear?_append (length : Nat) (hyphens : Bool) (year : Nat) (cs : List Char) :
    readWithinYear? length hyphens year (cs ++ zeroOffset) = readWithinYear? length hyphens year cs := by
  unfold readWithinYear?
  rw [readMonthAndDay?_append]
  cases cs with
  | nil => rfl
  | cons c cs =>
    simp only [List.cons_append, List.head?_cons, List.tail_cons, takeDigits?_append, Option.bind_map,
      Function.comp_def, readWeekday?_append]
    rfl

/-- **A date is read from what it starts with**, whether the offset of zero follows or not. -/
theorem readDate?_append (length : Nat) (cs : List Char) :
    readDate? length (cs ++ zeroOffset) = readDate? length cs := by
  have hhyphens : ∀ rest : List Char,
      ((rest ++ zeroOffset).head? == some '-') = (rest.head? == some '-') := by
    intro rest
    cases rest <;> rfl
  simp only [readDate?_eq, takeDigits?_append, Option.bind_map, Function.comp_def, hhyphens,
    skipHyphen?_append, readWithinYear?_append]

theorem length_of_readMonthAndDay? {hyphens : Bool} {year : Nat} {cs : List Char}
    {date : Nat × Nat × Nat} (h : readMonthAndDay? hyphens year cs = some date) :
    (if hyphens then 5 else 4) ≤ cs.length := by
  obtain ⟨month, hmonth, h⟩ := Option.bind_eq_some_iff.mp h
  obtain ⟨rest, hrest, h⟩ := Option.bind_eq_some_iff.mp h
  obtain ⟨day, hday, _⟩ := Option.bind_eq_some_iff.mp h
  obtain ⟨hlong, hdrop⟩ := takeDigits?_eq_some hmonth
  obtain ⟨hlong', _⟩ := takeDigits?_eq_some hday
  have hlength := skipHyphen?_eq_some hrest
  rw [hdrop, List.length_drop] at hlength
  cases hyphens with
  | false =>
    simp only [Bool.false_eq_true, if_false] at hlength ⊢
    omega
  | true =>
    simp only [if_true] at hlength ⊢
    omega

/-- How long the rest of a date is after its year. -/
theorem length_of_readWithinYear? {length : Nat} {hyphens : Bool} {year : Nat} {cs : List Char}
    {date : Nat × Nat × Nat} (h : readWithinYear? length hyphens year cs = some date) :
    (charAt cs 0 = 'W' ∧ 3 ≤ cs.length) ∨
      (charAt cs 0 ≠ 'W' ∧ (if hyphens then 5 else 4) ≤ cs.length) := by
  unfold readWithinYear? at h
  split at h
  · rename_i hweek
    obtain ⟨rest, rfl⟩ := List.head?_eq_some_iff.mp hweek
    obtain ⟨week, hdigits, _⟩ := Option.bind_eq_some_iff.mp h
    exact .inl ⟨rfl, Nat.succ_le_succ (takeDigits?_eq_some hdigits).1⟩
  · rename_i hmonth
    refine .inr ⟨fun hweek => hmonth ?_, length_of_readMonthAndDay? h⟩
    cases cs with
    | nil => exact absurd hweek (by decide)
    | cons c cs => exact congrArg some hweek

theorem charAt_drop (cs : List Char) (n i : Nat) : charAt (cs.drop n) i = charAt cs (n + i) := by
  unfold charAt
  rw [List.getElem?_drop]

/-- **How long a text is that starts with a date**: a week takes less than a month and a day. -/
theorem length_of_readDate? {length : Nat} {cs : List Char} {date : Nat × Nat × Nat}
    (h : readDate? length cs = some date) :
    (charAt cs 4 = 'W' ∧ 7 ≤ cs.length) ∨ (charAt cs 4 = '-' ∧ charAt cs 5 = 'W' ∧ 8 ≤ cs.length) ∨
      (charAt cs 4 = '-' ∧ charAt cs 5 ≠ 'W' ∧ 10 ≤ cs.length) ∨
      (charAt cs 4 ≠ 'W' ∧ charAt cs 4 ≠ '-' ∧ 8 ≤ cs.length) := by
  rw [readDate?_eq] at h
  obtain ⟨⟨year, rest⟩, hyear, h⟩ := Option.bind_eq_some_iff.mp h
  obtain ⟨within, hwithin, h⟩ := Option.bind_eq_some_iff.mp h
  obtain ⟨hlong, hrest⟩ := takeDigits?_eq_some hyear
  dsimp only at hwithin h
  have hlength : cs.length = rest.length + 4 := by
    rw [hrest, List.length_drop]
    omega
  rw [hlength, ← charAt_drop cs 4 0, ← charAt_drop cs 4 1, ← hrest]
  by_cases hhyphen : rest.head? = some '-'
  · -- After a hyphen the rest of the date starts one character later.
    obtain ⟨tail, rfl⟩ := List.head?_eq_some_iff.mp hhyphen
    cases hwithin
    rcases length_of_readWithinYear? h with ⟨hweek, hlong⟩ | ⟨hmonth, hlong⟩
    · exact .inr (.inl ⟨rfl, hweek, by simpa using hlong⟩)
    · exact .inr (.inr (.inl ⟨rfl, hmonth, by simpa using hlong⟩))
  · have hnone : (rest.head? == some '-') = false := by simpa using hhyphen
    rw [hnone] at hwithin h
    cases hwithin
    rcases length_of_readWithinYear? h with ⟨hweek, hlong⟩ | ⟨hmonth, hlong⟩
    · exact .inl ⟨hweek, by omega⟩
    · refine .inr (.inr (.inr ⟨hmonth, fun hzero => hhyphen ?_, by simpa using hlong⟩))
      cases rest with
      | nil => exact absurd hzero (by decide)
      | cons c tail => exact congrArg some hzero

theorem charAt_append {cs : List Char} {i : Nat} (h : i < cs.length) (more : List Char) :
    charAt (cs ++ more) i = charAt cs i := by
  unfold charAt
  rw [List.getElem?_append_left h]

theorem charAt_append_length (cs more : List Char) (i : Nat) :
    charAt (cs ++ more) (cs.length + i) = charAt more i := by
  unfold charAt
  rw [List.getElem?_append_right (Nat.le_add_right _ _), Nat.add_sub_cancel_left]

theorem charAt_of_length_le {cs : List Char} {i : Nat} (h : cs.length ≤ i) : charAt cs i = '\x00' := by
  unfold charAt
  rw [List.getElem?_eq_none h, Option.getD_none]

theorem length_of_charAt {cs : List Char} {i : Nat} {c : Char} (h : charAt cs i = c) (hc : c ≠ '\x00') :
    i < cs.length :=
  Nat.lt_of_not_le fun hend => hc (h.symm.trans (charAt_of_length_le hend))

/-- At the end of a text the sign of the offset takes the place of nothing. -/
theorem charAt_append_cases {cs : List Char} {i : Nat} (h : i ≤ cs.length) :
    charAt (cs ++ zeroOffset) i = charAt cs i ∨
      (charAt cs i = '\x00' ∧ charAt (cs ++ zeroOffset) i = '+') := by
  rcases Nat.lt_or_eq_of_le h with hlt | rfl
  · exact .inl (charAt_append hlt zeroOffset)
  · exact .inr ⟨charAt_of_length_le (Nat.le_refl _), charAt_append_length cs zeroOffset 0⟩

theorem charAt_eq_append_iff {cs : List Char} {i : Nat} {c : Char} (hnull : c ≠ '\x00') (hplus : c ≠ '+')
    (h : i ≤ cs.length) : charAt (cs ++ zeroOffset) i = c ↔ charAt cs i = c := by
  rcases charAt_append_cases h with hsame | ⟨hend, hsign⟩
  · rw [hsame]
  · rw [hend, hsign]
    exact iff_of_false hplus.symm hnull.symm

theorem isDigit_charAt_append {cs : List Char} {i : Nat} (h : i ≤ cs.length) :
    isDigit (charAt (cs ++ zeroOffset) i) = isDigit (charAt cs i) := by
  rcases charAt_append_cases h with hsame | ⟨hend, hsign⟩
  · rw [hsame]
  · rw [hend, hsign]
    rfl

/-! ## The length of a date -/

section Length

variable {cs : List Char}

/-- A date by week without hyphens takes as many digits as leave pairs of them to the time. -/
def weekLength (digits : Nat) : Nat :=
  if digits < 2 then 7 + digits else if digits % 2 = 1 then 7 else 8

theorem dateLength_basicWeek (hweek : charAt cs 4 = 'W') (hlong : 7 ≤ cs.length) :
    dateLength cs = some (weekLength ((cs.drop 7).takeWhile isDigit).length) := by
  have hne : ¬ 'W' = '-' := by decide
  unfold dateLength weekLength
  rw [if_neg (by omega), hweek, if_neg hne, if_pos rfl]
  by_cases hseven : cs.length = 7
  · have hnone : cs.drop 7 = [] := List.drop_of_length_le (by omega)
    rw [if_pos hseven, hnone]
    rfl
  · rw [if_neg hseven]
    generalize ((cs.drop 7).takeWhile isDigit).length = digits
    dsimp only
    by_cases hfew : digits < 2
    · rw [if_pos hfew, if_pos (by omega)]
    · rw [if_neg hfew, if_neg (by omega)]
      by_cases hodd : digits % 2 = 1
      · rw [if_pos hodd, if_pos (by omega)]
      · rw [if_neg hodd, if_neg (by omega)]

theorem dateLength_week (hhyphen : charAt cs 4 = '-') (hweek : charAt cs 5 = 'W')
    (hlong : 8 ≤ cs.length) :
    dateLength cs =
      if charAt cs 8 = '-' then
        if cs.length = 9 then none else if isDigit (charAt cs 10) then some 8 else some 10
      else some 8 := by
  unfold dateLength
  rw [if_neg (by omega), if_neg (by omega), if_pos hhyphen, if_pos hweek]

theorem dateLength_hyphens (hhyphen : charAt cs 4 = '-') (hmonth : charAt cs 5 ≠ 'W')
    (hlong : 10 ≤ cs.length) : dateLength cs = some 10 := by
  unfold dateLength
  rw [if_neg (by omega), if_neg (by omega), if_pos hhyphen, if_neg hmonth]

theorem dateLength_basic (hweek : charAt cs 4 ≠ 'W') (hhyphen : charAt cs 4 ≠ '-')
    (hlong : 8 ≤ cs.length) : dateLength cs = some 8 := by
  unfold dateLength
  rw [if_neg (by omega), if_neg (by omega), if_neg hhyphen, if_neg hweek]

theorem takeWhile_append (cs : List Char) :
    (cs ++ zeroOffset).takeWhile isDigit = cs.takeWhile isDigit := by
  induction cs with
  | nil => rfl
  | cons c cs ih => rw [List.cons_append, List.takeWhile_cons, List.takeWhile_cons, ih]

theorem length_append_zeroOffset (cs : List Char) : (cs ++ zeroOffset).length = cs.length + 6 :=
  List.length_append

/-- **A date takes as many characters before the offset of zero as it takes alone**, and no more than
there are.  Only a week with a hyphen after it is no date alone, and then the offset stands where the
weekday is missing. -/
theorem dateLength_append {length : Nat} {date : Nat × Nat × Nat}
    (h : readDate? length cs = some date) :
    (∃ n, n ≤ cs.length ∧ dateLength cs = some n ∧ dateLength (cs ++ zeroOffset) = some n) ∨
      (cs.length = 9 ∧ dateLength cs = none ∧ dateLength (cs ++ zeroOffset) = some 8) := by
  have hmore := length_append_zeroOffset cs
  rcases length_of_readDate? h with ⟨hweek, hlong⟩ | ⟨hhyphen, hweek, hlong⟩ | ⟨hhyphen, hmonth, hlong⟩ |
    ⟨hweek, hhyphen, hlong⟩
  · have hdigits : ((cs ++ zeroOffset).drop 7).takeWhile isDigit = (cs.drop 7).takeWhile isDigit := by
      rw [List.drop_append_of_le_length hlong, takeWhile_append]
    have hcount : ((cs.drop 7).takeWhile isDigit).length ≤ cs.length - 7 := by
      rw [← List.length_drop]
      exact (List.takeWhile_prefix _).length_le
    have hafter := dateLength_basicWeek ((charAt_append (by omega) zeroOffset).trans hweek) (by omega)
    rw [hdigits] at hafter
    refine .inl ⟨_, ?_, dateLength_basicWeek hweek hlong, hafter⟩
    unfold weekLength
    split
    · omega
    · split <;> omega
  · have hafter := dateLength_week ((charAt_append (by omega) zeroOffset).trans hhyphen)
      ((charAt_append (by omega) zeroOffset).trans hweek) (by omega)
    have hnext : charAt (cs ++ zeroOffset) 8 = '-' ↔ charAt cs 8 = '-' :=
      charAt_eq_append_iff (by decide) (by decide) hlong
    simp only [hmore, if_neg (by omega : ¬ cs.length + 6 = 9), hnext] at hafter
    rw [hafter, dateLength_week hhyphen hweek hlong]
    split
    · rename_i hgiven
      have hlonger : 9 ≤ cs.length := length_of_charAt hgiven (by decide)
      by_cases hnine : cs.length = 9
      · have hzero : charAt (cs ++ zeroOffset) 10 = '0' := by
          have hten : 10 = cs.length + 1 := by omega
          rw [hten]
          exact charAt_append_length cs zeroOffset 1
        rw [if_pos hnine, hzero]
        exact .inr ⟨hnine, rfl, rfl⟩
      · rw [if_neg hnine, isDigit_charAt_append (by omega)]
        split
        · exact .inl ⟨8, by omega, rfl, rfl⟩
        · exact .inl ⟨10, by omega, rfl, rfl⟩
    · exact .inl ⟨8, hlong, rfl, rfl⟩
  · exact .inl ⟨10, hlong, dateLength_hyphens hhyphen hmonth hlong,
      dateLength_hyphens ((charAt_append (by omega) _).trans hhyphen)
        (by rwa [charAt_append (by omega)]) (by omega)⟩
  · exact .inl ⟨8, hlong, dateLength_basic hweek hhyphen hlong,
      dateLength_basic (by rwa [charAt_append (by omega)]) (by rwa [charAt_append (by omega)])
        (by omega)⟩

end Length

/-! ## Times and offsets -/

section Times

variable {colons : Option Bool} {parts : List Nat} {cs : List Char} {t : RawTime}

theorem dropWhile_append (cs : List Char) :
    (cs ++ zeroOffset).dropWhile isDigit = cs.dropWhile isDigit ++ zeroOffset := by
  induction cs with
  | nil => rfl
  | cons c cs ih =>
    rw [List.cons_append, List.dropWhile_cons, List.dropWhile_cons, ih]
    split <;> rfl

/-- A fraction that ends before the offset of zero ends without it as well. -/
theorem readFraction?_of_append (h : readFraction? parts (cs ++ zeroOffset) = some t)
    (hleft : t.leftover = false) : readFraction? parts cs = some t := by
  have hsix : min 6 (cs ++ zeroOffset).length = 6 := by
    rw [length_append_zeroOffset]
    omega
  unfold readFraction? at h ⊢
  simp only [hsix, takeDigits?_append, Option.bind_eq_bind, Option.bind_map, Function.comp_def] at h
  obtain ⟨⟨n, rest⟩, hdigits, h⟩ := Option.bind_eq_some_iff.mp h
  obtain ⟨hlong, _⟩ := takeDigits?_eq_some hdigits
  have hsix' : min 6 cs.length = 6 := Nat.min_eq_left hlong
  cases h
  simp only [dropWhile_append] at hleft ⊢
  simp only [hsix', hdigits, Option.bind_eq_bind, Option.bind_some]
  cases hrest : rest.dropWhile isDigit with
  | nil =>
    rw [hrest] at hleft
    cases hleft
  | cons c tail => rfl

/-- The parts of a time do not start with the offset of zero, or one character before it. -/
theorem readParts?_zeroOffset (colons : Option Bool) (parts : List Nat) (more : Nat) :
    readParts? colons parts more zeroOffset = none := by
  cases more <;> rfl

theorem readParts?_cons_zeroOffset (colons : Option Bool) (parts : List Nat) (more : Nat) (c : Char) :
    readParts? colons parts more (c :: zeroOffset) = none := by
  cases more with
  | zero =>
    show readFraction? parts _ = none
    simp [readFraction?, takeDigits?, takeDigits?.go, zeroOffset, asciiDigit?]
  | succ more =>
    have hdigits : takeDigits? 2 (c :: zeroOffset) = none := by
      simp [takeDigits?, takeDigits?.go, zeroOffset, asciiDigit?]
    rw [readParts?, hdigits, Option.bind_none]

/-- What comes after two digits of a time. -/
theorem readParts?_step (colons : Option Bool) (parts : List Nat) (more : Nat) {n : Nat} {c : Char}
    {rest : List Char} (h : takeDigits? 2 cs = some (n, c :: rest)) :
    readParts? colons parts (more + 1) cs =
      if 0x80 ≤ c.toNat then none
      else if rest.isEmpty then some ⟨parts ++ [n], 0, c ≠ '\x00'⟩
      else if colons.getD (c == ':') && c == ':' then
        readParts? (some (colons.getD (c == ':'))) (parts ++ [n]) more rest
      else if c == '.' || c == ',' then readFraction? (parts ++ [n]) rest
      else if colons.getD (c == ':') then none
      else readParts? (some (colons.getD (c == ':'))) (parts ++ [n]) more (c :: rest) := by
  rw [readParts?, h]
  rfl

/-- After a whole time or one character more nothing can be read of the offset of zero. -/
theorem readParts?_step_zeroOffset (colons : Option Bool) (parts : List Nat) (more : Nat) {n : Nat}
    {junk : List Char} (hjunk : junk.length ≤ 1) (h : takeDigits? 2 cs = some (n, junk ++ zeroOffset)) :
    readParts? colons parts (more + 1) cs = none := by
  cases junk with
  | nil =>
    have hnone := readParts?_zeroOffset (some (colons.getD ('+' == ':'))) (parts ++ [n]) more
    unfold zeroOffset at hnone
    rw [readParts?_step _ _ _ h, hnone]
    cases colons.getD ('+' == ':') <;> rfl
  | cons c junk =>
    obtain rfl : junk = [] := List.eq_nil_of_length_eq_zero (Nat.le_zero.mp (Nat.le_of_succ_le_succ hjunk))
    have hone : takeDigits? 2 cs = some (n, c :: zeroOffset) := h
    have hfraction : readFraction? (parts ++ [n]) zeroOffset = none := rfl
    have hmore : zeroOffset.isEmpty = false := rfl
    rw [readParts?_step _ _ _ hone]
    simp only [readParts?_zeroOffset, readParts?_cons_zeroOffset, hfraction, hmore, ite_self,
      Bool.false_eq_true, if_false]

/-- **A time that ends before the offset of zero** with nothing left over ends without it as well. -/
theorem readParts?_of_append {more : Nat} (h : readParts? colons parts more (cs ++ zeroOffset) = some t)
    (hleft : t.leftover = false) : readParts? colons parts more cs = some t := by
  induction more generalizing colons parts cs with
  | zero => exact readFraction?_of_append h hleft
  | succ more ih =>
    have hdigits := takeDigits?_append 2 cs
    cases hfound : takeDigits? 2 cs with
    | none =>
      rw [hfound] at hdigits
      rw [readParts?, hdigits] at h
      cases h
    | some found =>
      obtain ⟨n, rest⟩ := found
      rw [hfound, Option.map_some] at hdigits
      by_cases hshort : rest.length ≤ 1
      · rw [readParts?_step_zeroOffset _ _ _ hshort hdigits] at h
        cases h
      · obtain ⟨c, d, tail, rfl⟩ : ∃ c d tail, rest = c :: d :: tail := by
          cases rest with
          | nil => exact absurd (Nat.zero_le 1) hshort
          | cons c rest =>
            cases rest with
            | nil => exact absurd (Nat.le_refl 1) hshort
            | cons d tail => exact ⟨c, d, tail, rfl⟩
        have hmore : takeDigits? 2 (cs ++ zeroOffset) = some (n, c :: d :: (tail ++ zeroOffset)) := hdigits
        rw [readParts?_step _ _ _ hmore] at h
        rw [readParts?_step _ _ _ hfound]
        simp only [List.isEmpty_cons, Bool.false_eq_true, if_false] at h ⊢
        split at h
        · cases h
        · rename_i hnarrow
          rw [if_neg hnarrow]
          split at h
          · rename_i hcolon
            rw [if_pos hcolon]
            exact ih h
          · rename_i hcolon
            rw [if_neg hcolon]
            split at h
            · rename_i hpoint
              rw [if_pos hpoint]
              exact readFraction?_of_append h hleft
            · rename_i hpoint
              rw [if_neg hpoint]
              split at h
              · cases h
              · rename_i hplain
                rw [if_neg hplain]
                exact ih h

theorem readTime?_of_append (h : readTime? (cs ++ zeroOffset) = some t) (hleft : t.leftover = false) :
    readTime? cs = some t :=
  readParts?_of_append h hleft

/-- **An offset before the offset of zero** is read alone as well, and then as the same. -/
theorem readOffset?_of_append {n : Int} (hne : cs ≠ []) (h : readOffset? (cs ++ zeroOffset) = some n) :
    readOffset? cs = some n := by
  cases cs with
  | nil => exact absurd rfl hne
  | cons sign rest =>
    by_cases hsign : sign = 'Z'
    · subst hsign
      cases rest with
      | nil => cases h
      | cons c tail => exact h
    · rw [List.cons_append, readOffset?_signed hsign] at h
      rw [readOffset?_signed hsign]
      obtain ⟨t, ht, h⟩ := Option.bind_eq_some_iff.mp h
      cases hleft : t.leftover with
      | true =>
        rw [hleft] at h
        cases h
      | false =>
        rw [readTime?_of_append ht hleft, Option.bind_some]
        exact h

end Times

section Clocks

variable {cs : List Char} {time : RawTime} {offset : Option Int}

/-- Characters in which no offset starts come before the first one that starts one. -/
theorem clock_append (h : cs.any startsOffset = false) (more : List Char) :
    (cs ++ more).takeWhile (!startsOffset ·) = cs ++ more.takeWhile (!startsOffset ·) ∧
      (cs ++ more).dropWhile (!startsOffset ·) = more.dropWhile (!startsOffset ·) := by
  have hall : ∀ c ∈ cs, (!startsOffset c) = true := by
    intro c hc
    rw [Bool.not_eq_true']
    exact Bool.eq_false_iff.mpr (List.any_eq_false.mp h c hc)
  exact ⟨List.takeWhile_append_of_pos hall, List.dropWhile_append_of_pos hall⟩

/-- A time alone must be read to its end. -/
theorem readTimeAndOffset?_clock (h : cs.any startsOffset = false) :
    readTimeAndOffset? cs =
      (readTime? cs).bind fun time => if time.leftover then none else some (time, none) := by
  have hzone := (clock_append h []).2
  rw [List.append_nil] at hzone
  unfold readTimeAndOffset?
  simp only [hzone, List.dropWhile_nil, List.isEmpty_nil, if_true]
  rfl

/-- A time before an offset may leave a character over. -/
theorem readTimeAndOffset?_offset {sign : Char} {rest : List Char} (h : cs.any startsOffset = false)
    (hsign : startsOffset sign = true) :
    readTimeAndOffset? (cs ++ sign :: rest) =
      (readTime? cs).bind fun time => (readOffset? (sign :: rest)).map fun n => (time, some n) := by
  obtain ⟨hclock, hzone⟩ := clock_append h (sign :: rest)
  have hstop : (!startsOffset sign) = false := by rw [hsign]; rfl
  rw [List.takeWhile_cons, hstop, if_neg Bool.false_ne_true, List.append_nil] at hclock
  rw [List.dropWhile_cons, hstop, if_neg Bool.false_ne_true] at hzone
  unfold readTimeAndOffset?
  simp only [hclock, hzone, List.isEmpty_cons, Bool.false_eq_true, if_false]
  cases readTime? cs with
  | none => rfl
  | some time => cases readOffset? (sign :: rest) <;> rfl

/-- Where an offset starts, if one does. -/
theorem exists_offset (h : cs.any startsOffset = true) :
    ∃ clock sign rest, cs = clock ++ sign :: rest ∧ clock.any startsOffset = false ∧
      startsOffset sign = true := by
  induction cs with
  | nil => cases h
  | cons c cs ih =>
    cases hc : startsOffset c with
    | true => exact ⟨[], c, cs, rfl, rfl, hc⟩
    | false =>
      rw [List.any_cons, hc, Bool.false_or] at h
      obtain ⟨clock, sign, rest, rfl, hclock, hsign⟩ := ih h
      refine ⟨c :: clock, sign, rest, rfl, ?_, hsign⟩
      rw [List.any_cons, hc, Bool.false_or, hclock]

/-- **A time before the offset of zero** is one of universal time. -/
theorem readTimeAndOffset?_clock_append (h : cs.any startsOffset = false) :
    readTimeAndOffset? (cs ++ zeroOffset) = (readTime? cs).map fun time => (time, some 0) := by
  have hoffset : readOffset? ('+' :: ['0', '0', ':', '0', '0']) = some 0 := by decide
  rw [zeroOffset, readTimeAndOffset?_offset h rfl, hoffset]
  cases readTime? cs <;> rfl

/-- **A time with an offset before the offset of zero** is read alone as well, and then as the same. -/
theorem readTimeAndOffset?_of_append (h : cs.any startsOffset = true)
    (hread : readTimeAndOffset? (cs ++ zeroOffset) = some (time, offset)) :
    readTimeAndOffset? cs = some (time, offset) ∧ ∃ n, offset = some n := by
  obtain ⟨clock, sign, rest, rfl, hclock, hsign⟩ := exists_offset h
  rw [List.append_assoc, List.cons_append, readTimeAndOffset?_offset hclock hsign] at hread
  rw [readTimeAndOffset?_offset hclock hsign]
  obtain ⟨found, htime, hread⟩ := Option.bind_eq_some_iff.mp hread
  obtain ⟨n, hn, hpair⟩ := Option.map_eq_some_iff.mp hread
  cases hpair
  rw [htime, Option.bind_some, readOffset?_of_append (List.cons_ne_nil sign rest) hn]
  exact ⟨rfl, n, rfl⟩

end Clocks

/-! ## Points in time -/

/-- How far a text goes that is read as a point in time: to its date, to a time of day after any one
character, or to an offset. -/
inductive Extent where
  | date
  | clock
  | offset
  deriving DecidableEq, Repr

/-- How far a text goes. -/
def extent? (cs : List Char) : Option Extent :=
  (dateLength cs).map fun length =>
    match cs.drop length with
    | [] => .date
    | _ :: rest => if rest.any startsOffset then .offset else .clock

section Points

variable {cs rest : List Char} {length : Nat} {date : Nat × Nat × Nat} {raw : RawTimestamp} {sep : Char}

theorem exists_date (h : readRaw? cs = some raw) :
    ∃ length date, dateLength cs = some length ∧ readDate? length cs = some date := by
  obtain ⟨length, hlength, h⟩ := Option.bind_eq_some_iff.mp h
  obtain ⟨date, hdate, _⟩ := Option.bind_eq_some_iff.mp h
  exact ⟨length, date, hlength, hdate⟩

theorem readRaw?_date (hlength : dateLength cs = some length) (hdate : readDate? length cs = some date)
    (hend : cs.drop length = []) :
    readRaw? cs = some ⟨date.1, date.2.1, date.2.2, 0, 0, 0, 0, none⟩ := by
  unfold readRaw?
  simp only [hlength, hdate, hend, Option.bind_eq_bind, Option.bind_some]
  rfl

theorem readRaw?_time (hlength : dateLength cs = some length) (hdate : readDate? length cs = some date)
    (hend : cs.drop length = sep :: rest) :
    readRaw? cs = (readTimeAndOffset? rest).map fun time =>
      ⟨date.1, date.2.1, date.2.2, time.1.part 0, time.1.part 1, time.1.part 2, time.1.microsecond,
        time.2⟩ := by
  unfold readRaw?
  simp only [hlength, hdate, hend, Option.bind_eq_bind, Option.bind_some]
  cases readTimeAndOffset? rest <;> rfl

theorem extent?_eq (hlength : dateLength cs = some length) (hend : cs.drop length = sep :: rest) :
    extent? cs = some (if rest.any startsOffset then .offset else .clock) := by
  unfold extent?
  rw [hlength, Option.map_some, hend]

/-- How a text is read alone that is read before the offset of zero as these parts. -/
inductive ReadBefore (cs : List Char) (raw : RawTimestamp) : Prop where
  | date (hextent : extent? cs = some .date)
    (hraw : raw = ⟨raw.year, raw.month, raw.day, 0, 0, 0, 0, none⟩) (hread : readRaw? cs = some raw)
  | clock (hextent : extent? cs = some .clock) (hoffset : raw.offset = some 0)
    (hread : readRaw? cs = some { raw with offset := none })
  | leftover (hextent : extent? cs = some .clock) (hoffset : raw.offset = some 0)
    (hread : readRaw? cs = none)
  | offset {n : Int} (hextent : extent? cs = some .offset) (hoffset : raw.offset = some n)
    (hread : readRaw? cs = some raw)

/-- **What the offset of zero is taken for** depends on how far the text before it goes.  After a date its
sign separates the date from a time, which is midnight; after a time of day it is the offset; and after
an offset it is not looked at. -/
theorem readBefore_of_append (h : readRaw? (cs ++ zeroOffset) = some raw) : ReadBefore cs raw := by
  obtain ⟨length, date, hlength, hdate⟩ := exists_date h
  have halone := hdate
  rw [readDate?_append] at halone
  rcases dateLength_append halone with ⟨n, hn, hbefore, hafter⟩ | ⟨hnine, _, hafter⟩
  · cases hlength.symm.trans hafter
    have hdrop : (cs ++ zeroOffset).drop length = cs.drop length ++ zeroOffset :=
      List.drop_append_of_le_length hn
    cases hrest : cs.drop length with
    | nil =>
      rw [hrest] at hdrop
      rw [readRaw?_time hlength hdate hdrop] at h
      cases h
      refine .date ?_ rfl (readRaw?_date hbefore halone hrest)
      unfold extent?
      rw [hbefore, Option.map_some, hrest]
    | cons sep rest =>
      rw [hrest] at hdrop
      rw [readRaw?_time hlength hdate hdrop] at h
      have hextent := extent?_eq hbefore hrest
      have hraw := readRaw?_time hbefore halone hrest
      obtain ⟨⟨time, offset⟩, htime, h⟩ := Option.map_eq_some_iff.mp h
      cases h
      cases hsign : rest.any startsOffset with
      | true =>
        rw [hsign, if_pos rfl] at hextent
        obtain ⟨hsame, n, rfl⟩ := readTimeAndOffset?_of_append hsign htime
        rw [hsame] at hraw
        exact .offset hextent rfl hraw
      | false =>
        rw [hsign, if_neg Bool.false_ne_true] at hextent
        rw [List.append_eq, readTimeAndOffset?_clock_append hsign] at htime
        obtain ⟨found, hfound, hpair⟩ := Option.map_eq_some_iff.mp htime
        cases hpair
        rw [readTimeAndOffset?_clock hsign, hfound, Option.bind_some] at hraw
        cases hleft : time.leftover with
        | true =>
          rw [hleft] at hraw
          exact .leftover hextent rfl hraw
        | false =>
          rw [hleft] at hraw
          exact .clock hextent rfl hraw
  · -- The hyphen after a week separates it from the offset, which is no time.
    cases hlength.symm.trans hafter
    obtain ⟨sep, hsep⟩ : ∃ sep, cs.drop 8 = [sep] :=
      List.length_eq_one_iff.mp (by rw [List.length_drop, hnine])
    have hdrop : (cs ++ zeroOffset).drop 8 = sep :: zeroOffset := by
      rw [List.drop_append_of_le_length (by omega), hsep]
      rfl
    rw [readRaw?_time hlength hdate hdrop] at h
    cases h

/-- **A time of day that is read alone** is read before the offset of zero as one of universal time. -/
theorem readRaw?_append_of_clock (hextent : extent? cs = some .clock) (h : readRaw? cs = some raw) :
    readRaw? (cs ++ zeroOffset) = some { raw with offset := some 0 } := by
  obtain ⟨length, date, hlength, hdate⟩ := exists_date h
  rcases dateLength_append hdate with ⟨n, hn, hbefore, hafter⟩ | ⟨_, hnone, _⟩
  · cases hlength.symm.trans hbefore
    have hdate' := hdate
    rw [← readDate?_append] at hdate'
    have hdrop : (cs ++ zeroOffset).drop length = cs.drop length ++ zeroOffset :=
      List.drop_append_of_le_length hn
    cases hrest : cs.drop length with
    | nil =>
      unfold extent? at hextent
      rw [hbefore, Option.map_some, hrest] at hextent
      cases hextent
    | cons sep rest =>
      rw [hrest] at hdrop
      rw [extent?_eq hbefore hrest] at hextent
      have hsign : rest.any startsOffset = false := by
        cases hany : rest.any startsOffset with
        | false => rfl
        | true =>
          rw [hany] at hextent
          cases hextent
      rw [readRaw?_time hbefore hdate hrest, readTimeAndOffset?_clock hsign] at h
      obtain ⟨⟨time, offset⟩, htime, h⟩ := Option.map_eq_some_iff.mp h
      obtain ⟨found, hfound, hwhole⟩ := Option.bind_eq_some_iff.mp htime
      rw [readRaw?_time hafter hdate' hdrop, List.append_eq, readTimeAndOffset?_clock_append hsign, hfound]
      split at hwhole
      · cases hwhole
      · cases hwhole
        cases h
        rfl
  · cases hlength.symm.trans hnone

end Points

theorem RawTimestamp.check_eq_ok_iff {raw : RawTimestamp} {t : Timestamp} :
    raw.check = .ok t ↔ checkOffset raw.offset = .ok t.offset ∧
      checkDate raw.year raw.month raw.day = .ok t.date ∧
      checkTime raw.hour raw.minute raw.second raw.microsecond = .ok t.time := by
  constructor
  · intro h
    obtain ⟨offset, hoffset, h⟩ := bind_eq_ok.mp h
    obtain ⟨date, hdate, h⟩ := bind_eq_ok.mp h
    obtain ⟨time, htime, h⟩ := bind_eq_ok.mp h
    cases h
    exact ⟨hoffset, hdate, htime⟩
  · rintro ⟨hoffset, hdate, htime⟩
    exact bind_eq_ok.mpr ⟨_, hoffset, bind_eq_ok.mpr ⟨_, hdate, bind_eq_ok.mpr ⟨_, htime, rfl⟩⟩⟩

end Phrasing.Calendar
