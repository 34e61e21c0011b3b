import Mathlib.Algebra.Group.Nat.Defs
import Phrasing.Calendar.Iso

/-! # The text of a point in time reads back

Every number of the text has a fixed width, so that reading goes from one part to the next: digits
(`takeDigits?_decimalDigits`), a date (`readDate?_isoChars`), a time (`readTime?_isoChars`), an
offset (`readOffset?_isoChars`), and the whole (`readRaw?_isoChars`).  What is read is the point in
time that was written, but for an offset of less than a second, which counts as none
(`Timestamp.ofIso_iso`).
-/

namespace Phrasing.Calendar

open Text

/-! ## Digits -/

theorem asciiDigit?_ofNat {d : Nat} (h : d < 10) :
    asciiDigit? (Char.ofNat (d + '0'.toNat)) = some d := by
  have hall : ∀ d : Fin 10, asciiDigit? (Char.ofNat (d.val + '0'.toNat)) = some d.val := by decide
  exact hall ⟨d, h⟩

@[simp] theorem length_decimalDigits (width n : Nat) : (decimalDigits width n).length = width := by
  induction width generalizing n with
  | zero => rfl
  | succ width ih => rw [decimalDigits, List.length_append, ih]; rfl

theorem isDigit_of_mem_decimalDigits {width n : Nat} {c : Char} (h : c ∈ decimalDigits width n) :
    isDigit c = true := by
  induction width generalizing n with
  | zero => cases h
  | succ width ih =>
    rcases List.mem_append.mp h with h | h
    · exact ih h
    · rw [List.mem_singleton.mp h, isDigit, asciiDigit?_ofNat (Nat.mod_lt n (by decide))]
      rfl

theorem takeDigits?_go_add (first second n : Nat) (cs : List Char) :
    takeDigits?.go (first + second) n cs =
      (takeDigits?.go first n cs).bind fun (m, rest) => takeDigits?.go second m rest := by
  induction first generalizing n cs with
  | zero => rw [Nat.zero_add]; rfl
  | succ first ih =>
    rw [Nat.succ_add]
    cases cs with
    | nil => rfl
    | cons c cs =>
      simp only [takeDigits?.go]
      cases asciiDigit? c with
      | none => rfl
      | some d => exact ih _ cs

theorem takeDigits?_go_decimalDigits {width n : Nat} (h : n < 10 ^ width) (m : Nat)
    (rest : List Char) :
    takeDigits?.go width m (decimalDigits width n ++ rest) = some (m * 10 ^ width + n, rest) := by
  induction width generalizing n rest with
  | zero =>
    have hn : n = 0 := by simpa using h
    simp [takeDigits?.go, decimalDigits, hn]
  | succ width ih =>
    -- The last digit is read after all the others, which are those of a tenth of the number.
    have htenth : n / 10 < 10 ^ width := by
      rw [Nat.pow_succ] at h
      omega
    rw [takeDigits?_go_add, decimalDigits, List.append_assoc, ih htenth]
    simp only [Option.bind_some, List.singleton_append, takeDigits?.go,
      asciiDigit?_ofNat (Nat.mod_lt n (by decide : 10 > 0))]
    have hvalue : 10 * (m * 10 ^ width + n / 10) + n % 10 = m * 10 ^ (width + 1) + n := by
      rw [Nat.pow_succ, ← Nat.mul_assoc]
      omega
    rw [hvalue]

/-- **Digits read back**, whatever follows them. -/
theorem takeDigits?_decimalDigits {width n : Nat} (h : n < 10 ^ width) (rest : List Char) :
    takeDigits? width (decimalDigits width n ++ rest) = some (n, rest) := by
  rw [takeDigits?, takeDigits?_go_decimalDigits h, Nat.zero_mul, Nat.zero_add]

/-- No digit is one of the other characters of the form. -/
theorem ne_of_isDigit {c d : Char} (hc : isDigit c = true) (hd : isDigit d = false) : c ≠ d := by
  rintro rfl
  rw [hc] at hd
  cases hd

/-! ## The characters of the form -/

section Characters

variable {p : Char → Bool} (hdigit : ∀ c, isDigit c = true → p c = true)
include hdigit

theorem all_decimalDigits (width n : Nat) : (decimalDigits width n).all p = true :=
  List.all_eq_true.mpr fun c hc => hdigit c (isDigit_of_mem_decimalDigits hc)

theorem all_fractionChars (hstop : p '.' = true) (microsecond : Nat) :
    (fractionChars microsecond).all p = true := by
  unfold fractionChars
  split
  · rfl
  · simp only [List.all_cons, hstop, all_decimalDigits hdigit, Bool.and_self]

theorem TimeOfDay.all_isoChars (hcolon : p ':' = true) (hstop : p '.' = true) (t : TimeOfDay) :
    t.isoChars.all p = true := by
  simp only [isoChars, List.all_append, List.all_cons, all_decimalDigits hdigit,
    all_fractionChars hdigit hstop, hcolon, Bool.and_self]

theorem Offset.all_isoChars (hplus : p '+' = true) (hminus : p '-' = true) (hcolon : p ':' = true)
    (hstop : p '.' = true) (o : Offset) : o.isoChars.all p = true := by
  have hsign : p (if o.microseconds < 0 then '-' else '+') = true := by
    split
    · exact hminus
    · exact hplus
  have hseconds : (if o.microseconds.natAbs % 60000000 = 0 then []
      else ':' :: decimalDigits 2 (o.microseconds.natAbs / 1000000 % 60) ++
        fractionChars (o.microseconds.natAbs % 1000000)).all p = true := by
    split
    · rfl
    · simp only [List.all_append, List.all_cons, all_decimalDigits hdigit,
        all_fractionChars hdigit hstop, hcolon, Bool.and_self]
  simp only [isoChars, List.all_append, List.all_cons, all_decimalDigits hdigit, hsign, hcolon,
    hseconds, Bool.and_self]

/-- **The text of a point in time has digits and five marks in it**, and nothing else. -/
theorem Timestamp.all_isoChars (hmarks : ∀ c ∈ ['-', '+', ':', '.', 'T'], p c = true)
    (t : Timestamp) : t.isoChars.all p = true := by
  have hminus : p '-' = true := hmarks _ (by decide)
  have hcolon : p ':' = true := hmarks _ (by decide)
  have hstop : p '.' = true := hmarks _ (by decide)
  have hoffset : ((t.offset.map Offset.isoChars).getD []).all p = true := by
    cases t.offset with
    | none => rfl
    | some o => exact o.all_isoChars hdigit (hmarks _ (by decide)) hminus hcolon hstop
  simp only [isoChars, Date.isoChars, List.all_append, List.all_cons, all_decimalDigits hdigit,
    TimeOfDay.all_isoChars hdigit hcolon hstop, hoffset, hminus, hmarks 'T' (by decide),
    Bool.and_self]

end Characters

/-! ## Dates -/

theorem Date.year_lt (d : Date) : d.year < 10 ^ 4 := Nat.lt_succ_of_le d.isDay.1.2

theorem Date.month_lt (d : Date) : d.month < 10 ^ 2 :=
  Nat.lt_of_le_of_lt d.isDay.2.1.2 (by decide)

theorem Date.day_lt (d : Date) : d.day < 10 ^ 2 := by
  have hmonth : daysInMonth d.year d.month ≤ 31 := by
    unfold daysInMonth
    repeat' split
    all_goals decide
  exact Nat.lt_of_le_of_lt (Nat.le_trans d.isDay.2.2.2 hmonth) (by decide)

@[simp] theorem Date.length_isoChars (d : Date) : d.isoChars.length = 10 := by
  simp [isoChars]

/-- A date in the extended form takes ten characters, whatever follows. -/
theorem dateLength_isoChars (d : Date) (rest : List Char) :
    dateLength (d.isoChars ++ rest) = some 10 := by
  have hlength : 10 ≤ (d.isoChars ++ rest).length := by
    rw [List.length_append, d.length_isoChars]
    omega
  have hhyphen : charAt (d.isoChars ++ rest) 4 = '-' := rfl
  have hfirst : charAt (d.isoChars ++ rest) 5 ∈ decimalDigits 2 d.month := List.mem_cons_self
  have hmonth : charAt (d.isoChars ++ rest) 5 ≠ 'W' :=
    ne_of_isDigit (isDigit_of_mem_decimalDigits hfirst) (by decide)
  unfold dateLength
  rw [if_neg (by omega), if_neg (by omega), if_pos hhyphen, if_neg hmonth]

/-- **A date reads back.** -/
theorem readDate?_isoChars (d : Date) (rest : List Char) :
    readDate? 10 (d.isoChars ++ rest) = some (d.year, d.month, d.day) := by
  have hyear := takeDigits?_decimalDigits d.year_lt
    ('-' :: (decimalDigits 2 d.month ++ '-' :: (decimalDigits 2 d.day ++ rest)))
  have hmonth := takeDigits?_decimalDigits d.month_lt ('-' :: (decimalDigits 2 d.day ++ rest))
  have hday := takeDigits?_decimalDigits d.day_lt rest
  have hchars : d.isoChars ++ rest = decimalDigits 4 d.year ++
      '-' :: (decimalDigits 2 d.month ++ '-' :: (decimalDigits 2 d.day ++ rest)) := by
    simp [Date.isoChars]
  rw [hchars]
  unfold readDate?
  rw [hyear]
  simp only [Option.bind_eq_bind, Option.bind_some, List.head?_cons, beq_self_eq_true, skipHyphen?,
    if_true]
  split
  · -- A month is no week: its first digit is no letter.
    rename_i cs hweek
    have hfirst : 'W' ∈ decimalDigits 2 d.month := by
      have hhead := congrArg List.head? hweek
      exact List.mem_of_mem_head? (Option.mem_def.mpr hhead)
    have hdigit := isDigit_of_mem_decimalDigits hfirst
    exact absurd rfl (ne_of_isDigit hdigit (by decide : isDigit 'W' = false))
  · rw [hmonth]
    simp only [Option.bind_some, hday]
    rfl

/-! ## Times -/

/-- A part of a time before a colon, where parts may be separated by colons. -/
theorem readParts?_colon {colons : Option Bool} (hcolons : colons ≠ some false) (parts : List Nat)
    (more : Nat) {n : Nat} (hn : n < 10 ^ 2) {rest : List Char} (hrest : rest ≠ []) :
    readParts? colons parts (more + 1) (decimalDigits 2 n ++ ':' :: rest) =
      readParts? (some true) (parts ++ [n]) more rest := by
  have hcolon : colons.getD true = true := by
    cases colons with
    | none => rfl
    | some b =>
      cases b with
      | true => rfl
      | false => exact absurd rfl hcolons
  have hempty : rest.isEmpty = false := by
    cases rest with
    | nil => exact absurd rfl hrest
    | cons c cs => rfl
  have hchar : ¬ 0x80 ≤ ':'.toNat := by decide
  rw [readParts?, takeDigits?_decimalDigits hn]
  simp only [Option.bind_some, beq_self_eq_true, hcolon, Bool.and_self, if_true, hempty,
    Bool.false_eq_true, if_false, if_neg hchar]

/-- The last part of a time, with its fraction. -/
theorem readParts?_last (colons : Option Bool) (parts : List Nat) (more : Nat) {n : Nat}
    (hn : n < 10 ^ 2) {microsecond : Nat} (hmicro : microsecond < 10 ^ 6) :
    readParts? colons parts (more + 1) (decimalDigits 2 n ++ fractionChars microsecond) =
      some ⟨parts ++ [n], microsecond, false⟩ := by
  rw [readParts?, takeDigits?_decimalDigits hn]
  unfold fractionChars
  by_cases hzero : microsecond = 0
  · rw [if_pos hzero, hzero]
    rfl
  · have hdigits := takeDigits?_decimalDigits hmicro []
    have hempty : (decimalDigits 6 microsecond).isEmpty = false := by
      rw [List.isEmpty_eq_false_iff_exists_mem]
      exact ⟨_, List.mem_cons_self⟩
    have hchar : ¬ 0x80 ≤ '.'.toNat := by decide
    have hcolon : ('.' == ':') = false := by decide
    rw [List.append_nil] at hdigits
    rw [if_neg hzero]
    simp only [Option.bind_some, hcolon, Bool.and_false, Bool.false_eq_true, if_false, hempty,
      if_neg hchar, beq_self_eq_true, Bool.true_or, if_true, readFraction?, length_decimalDigits,
      Nat.min_self, hdigits]
    simp

theorem TimeOfDay.hour_lt_pow (t : TimeOfDay) : t.hour < 10 ^ 2 :=
  Nat.lt_trans t.hour_lt (by decide)

theorem TimeOfDay.minute_lt_pow (t : TimeOfDay) : t.minute < 10 ^ 2 :=
  Nat.lt_trans t.minute_lt (by decide)

theorem TimeOfDay.second_lt_pow (t : TimeOfDay) : t.second < 10 ^ 2 :=
  Nat.lt_trans t.second_lt (by decide)

theorem decimalDigits_append_ne_nil (width n : Nat) (rest : List Char) :
    decimalDigits (width + 1) n ++ rest ≠ [] := by
  simp [decimalDigits]

/-- **A time of day reads back.** -/
theorem readTime?_isoChars (t : TimeOfDay) :
    readTime? t.isoChars = some ⟨[t.hour, t.minute, t.second], t.microsecond, false⟩ := by
  have hchars : t.isoChars = decimalDigits 2 t.hour ++ ':' :: (decimalDigits 2 t.minute ++
      ':' :: (decimalDigits 2 t.second ++ fractionChars t.microsecond)) := by
    simp [TimeOfDay.isoChars]
  rw [hchars, readTime?,
    readParts?_colon (by decide) [] 2 t.hour_lt_pow (decimalDigits_append_ne_nil _ _ _),
    readParts?_colon (by decide) _ 1 t.minute_lt_pow (decimalDigits_append_ne_nil _ _ _),
    readParts?_last _ _ 0 t.second_lt_pow t.microsecond_lt]
  rfl

/-! ## Offsets -/

/-- An offset as its text tells it: less than a second counts as none. -/
def Offset.told (o : Offset) : Offset :=
  if o.microseconds.natAbs < 1000000 then .utc else o

/-- An offset in whole seconds is told as it is. -/
theorem Offset.told_of_whole {o : Offset} (h : o.microseconds % 1000000 = 0) : o.told = o := by
  unfold told
  split
  · obtain ⟨microseconds, hday⟩ := o
    have hzero : microseconds = 0 := by
      dsimp only at *
      omega
    subst hzero
    rfl
  · rfl

/-- The characters of an offset after its sign. -/
def Offset.sizeChars (o : Offset) : List Char :=
  decimalDigits 2 (o.microseconds.natAbs / 1000000 / 3600) ++
    ':' :: (decimalDigits 2 (o.microseconds.natAbs / 1000000 / 60 % 60) ++
      (if o.microseconds.natAbs % 60000000 = 0 then []
        else ':' :: (decimalDigits 2 (o.microseconds.natAbs / 1000000 % 60) ++
          fractionChars (o.microseconds.natAbs % 1000000))))

theorem Offset.isoChars_eq (o : Offset) :
    o.isoChars = (if o.microseconds < 0 then '-' else '+') :: o.sizeChars := by
  unfold isoChars sizeChars
  simp

/-- **The size of an offset reads back.** -/
theorem Offset.readTime?_sizeChars (o : Offset) :
    ∃ t, readTime? o.sizeChars = some t ∧ t.leftover = false ∧
      t.part 0 * 3600 + t.part 1 * 60 + t.part 2 = o.microseconds.natAbs / 1000000 ∧
      t.microsecond = o.microseconds.natAbs % 1000000 := by
  have hday := o.lt_day
  unfold dayMicroseconds at hday
  have hhour : o.microseconds.natAbs / 1000000 / 3600 < 10 ^ 2 := by omega
  have hminute : o.microseconds.natAbs / 1000000 / 60 % 60 < 10 ^ 2 := by omega
  have hsecond : o.microseconds.natAbs / 1000000 % 60 < 10 ^ 2 := by omega
  have hmicro : o.microseconds.natAbs % 1000000 < 10 ^ 6 := by omega
  unfold sizeChars
  rw [readTime?,
    readParts?_colon (by decide) [] 2 hhour (decimalDigits_append_ne_nil _ _ _)]
  by_cases hwhole : o.microseconds.natAbs % 60000000 = 0
  · -- Without seconds the minutes are the last part.
    have hlast := readParts?_last (some true) ([] ++ [o.microseconds.natAbs / 1000000 / 3600]) 1
      hminute (by decide : 0 < 10 ^ 6)
    rw [show fractionChars 0 = [] from rfl] at hlast
    rw [if_pos hwhole, hlast]
    refine ⟨_, rfl, rfl, ?_, ?_⟩
    · show o.microseconds.natAbs / 1000000 / 3600 * 3600 +
        o.microseconds.natAbs / 1000000 / 60 % 60 * 60 + 0 = _
      omega
    · show 0 = _
      omega
  · rw [if_neg hwhole,
      readParts?_colon (by decide) _ 1 hminute (decimalDigits_append_ne_nil _ _ _),
      readParts?_last _ _ 0 hsecond hmicro]
    refine ⟨_, rfl, rfl, ?_, rfl⟩
    show o.microseconds.natAbs / 1000000 / 3600 * 3600 +
      o.microseconds.natAbs / 1000000 / 60 % 60 * 60 + o.microseconds.natAbs / 1000000 % 60 = _
    omega

/-- What follows a sign is the size of an offset. -/
theorem readOffset?_signed {sign : Char} (hsign : sign ≠ 'Z') (rest : List Char) :
    readOffset? (sign :: rest) = (readTime? rest).bind fun t =>
      if t.leftover then none
      else if t.part 0 * 3600 + t.part 1 * 60 + t.part 2 = 0 then some 0
      else some (if sign = '-' then
          -(((t.part 0 * 3600 + t.part 1 * 60 + t.part 2 : Nat) : Int) * 1000000 + t.microsecond)
        else ((t.part 0 * 3600 + t.part 1 * 60 + t.part 2 : Nat) : Int) * 1000000 +
          t.microsecond) := by
  unfold readOffset?
  split
  · rename_i h
    exact absurd (List.cons.inj h).1 hsign
  · rename_i h
    obtain ⟨rfl, rfl⟩ := List.cons.inj h
    rfl
  · rename_i h
    cases h

/-- **An offset reads back as it is told.** -/
theorem readOffset?_isoChars (o : Offset) : readOffset? o.isoChars = some o.told.microseconds := by
  obtain ⟨t, ht, hleft, hseconds, hmicro⟩ := o.readTime?_sizeChars
  have hsign : (if o.microseconds < 0 then '-' else '+') ≠ 'Z' := by
    split
    · decide
    · decide
  have hsum : ((o.microseconds.natAbs / 1000000 : Nat) : Int) * 1000000 +
      (o.microseconds.natAbs % 1000000 : Nat) = (o.microseconds.natAbs : Int) := by
    omega
  rw [o.isoChars_eq, readOffset?_signed hsign, ht]
  simp only [Option.bind_some, hleft, Bool.false_eq_true, if_false, hseconds, hmicro, hsum]
  unfold Offset.told
  by_cases hsmall : o.microseconds.natAbs < 1000000
  · rw [if_pos (by omega), if_pos hsmall]
    rfl
  · rw [if_neg (by omega), if_neg hsmall]
    by_cases hneg : o.microseconds < 0
    · rw [if_pos hneg, if_pos rfl]
      exact congrArg some (by omega)
    · rw [if_neg hneg, if_neg (by decide)]
      exact congrArg some (by omega)

/-! ## Points in time -/

theorem startsOffset_of_isDigit {c : Char} (h : isDigit c = true) : startsOffset c = false := by
  have hplus := ne_of_isDigit h (by decide : isDigit '+' = false)
  have hminus := ne_of_isDigit h (by decide : isDigit '-' = false)
  have hzulu := ne_of_isDigit h (by decide : isDigit 'Z' = false)
  simp [startsOffset, hplus, hminus, hzulu]

/-- No character of a time starts an offset. -/
theorem TimeOfDay.startsOffset_of_mem {t : TimeOfDay} {c : Char} (h : c ∈ t.isoChars) :
    (!startsOffset c) = true := by
  have hdigit : ∀ c, isDigit c = true → (!startsOffset c) = true := fun c hc => by
    rw [startsOffset_of_isDigit hc]
    rfl
  exact List.all_eq_true.mp (t.all_isoChars hdigit rfl rfl) c h

/-- An offset starts with its sign. -/
theorem Offset.startsOffset_isoChars (o : Offset) :
    ∃ sign rest, o.isoChars = sign :: rest ∧ startsOffset sign = true := by
  refine ⟨_, _, o.isoChars_eq, ?_⟩
  split <;> rfl

/-- **A time of day and its offset read back.** -/
theorem readTimeAndOffset?_isoChars (t : TimeOfDay) (offset : Option Offset) :
    readTimeAndOffset? (t.isoChars ++ (offset.map Offset.isoChars).getD []) =
      some (⟨[t.hour, t.minute, t.second], t.microsecond, false⟩,
        offset.map fun o => o.told.microseconds) := by
  have hclock : ∀ c ∈ t.isoChars, (!startsOffset c) = true := fun _ =>
    TimeOfDay.startsOffset_of_mem
  unfold readTimeAndOffset?
  cases offset with
  | none =>
    have hnone : (t.isoChars ++ []).dropWhile (!startsOffset ·) = [] :=
      List.dropWhile_append_of_pos hclock
    rw [List.append_nil] at hnone
    simp only [Option.map_none, Option.getD_none, List.append_nil, hnone, List.isEmpty_nil, if_true,
      readTime?_isoChars]
    rfl
  | some o =>
    obtain ⟨sign, rest, hzone, hsign⟩ := o.startsOffset_isoChars
    have hread := readOffset?_isoChars o
    rw [hzone] at hread
    have hstop : (!startsOffset sign) = false := by rw [hsign]; rfl
    simp only [Option.map_some, Option.getD_some, hzone, List.takeWhile_append_of_pos hclock,
      List.dropWhile_append_of_pos hclock, List.takeWhile_cons, List.dropWhile_cons, hstop,
      Bool.false_eq_true, if_false, List.append_nil, List.isEmpty_cons, readTime?_isoChars, hread]
    rfl

/-- A point in time as its text tells it. -/
def Timestamp.told (t : Timestamp) : Timestamp :=
  { t with offset := t.offset.map Offset.told }

/-- A point in time whose offset is in whole seconds is told as it is. -/
theorem Timestamp.told_of_whole {t : Timestamp}
    (h : ∀ o, t.offset = some o → o.microseconds % 1000000 = 0) : t.told = t := by
  obtain ⟨date, time, offset⟩ := t
  cases offset with
  | none => rfl
  | some o =>
    show Timestamp.mk date time (some o.told) = _
    rw [Offset.told_of_whole (h o rfl)]

/-- **The whole text is taken apart** into the parts that were put together. -/
theorem readRaw?_isoChars (t : Timestamp) :
    readRaw? t.isoChars = some ⟨t.date.year, t.date.month, t.date.day, t.time.hour, t.time.minute,
      t.time.second, t.time.microsecond, t.told.offset.map (·.microseconds)⟩ := by
  have hchars : t.isoChars = t.date.isoChars ++
      'T' :: (t.time.isoChars ++ (t.offset.map Offset.isoChars).getD []) := by
    simp [Timestamp.isoChars]
  have hdrop : (t.date.isoChars ++
      'T' :: (t.time.isoChars ++ (t.offset.map Offset.isoChars).getD [])).drop 10 =
      'T' :: (t.time.isoChars ++ (t.offset.map Offset.isoChars).getD []) := by
    rw [List.drop_append_of_le_length (by simp), List.drop_of_length_le (by simp)]
    rfl
  rw [hchars]
  unfold readRaw?
  simp only [dateLength_isoChars, readDate?_isoChars, hdrop, readTimeAndOffset?_isoChars,
    Option.bind_eq_bind, Option.bind_some, Timestamp.told, Option.map_map]
  rfl

theorem checkOffset_microseconds (offset : Option Offset) :
    checkOffset (offset.map (·.microseconds)) = .ok offset := by
  cases offset with
  | none => rfl
  | some o =>
    have ho : Offset.of? o.microseconds = some o := dif_pos o.lt_day
    simp only [Option.map_some, checkOffset, ho]

theorem checkDate_self (d : Date) : checkDate d.year d.month d.day = .ok d := by
  have hd : Date.of? d.year d.month d.day = some d := dif_pos d.isDay
  rw [checkDate, hd]

theorem checkTime_self (t : TimeOfDay) :
    checkTime t.hour t.minute t.second t.microsecond = .ok t := by
  have ht : TimeOfDay.of? t.hour t.minute t.second t.microsecond = some t :=
    dif_pos ⟨t.hour_lt, t.minute_lt, t.second_lt, t.microsecond_lt⟩
  rw [checkTime, ht]

/-- **A point in time reads back as its text tells it.** -/
theorem Timestamp.ofIso_iso (t : Timestamp) : ofIso t.iso = .ok t.told := by
  rw [ofIso, iso, String.toList_ofList, readRaw?_isoChars]
  simp only [RawTimestamp.check, checkOffset_microseconds, checkDate_self, checkTime_self]
  rfl

end Phrasing.Calendar
