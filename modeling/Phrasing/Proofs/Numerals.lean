import Phrasing.Json.Printer
import Phrasing.Proofs.Shortest
import Phrasing.Proofs.Trailing

/-! # Numbers read back

A number is written in one of three forms: digits alone, digits with a point, and a digit with a
point and an exponent.  `magnitude?_toDigits` reads the first one back, `readsDecimal_magnitudeText` the
other two, as a decimal of the value that was written.  With the decimals that `shortest_near` finds,
every number of either kind reads back as itself (`number?_int`, `number?_text`).
-/

namespace Phrasing

open Text

/-! ## Runs of digits -/

namespace Text

/-- The number that ASCII digits spell. -/
def spelled (cs : List Char) : Nat :=
  Binary64.ofDigits (cs.filterMap asciiDigit?)

/-- Nothing but ASCII digits. -/
def AllDigits (cs : List Char) : Prop :=
  ∀ c ∈ cs, (asciiDigit? c).isSome = true

/-- No digit comes first. -/
def StopsDigits (cs : List Char) : Prop :=
  ∀ c ∈ cs.head?, asciiDigit? c = none

theorem AllDigits.append {cs ds : List Char} (hcs : AllDigits cs) (hds : AllDigits ds) :
    AllDigits (cs ++ ds) :=
  fun c h => (List.mem_append.mp h).elim (hcs c) (hds c)

theorem AllDigits.take {cs : List Char} (h : AllDigits cs) (n : Nat) : AllDigits (cs.take n) :=
  fun c hc => h c (List.mem_of_mem_take hc)

theorem AllDigits.drop {cs : List Char} (h : AllDigits cs) (n : Nat) : AllDigits (cs.drop n) :=
  fun c hc => h c (List.mem_of_mem_drop hc)

theorem allDigits_zeros (n : Nat) : AllDigits (List.replicate n '0') := by
  intro c hc
  rw [List.eq_of_mem_replicate hc]
  decide

theorem asciiDigit?_of_isDigit {c : Char} (h : c.isDigit = true) :
    asciiDigit? c = some (c.toNat - '0'.toNat) := by
  have hrange : '0' ≤ c ∧ c ≤ '9' := by simpa [Char.isDigit, Char.le_def] using h
  exact if_pos hrange

theorem allDigits_toDigits (n : Nat) : AllDigits (Nat.toDigits 10 n) := by
  intro c hc
  rw [asciiDigit?_of_isDigit (Nat.isDigit_of_mem_toDigits (by decide) (by decide) hc)]
  rfl

theorem length_filterMap_digits {cs : List Char} (h : AllDigits cs) :
    (cs.filterMap asciiDigit?).length = cs.length := by
  induction cs with
  | nil => rfl
  | cons c cs ih =>
    obtain ⟨hc, hcs⟩ := List.forall_mem_cons.mp h
    obtain ⟨d, hd⟩ := Option.isSome_iff_exists.mp hc
    rw [List.filterMap_cons_some hd, List.length_cons, List.length_cons, ih hcs]

theorem filterMap_digits_ne_nil {cs : List Char} (h : AllDigits cs) (hne : cs ≠ []) :
    cs.filterMap asciiDigit? ≠ [] := by
  rw [← List.length_pos_iff, length_filterMap_digits h, List.length_pos_iff]
  exact hne

theorem head?_append_of_ne {cs : List Char} (h : cs ≠ []) (ds : List Char) :
    (cs ++ ds).head? = cs.head? := by
  cases cs with
  | nil => exact absurd rfl h
  | cons c cs => rfl

/-- Digits go on from the number that is spelled so far. -/
theorem foldl_digits (n : Nat) (ds : List Nat) :
    ds.foldl (fun n d => 10 * n + d) n = n * 10 ^ ds.length + Binary64.ofDigits ds := by
  unfold Binary64.ofDigits
  induction ds generalizing n with
  | nil => simp
  | cons d ds ih =>
    rw [List.foldl_cons, List.foldl_cons, ih, ih (10 * 0 + d), List.length_cons, Nat.pow_succ]
    ring

theorem spelled_append {cs ds : List Char} (hds : AllDigits ds) :
    spelled (cs ++ ds) = spelled cs * 10 ^ ds.length + spelled ds := by
  unfold spelled
  rw [List.filterMap_append, Binary64.ofDigits, List.foldl_append, foldl_digits,
    length_filterMap_digits hds]
  rfl

theorem spelled_zeros (n : Nat) : spelled (List.replicate n '0') = 0 := by
  induction n with
  | zero => rfl
  | succ n ih =>
    have hone : AllDigits ['0'] := allDigits_zeros 1
    rw [List.replicate_succ', spelled_append hone, ih]
    rfl

/-- **The digits of a number spell it.** -/
theorem spelled_toDigits (n : Nat) : spelled (Nat.toDigits 10 n) = n := by
  have hvalue : ∀ d, d < 10 → spelled [d.digitChar] = d := by decide
  have hdigit : ∀ d, d < 10 → AllDigits [d.digitChar] := by
    intro d hd
    rw [← Nat.toDigits_of_lt_base hd]
    exact allDigits_toDigits d
  induction n using Nat.strongRecOn with
  | ind n ih =>
    rcases Nat.lt_or_ge n 10 with hsmall | hlarge
    · rw [Nat.toDigits_of_lt_base hsmall, hvalue n hsmall]
    · have hlast : n % 10 < 10 := Nat.mod_lt n (by decide)
      rw [Nat.toDigits_of_base_le (by decide) hlarge, spelled_append (hdigit _ hlast),
        ih _ (Nat.div_lt_self (by omega) (by decide)), hvalue _ hlast]
      simp only [List.length_singleton, Nat.pow_one]
      omega

/-- No zero comes first in the digits of a number other than zero. -/
theorem head?_toDigits {n : Nat} (h : 0 < n) : (Nat.toDigits 10 n).head? ≠ some '0' := by
  have hfirst : ∀ d, d < 10 → 0 < d → d.digitChar ≠ '0' := by decide
  induction n using Nat.strongRecOn with
  | ind n ih =>
    rcases Nat.lt_or_ge n 10 with hsmall | hlarge
    · rw [Nat.toDigits_of_lt_base hsmall]
      simpa using hfirst n hsmall h
    · rw [Nat.toDigits_of_base_le (by decide) hlarge, head?_append_of_ne Nat.toDigits_ne_nil]
      exact ih _ (Nat.div_lt_self h (by decide)) (by omega)

end Text

namespace Json

/-! ## The parts of a number -/

/-- What may follow a value in a document: nothing, or the mark or line end that comes next. -/
def Ends (rest : List Char) : Prop :=
  ∀ c ∈ rest.head?, c ∈ [',', ']', '\x7d', '\n']

theorem Ends.eq_of_mem {rest : List Char} (h : Ends rest) {c : Char} (hc : c ∈ rest.head?) :
    c = ',' ∨ c = ']' ∨ c = '\x7d' ∨ c = '\n' := by
  have hmem := h c hc
  simp only [List.mem_cons, List.not_mem_nil, or_false] at hmem
  exact hmem

theorem Ends.stopsDigits {rest : List Char} (h : Ends rest) : StopsDigits rest := by
  intro c hc
  rcases h.eq_of_mem hc with rfl | rfl | rfl | rfl
  all_goals rfl

theorem spanDigits_append {ds rest : List Char} (hds : AllDigits ds) (hrest : StopsDigits rest) :
    spanDigits (ds ++ rest) = (ds.filterMap asciiDigit?, rest) := by
  have htake : rest.takeWhile (fun c => (asciiDigit? c).isSome) = [] := by
    cases rest with
    | nil => rfl
    | cons c rest => rw [List.takeWhile_cons_of_neg (by simp [hrest c rfl])]
  have hdrop : rest.dropWhile (fun c => (asciiDigit? c).isSome) = rest := by
    cases rest with
    | nil => rfl
    | cons c rest => rw [List.dropWhile_cons_of_neg (by simp [hrest c rfl])]
  rw [spanDigits, List.takeWhile_append_of_pos hds, List.dropWhile_append_of_pos hds, htake, hdrop,
    List.append_nil]

/-- Digits that make the whole part of a number: a zero alone, or no zero first. -/
structure Whole (ds : List Char) : Prop where
  digits : AllDigits ds
  ne_nil : ds ≠ []
  first : ds = ['0'] ∨ ds.head? ≠ some '0'

theorem whole_toDigits (n : Nat) : Whole (Nat.toDigits 10 n) where
  digits := allDigits_toDigits n
  ne_nil := Nat.toDigits_ne_nil
  first := (Nat.eq_zero_or_pos n).imp (fun h => by rw [h, Nat.toDigits_zero]) head?_toDigits

theorem wholePart?_append {ds rest : List Char} (hds : Whole ds) (hrest : StopsDigits rest) :
    wholePart? (ds ++ rest) = some (ds.filterMap asciiDigit?, rest) := by
  rcases hds.first with rfl | hfirst
  · rfl
  · have hvalues := filterMap_digits_ne_nil hds.digits hds.ne_nil
    unfold wholePart?
    split
    · rename_i tail hzero
      rw [← head?_append_of_ne hds.ne_nil rest, hzero] at hfirst
      exact absurd rfl hfirst
    · rw [spanDigits_append hds.digits hrest]
      split
      · rename_i heq
        exact absurd (congrArg Prod.fst heq) hvalues
      · rfl

/-- The digits after a point, if there are any. -/
theorem fractionPart_point (cs : List Char) :
    fractionPart ('.' :: cs) = match spanDigits cs with
      | ([], _) => ([], '.' :: cs)
      | found => found := rfl

theorem fractionPart_append {ds rest : List Char} (hds : AllDigits ds) (hne : ds ≠ [])
    (hrest : StopsDigits rest) :
    fractionPart ('.' :: (ds ++ rest)) = (ds.filterMap asciiDigit?, rest) := by
  have hvalues := filterMap_digits_ne_nil hds hne
  rw [fractionPart_point, spanDigits_append hds hrest]
  split
  · rename_i heq
    exact absurd (congrArg Prod.fst heq) hvalues
  · rfl

theorem fractionPart_of_ne {rest : List Char} (h : rest.head? ≠ some '.') :
    fractionPart rest = ([], rest) := by
  unfold fractionPart
  split
  · exact absurd rfl h
  · rfl

theorem exponentPart_of_ends {rest : List Char} (h : Ends rest) : exponentPart rest = (none, rest) := by
  cases rest with
  | nil => rfl
  | cons c rest =>
    refine if_neg ?_
    rcases h.eq_of_mem (rfl : (c :: rest).head? = some c) with rfl | rfl | rfl | rfl
    all_goals decide

/-- An exponent with its sign. -/
theorem exponentPart_append (negative : Bool) {ds rest : List Char} (hds : AllDigits ds)
    (hne : ds ≠ []) (hrest : StopsDigits rest) :
    exponentPart ('e' :: (if negative then '-' else '+') :: (ds ++ rest)) =
      (some (if negative then -(spelled ds : Int) else spelled ds), rest) := by
  have hvalues := filterMap_digits_ne_nil hds hne
  have hsign : Binary64.takeSign ((if negative then '-' else '+') :: (ds ++ rest)) =
      (negative, ds ++ rest) := by
    cases negative <;> rfl
  unfold exponentPart
  dsimp only
  rw [if_pos (.inl rfl), hsign]
  dsimp only
  rw [spanDigits_append hds hrest]
  split
  · rename_i heq
    exact absurd (congrArg Prod.fst heq) hvalues
  · rename_i heq
    cases heq
    rfl

/-! ## Numbers without a sign -/

/-- An integer of not too many digits reads back. -/
theorem magnitude?_toDigits (negative : Bool) {n : Nat}
    (hn : (Nat.toDigits 10 n).length ≤ mostDigits) {rest : List Char} (hrest : Ends rest) :
    magnitude? negative (Nat.toDigits 10 n ++ rest) =
      some (.ok (.int (if negative then -(n : Int) else n), rest)) := by
  have hpoint : rest.head? ≠ some '.' := by
    intro h
    exact absurd (hrest '.' h) (by decide)
  have hlength : ¬ mostDigits < ((Nat.toDigits 10 n).filterMap asciiDigit?).length := by
    rw [length_filterMap_digits (allDigits_toDigits n), Nat.not_lt]
    exact hn
  unfold magnitude?
  rw [wholePart?_append (whole_toDigits n) hrest.stopsDigits, Option.map_some]
  dsimp only
  rw [fractionPart_of_ne hpoint]
  dsimp only
  rw [exponentPart_of_ends hrest]
  simp only [List.isEmpty_nil, Option.isNone_none, Bool.and_self, if_true, hlength, if_false]
  have hvalue : Binary64.ofDigits ((Nat.toDigits 10 n).filterMap asciiDigit?) = n :=
    spelled_toDigits n
  rw [hvalue]

/-- Digits with a point read back. -/
theorem magnitude?_point (negative : Bool) {whole fraction rest : List Char} (hwhole : Whole whole)
    (hfraction : AllDigits fraction) (hne : fraction ≠ []) (hrest : Ends rest) :
    magnitude? negative (whole ++ '.' :: (fraction ++ rest)) =
      some (.ok (.float (.ofDecimal negative (spelled (whole ++ fraction)) (-fraction.length)),
        rest)) := by
  have hstop : StopsDigits ('.' :: (fraction ++ rest)) := by
    intro c hc
    cases hc
    decide
  unfold magnitude?
  rw [wholePart?_append hwhole hstop, Option.map_some]
  dsimp only
  rw [fractionPart_append hfraction hne hrest.stopsDigits]
  dsimp only
  rw [exponentPart_of_ends hrest]
  have hempty : (fraction.filterMap asciiDigit?).isEmpty = false :=
    List.isEmpty_eq_false_iff.mpr (filterMap_digits_ne_nil hfraction hne)
  simp only [hempty, Bool.false_and, Bool.false_eq_true, if_false, ← List.filterMap_append,
    length_filterMap_digits hfraction, Option.getD_none, Int.zero_sub]
  rfl

/-- Digits with an exponent read back. -/
theorem magnitude?_exponent (negative sign : Bool) {whole fraction exponent rest : List Char}
    (hwhole : Whole whole) (hfraction : AllDigits fraction) (hexponent : AllDigits exponent)
    (hne : exponent ≠ []) (hrest : StopsDigits rest) :
    magnitude? negative (whole ++ ((if fraction.isEmpty then [] else '.' :: fraction) ++
        'e' :: (if sign then '-' else '+') :: (exponent ++ rest))) =
      some (.ok (.float (.ofDecimal negative (spelled (whole ++ fraction))
        ((if sign then -(spelled exponent : Int) else spelled exponent) - fraction.length)),
          rest)) := by
  have hpart : fractionPart ((if fraction.isEmpty then [] else '.' :: fraction) ++
      'e' :: (if sign then '-' else '+') :: (exponent ++ rest)) =
        (fraction.filterMap asciiDigit?, 'e' :: (if sign then '-' else '+') :: (exponent ++ rest)) := by
    cases fraction with
    | nil => exact fractionPart_of_ne (by simp)
    | cons c fraction => exact fractionPart_append hfraction (by simp) (by simp [StopsDigits]; decide)
  have hstop : StopsDigits ((if fraction.isEmpty then [] else '.' :: fraction) ++
      'e' :: (if sign then '-' else '+') :: (exponent ++ rest)) := by
    intro c hc
    cases fraction with
    | nil =>
      cases hc
      decide
    | cons =>
      cases hc
      decide
  unfold magnitude?
  rw [wholePart?_append hwhole hstop, Option.map_some]
  dsimp only
  rw [hpart]
  dsimp only
  rw [exponentPart_append sign hexponent hne hrest]
  simp only [Option.isNone_some, Bool.and_false, Bool.false_eq_true, if_false,
    ← List.filterMap_append, length_filterMap_digits hfraction, Option.getD_some]
  rfl

/-! ## Decimals -/

/-- A decimal is read as one of the same value. -/
def ReadsDecimal (negative : Bool) (digits : Nat) (k : Int) (cs rest : List Char) : Prop :=
  ∃ digits' k', magnitude? negative (cs ++ rest) =
      some (.ok (.float (.ofDecimal negative digits' k'), rest)) ∧
    ∀ rank, Binary64.NearDecimal rank digits k → Binary64.NearDecimal rank digits' k'

theorem toList_toString (n : Nat) : (toString n).toList = Nat.toDigits 10 n := by
  rw [Nat.toString_eq_ofList_toDigits, String.toList_ofList]

/-- The first digits of some that begin with no zero make a whole part. -/
theorem whole_take {ds : List Char} (hds : AllDigits ds) (hfirst : ds.head? ≠ some '0') {n : Nat}
    (hn : 0 < n) (hne : ds ≠ []) : Whole (ds.take n) := by
  obtain ⟨count, rfl⟩ := Nat.exists_eq_add_of_lt hn
  cases ds with
  | nil => exact absurd rfl hne
  | cons c cs => exact ⟨hds.take _, by simp, .inr (by simpa using hfirst)⟩

section Forms

variable (negative : Bool) {ds rest : List Char} (hds : AllDigits ds) (hne : ds ≠ [])
  (hfirst : ds.head? ≠ some '0') (hrest : Ends rest)

include hds hne hfirst hrest

/-- In scientific form, one digit stands before the point. -/
theorem magnitude?_scientific (lead : Int) :
    magnitude? negative ((ds.take 1 ++ (if (ds.drop 1).isEmpty then [] else '.' :: ds.drop 1) ++
        ['e', if lead < 0 then '-' else '+'] ++
          List.replicate (2 - (toString lead.natAbs).toList.length) '0' ++
            (toString lead.natAbs).toList) ++ rest) =
      some (.ok (.float (.ofDecimal negative (spelled ds) (lead + 1 - ds.length)), rest)) := by
  have hlength : 0 < ds.length := List.length_pos_iff.mpr hne
  have hexponent : ∀ n, AllDigits (List.replicate n '0' ++ Nat.toDigits 10 lead.natAbs) :=
    fun n => (allDigits_zeros n).append (allDigits_toDigits _)
  have hvalue : ∀ n, spelled (List.replicate n '0' ++ Nat.toDigits 10 lead.natAbs) = lead.natAbs := by
    intro n
    rw [spelled_append (allDigits_toDigits _), spelled_zeros, Nat.zero_mul, Nat.zero_add,
      spelled_toDigits]
  have hsign : (if lead < 0 then '-' else '+') = (if decide (lead < 0) then '-' else '+') := by
    simp only [decide_eq_true_eq]
  have hread := magnitude?_exponent negative (decide (lead < 0))
    (whole_take hds hfirst Nat.one_pos hne) (hds.drop 1)
    (hexponent (2 - (Nat.toDigits 10 lead.natAbs).length)) (by simp [Nat.toDigits_ne_nil])
    hrest.stopsDigits
  rw [List.take_append_drop, hvalue, ← hsign] at hread
  rw [toList_toString]
  simp only [List.append_assoc, List.cons_append, List.nil_append] at hread ⊢
  rw [hread]
  have hresult : (if decide (lead < 0) then -(lead.natAbs : Int) else lead.natAbs) -
      (ds.drop 1).length = lead + 1 - ds.length := by
    rw [List.length_drop]
    split
    · rename_i hneg
      have hlead := of_decide_eq_true hneg
      omega
    · rename_i hneg
      have hlead := of_decide_eq_false (Bool.eq_false_iff.mpr hneg)
      omega
  rw [hresult]

omit hfirst in
/-- A number below one is written with zeros behind the point. -/
theorem magnitude?_small (zeros : Nat) :
    magnitude? negative (('0' :: '.' :: List.replicate zeros '0' ++ ds) ++ rest) =
      some (.ok (.float (.ofDecimal negative (spelled ds) (-(zeros + ds.length : Nat))), rest)) := by
  have hwhole : Whole ['0'] := ⟨allDigits_zeros 1, by simp, .inl rfl⟩
  have hread := magnitude?_point negative hwhole ((allDigits_zeros zeros).append hds)
    (by simp [hne]) hrest
  have hspelled : spelled (['0'] ++ (List.replicate zeros '0' ++ ds)) = spelled ds := by
    have hzeros : ['0'] ++ List.replicate zeros '0' = List.replicate (zeros + 1) '0' := rfl
    rw [← List.append_assoc, hzeros, spelled_append hds, spelled_zeros, Nat.zero_mul, Nat.zero_add]
  rw [hspelled, List.length_append, List.length_replicate] at hread
  simpa only [List.append_assoc, List.cons_append, List.nil_append] using hread

/-- A whole number is written with a zero behind the point. -/
theorem magnitude?_whole (zeros : Nat) :
    magnitude? negative ((ds ++ List.replicate zeros '0' ++ ['.', '0']) ++ rest) =
      some (.ok (.float (.ofDecimal negative (spelled ds * 10 ^ (zeros + 1)) (-1)), rest)) := by
  have hwhole : Whole (ds ++ List.replicate zeros '0') := by
    refine ⟨hds.append (allDigits_zeros zeros), by simp [hne], .inr ?_⟩
    rw [head?_append_of_ne hne]
    exact hfirst
  have hzero : AllDigits ['0'] := allDigits_zeros 1
  have hread := magnitude?_point negative hwhole hzero (by simp) hrest
  have hspelled : spelled (ds ++ List.replicate zeros '0' ++ ['0']) =
      spelled ds * 10 ^ (zeros + 1) := by
    rw [List.append_assoc, ← List.replicate_succ', spelled_append (allDigits_zeros _),
      spelled_zeros, List.length_replicate, Nat.add_zero]
  rw [hspelled, List.length_singleton, Nat.cast_one] at hread
  simpa only [List.append_assoc, List.cons_append, List.nil_append] using hread

/-- Any other number is written with the point between its digits. -/
theorem magnitude?_between {whole : Nat} (hpos : 0 < whole) (hlt : whole < ds.length) :
    magnitude? negative ((ds.take whole ++ '.' :: ds.drop whole) ++ rest) =
      some (.ok (.float (.ofDecimal negative (spelled ds) (-(ds.length - whole : Nat))), rest)) := by
  have hread := magnitude?_point negative (whole_take hds hfirst hpos hne) (hds.drop whole)
    (by simp [List.drop_eq_nil_iff, hlt]) hrest
  rw [List.take_append_drop, List.length_drop] at hread
  simpa only [List.append_assoc, List.cons_append, List.nil_append] using hread

/-- **Digits with a power of ten are read as a decimal of that value**, in whichever form they are
written. -/
theorem readsDecimal_magnitudeText (k : Int) :
    ReadsDecimal negative (spelled ds) k (Binary64.magnitudeText ds k) rest := by
  have hlength : 0 < ds.length := List.length_pos_iff.mpr hne
  unfold Binary64.magnitudeText
  dsimp only
  split
  · refine ⟨_, _, magnitude?_scientific negative hds hne hfirst hrest _, fun rank h => ?_⟩
    have hk : k + ds.length - 1 + 1 - ds.length = k := by omega
    rw [hk]
    exact h
  · split
    · refine ⟨_, _, magnitude?_small negative hds hne hrest _, fun rank h => ?_⟩
      have hk : -((-(k + ds.length - 1) - 1).toNat + ds.length : Nat) = k := by omega
      rw [hk]
      exact h
    · generalize hwhole : (k + ds.length - 1).toNat + 1 = whole
      rcases Nat.lt_or_ge whole ds.length with hlt | hge
      · have hzeros : whole - ds.length = 0 := by omega
        have hfraction : (ds.drop whole).isEmpty = false := by
          simp [List.isEmpty_eq_false_iff, List.drop_eq_nil_iff, hlt]
        rw [hzeros, hfraction, List.replicate_zero, List.append_nil]
        refine ⟨_, _, magnitude?_between negative hds hne hfirst hrest (by omega) hlt, ?_⟩
        intro rank h
        have hk : -(ds.length - whole : Nat) = k := by omega
        rw [hk]
        exact h
      · rw [List.take_of_length_le hge, List.drop_eq_nil_of_le hge]
        refine ⟨_, _, magnitude?_whole negative hds hne hfirst hrest _, fun rank h => ?_⟩
        have hk : (-1 : Int) + (whole - ds.length + 1 : Nat) = k := by omega
        rw [Binary64.NearDecimal.shift, hk]
        exact h

end Forms

/-! ## Numbers -/

section Numbers

variable {rest : List Char} (hrest : Ends rest)

/-- What is read without a sign starts with none. -/
theorem number?_of_magnitude? {cs : List Char} {read : Read Value}
    (h : magnitude? false cs = some read) : number? cs = some read := by
  unfold number?
  split
  · rename_i tail
    have hnone : magnitude? false ('-' :: tail) = none := rfl
    cases hnone.symm.trans h
  · exact h

/-- The digits of a decimal without the zeros at its end make a decimal of that value. -/
theorem normalised_spec {digits : Nat} (hpos : 0 < digits) (k : Int) :
    ∃ kept zeros, Binary64.normalised digits k = (kept, k + (zeros : Nat)) ∧ AllDigits kept ∧
      kept ≠ [] ∧ kept.head? ≠ some '0' ∧ digits = spelled kept * 10 ^ zeros := by
  have hkept := dropTrailing_append_replicate '0' (Nat.toDigits 10 digits)
  have hfirst := head?_toDigits hpos
  have hdigits := allDigits_toDigits digits
  have hvalue := spelled_toDigits digits
  unfold Binary64.normalised
  dsimp only
  rw [toList_toString]
  generalize (Nat.toDigits 10 digits).length -
    (dropTrailing (· == '0') (Nat.toDigits 10 digits)).length = zeros at *
  generalize dropTrailing (· == '0') (Nat.toDigits 10 digits) = kept at *
  rw [← hkept, spelled_append (allDigits_zeros zeros), spelled_zeros, List.length_replicate,
    Nat.add_zero] at hvalue
  have hne : kept ≠ [] := by
    rintro rfl
    rw [show spelled [] = 0 from rfl, Nat.zero_mul] at hvalue
    omega
  rw [← hkept, head?_append_of_ne hne] at hfirst
  refine ⟨kept, zeros, rfl, fun c hc => hdigits c ?_, hne, hfirst, hvalue.symm⟩
  rw [← hkept]
  exact List.mem_append_left _ hc

include hrest

/-- **An integer that can be written reads back.** -/
theorem number?_int {n : Int} (h : (Scalar.int n).isWritable = true) :
    number? ((toString n).toList ++ rest) = some (.ok (.int n, rest)) := by
  have hn : (Nat.toDigits 10 n.natAbs).length ≤ mostDigits := by
    have hmost : 0 < mostDigits := by decide
    unfold Scalar.isWritable at h
    generalize mostDigits = most at h hmost ⊢
    exact (Nat.length_toDigits_le_iff (by decide) hmost).mpr (of_decide_eq_true h)
  cases n with
  | ofNat n =>
    have htext : (toString (Int.ofNat n)).toList = Nat.toDigits 10 n := toList_toString n
    rw [htext]
    exact number?_of_magnitude? (magnitude?_toDigits false hn hrest)
  | negSucc n =>
    have hsign : toString (Int.negSucc n) = "-" ++ toString (n + 1) := rfl
    have htext : (toString (Int.negSucc n)).toList = '-' :: Nat.toDigits 10 (n + 1) := by
      rw [hsign, String.toList_append, toList_toString]
      rfl
    rw [htext]
    exact magnitude?_toDigits true hn hrest

/-- **The magnitude of a rank reads back.** -/
theorem magnitude?_rank (negative : Bool) (rank : Fin finiteRanks) (hpos : 0 < rank.val) :
    magnitude? negative (Binary64.magnitudeText
        (Binary64.normalised (Binary64.shortest rank).1 (Binary64.shortest rank).2).1
        (Binary64.normalised (Binary64.shortest rank).1 (Binary64.shortest rank).2).2 ++ rest) =
      some (.ok (.float (.finite negative rank), rest)) := by
  have hnear := Binary64.shortest_near hpos rank.isLt
  obtain ⟨kept, zeros, hkept, hdigits, hne, hfirst, hvalue⟩ :=
    normalised_spec hnear.digits_pos (Binary64.shortest rank).2
  rw [hvalue, Binary64.NearDecimal.shift] at hnear
  rw [hkept]
  obtain ⟨digits', k', hread, hsame⟩ :=
    readsDecimal_magnitudeText negative hdigits hne hfirst hrest
      ((Binary64.shortest rank).2 + (zeros : Nat))
  rw [hread, Binary64.ofDecimal_eq negative hpos rank.isLt (hsame _ hnear)]

/-- So does that of zero. -/
theorem magnitude?_zero (negative : Bool) :
    magnitude? negative ("0.0".toList ++ rest) =
      some (.ok (.float (.finite negative ⟨0, by decide⟩), rest)) := by
  have hdigit : AllDigits ['0'] := allDigits_zeros 1
  have hread := magnitude?_point negative ⟨hdigit, by simp, .inl rfl⟩ hdigit (by simp) hrest
  have hzero : Binary64.ofDecimal negative (spelled (['0'] ++ ['0'])) (-(['0'].length : Int)) =
      .finite negative ⟨0, by decide⟩ := by
    cases negative <;> decide
  rw [hzero] at hread
  exact hread

/-- **A finite number reads back.** -/
theorem number?_text {x : Binary64} (hx : x.isFinite = true) :
    number? (x.text.toList ++ rest) = some (.ok (.float x, rest)) := by
  cases x with
  | nan => cases hx
  | infinite => cases hx
  | finite negative rank =>
    have hmagnitude : ∃ magnitude : List Char,
        (Binary64.finite negative rank).text.toList =
          (if negative then '-' :: magnitude else magnitude) ∧
        magnitude? negative (magnitude ++ rest) =
          some (.ok (.float (.finite negative rank), rest)) := by
      unfold Binary64.text
      rw [String.toList_ofList]
      refine ⟨_, rfl, ?_⟩
      rcases Nat.eq_zero_or_pos rank.val with hzero | hpos
      · have hrank : rank = ⟨0, by decide⟩ := Fin.ext hzero
        rw [if_pos hzero, hrank]
        exact magnitude?_zero hrest negative
      · rw [if_neg (Nat.ne_of_gt hpos)]
        exact magnitude?_rank hrest negative rank hpos
    obtain ⟨magnitude, htext, hread⟩ := hmagnitude
    rw [htext]
    cases negative with
    | false => exact number?_of_magnitude? hread
    | true => exact hread

end Numbers

end Json

end Phrasing
