import Phrasing.Proofs.Rounding

/-! # The shortest decimal of a number reads back

A decimal reads back as a number if it lies between the midpoints to the neighbours (`ofDecimal_eq`),
and the search for the fewest digits looks at such decimals only.  It always finds one: the midpoints
are further away than half a step of the seventeenth digit (`exists_candidate`), so `shortest_near`
needs no assumption about the number.
-/

namespace Phrasing.Binary64

/-! ## Powers of ten as quotients -/

/-- The numerator of a power of ten. -/
def tenTop (k : Int) : Nat := 10 ^ k.toNat

/-- The denominator of a power of ten. -/
def tenBottom (k : Int) : Nat := 10 ^ (-k).toNat

theorem tenTop_ofNat (n : Nat) : tenTop (.ofNat n) = Nat.pow 10 n := rfl

theorem tenTop_negSucc (n : Nat) : tenTop (.negSucc n) = 1 := by simp [tenTop]

theorem tenBottom_ofNat (n : Nat) : tenBottom (.ofNat n) = 1 := by simp [tenBottom]

theorem tenBottom_negSucc (n : Nat) : tenBottom (.negSucc n) = Nat.pow 10 (n + 1) := rfl

theorem tenTop_pos (k : Int) : 0 < tenTop k := Nat.pow_pos (by decide)

theorem tenBottom_pos (k : Int) : 0 < tenBottom k := Nat.pow_pos (by decide)

/-- Powers of ten that follow each other by a number of tens. -/
theorem ten_add (k : Int) (n : Nat) :
    10 ^ n * tenTop k * tenBottom (k + n) = tenTop (k + n) * tenBottom k := by
  unfold tenTop tenBottom
  rw [← Nat.pow_add, ← Nat.pow_add, ← Nat.pow_add]
  congr 1
  omega

theorem scaledLe_iff {a b : Nat} {k : Int} :
    scaledLe a k b = true ↔ a * tenTop k ≤ b * tenBottom k := by
  cases k with
  | ofNat n => rw [tenTop_ofNat, tenBottom_ofNat, Nat.mul_one]; exact decide_eq_true_iff
  | negSucc n => rw [tenTop_negSucc, tenBottom_negSucc, Nat.mul_one]; exact decide_eq_true_iff

theorem leScaled_iff {a b : Nat} {k : Int} :
    leScaled b a k = true ↔ b * tenBottom k ≤ a * tenTop k := by
  cases k with
  | ofNat n => rw [tenTop_ofNat, tenBottom_ofNat, Nat.mul_one]; exact decide_eq_true_iff
  | negSucc n => rw [tenTop_negSucc, tenBottom_negSucc, Nat.mul_one]; exact decide_eq_true_iff

/-! ## Decimals near a rank -/

/-- How many units one has. -/
def unit : Nat := Nat.pow 2 1074

theorem pow_eq_unit : Nat.pow 2 1074 = unit := by decide +kernel

theorem unit_pos : 0 < unit := by decide +kernel

/-- A decimal is near a rank. -/
def NearDecimal (rank digits : Nat) (k : Int) : Prop :=
  Near rank (digits * unit * tenTop k) (tenBottom k)

/-- **Digits are found to read back if their decimal is near the rank.** -/
theorem readsBack_iff {rank digits : Nat} {k : Int} :
    readsBack rank digits k = true ↔ NearDecimal rank digits k := by
  unfold readsBack NearDecimal
  simp only [Bool.and_eq_true, Bool.or_eq_true, beq_iff_eq, Bool.not_eq_true', ← Bool.not_eq_true,
    leScaled_iff, scaledLe_iff, pow_eq_unit]
  have hdoubled : 2 * digits * unit * tenTop k = 2 * (digits * unit * tenTop k) := by ring
  rw [hdoubled]
  constructor
  · rintro ⟨⟨hlow, hhigh⟩, htie⟩
    refine ⟨hlow, hhigh, fun h => htie.resolve_right ?_⟩
    omega
  · rintro ⟨hlow, hhigh, htie⟩
    refine ⟨⟨hlow, hhigh⟩, ?_⟩
    by_cases heven : rank % 2 = 0
    · exact .inl heven
    · refine .inr ?_
      rintro (h | h)
      · exact heven (htie (.inl (Nat.le_antisymm hlow h)))
      · exact heven (htie (.inr (Nat.le_antisymm hhigh h)))

/-- Zeros at the end of the digits may move into the exponent. -/
theorem NearDecimal.shift {rank digits : Nat} {k : Int} {n : Nat} :
    NearDecimal rank (digits * 10 ^ n) k ↔ NearDecimal rank digits (k + n) := by
  have hvalue : digits * 10 ^ n * unit * tenTop k * tenBottom (k + n) =
      digits * unit * tenTop (k + n) * tenBottom k := by
    calc digits * 10 ^ n * unit * tenTop k * tenBottom (k + n)
        = digits * unit * (10 ^ n * tenTop k * tenBottom (k + n)) := by ring
      _ = digits * unit * tenTop (k + n) * tenBottom k := by rw [ten_add, ← Nat.mul_assoc]
  exact ⟨fun h => h.congr (tenBottom_pos k) (tenBottom_pos (k + n)) hvalue,
    fun h => h.congr (tenBottom_pos (k + n)) (tenBottom_pos k) hvalue.symm⟩

/-! ## Reading decimals -/

section Reading

variable {rank digits count : Nat} {k : Int}

theorem midpoint_pos (rank : Nat) : 0 < midpoint rank := by
  have h : midpoint 0 ≤ midpoint rank := midpoint_strictMono.monotone (Nat.zero_le rank)
  exact Nat.lt_of_lt_of_le (by decide) h

/-- The midpoint above a number is not beyond the end of its binade. -/
theorem midpoint_le_of_lt {shift : Nat} (h : rank < shift * 2 ^ 52 + 2 ^ 52) :
    midpoint rank ≤ 2 * (2 ^ 52 * 2 ^ shift) := by
  have hend : units (shift * 2 ^ 52 + 2 ^ 52) = 2 ^ 52 * 2 ^ shift :=
    units_spaced (.inr (Nat.le_refl _)) (by omega)
  have hrank := units_strictMono h
  have hnext : units (rank + 1) ≤ _ := units_strictMono.monotone (Nat.succ_le_of_lt h)
  rw [hend] at hrank hnext
  unfold midpoint
  omega

/-- A decimal that reaches a bound does not begin far behind it. -/
theorem le_lead {unit far : Nat} (hmost : digits < 10 ^ count) (hunit : 2 * unit ≤ 10 ^ far)
    (h : tenBottom k ≤ 2 * (digits * unit * tenTop k)) : -(far : Int) < k + count := by
  refine Int.not_le.mp fun hlead => ?_
  have hpower : 10 ^ count * tenTop k * 10 ^ far ≤ tenBottom k := by
    unfold tenTop tenBottom
    rw [← Nat.pow_add, ← Nat.pow_add]
    exact Nat.pow_le_pow_right (by decide) (by omega)
  have hdigits : digits * tenTop k * 10 ^ far < 10 ^ count * tenTop k * 10 ^ far := by
    refine Nat.mul_lt_mul_of_pos_right ?_ (Nat.pow_pos (by decide))
    exact Nat.mul_lt_mul_of_pos_right hmost (tenTop_pos k)
  have hbound : digits * tenTop k * (2 * unit) ≤ digits * tenTop k * 10 ^ far :=
    Nat.mul_le_mul_left _ hunit
  have hsame : digits * tenTop k * (2 * unit) = 2 * (digits * unit * tenTop k) := by ring
  omega

/-- A decimal below a bound does not begin far ahead of it. -/
theorem lead_le {unit far most : Nat} (hleast : 10 ^ count ≤ digits) (hunit : most < 10 ^ far * unit)
    (h : digits * unit * tenTop k ≤ most * tenBottom k) : k + count < far := by
  refine Int.not_le.mp fun hlead => ?_
  have hpower : 10 ^ far * tenBottom k ≤ 10 ^ count * tenTop k := by
    unfold tenTop tenBottom
    rw [← Nat.pow_add, ← Nat.pow_add]
    exact Nat.pow_le_pow_right (by decide) (by omega)
  have hdigits : 10 ^ count * tenTop k * unit ≤ digits * tenTop k * unit :=
    Nat.mul_le_mul_right _ (Nat.mul_le_mul_right _ hleast)
  have hbound : most * tenBottom k < 10 ^ far * unit * tenBottom k :=
    Nat.mul_lt_mul_of_pos_right hunit (tenBottom_pos k)
  have hscaled := Nat.mul_le_mul_right unit hpower
  have hsame : digits * tenTop k * unit = digits * unit * tenTop k := by ring
  have hsame' : 10 ^ far * tenBottom k * unit = 10 ^ far * unit * tenBottom k := by ring
  omega

/-- A number of digits is the number of characters. -/
theorem length_toString (n : Nat) : (toString n).length = (Nat.toDigits 10 n).length := by
  rw [Nat.toString_eq_ofList_toDigits, String.length_ofList]

theorem lt_ten_pow_length (n : Nat) : n < 10 ^ (Nat.toDigits 10 n).length :=
  (Nat.length_toDigits_le_iff (by decide) Nat.length_toDigits_pos).mp (Nat.le_refl _)

theorem ten_pow_length_le {n : Nat} (h : 0 < n) : 10 ^ ((Nat.toDigits 10 n).length - 1) ≤ n := by
  rcases Nat.lt_or_ge 1 (Nat.toDigits 10 n).length with hlong | hshort
  · refine Nat.not_lt.mp fun hlt => ?_
    have hle := (Nat.length_toDigits_le_iff (by decide) (by omega)).mpr hlt
    omega
  · rw [Nat.sub_eq_zero_of_le hshort]
    exact h

/-- How far a decimal near a finite number can begin from the point. -/
theorem exists_bounds : ∃ far last, far = 400 ∧ last = 2046 ∧
    2 * unit ≤ 10 ^ far ∧ 2 ^ 52 * 2 ^ last < 10 ^ far * unit := by
  refine ⟨400, 2046, rfl, rfl, ?_, ?_⟩
  · decide +kernel
  · decide +kernel

theorem NearDecimal.digits_pos (h : NearDecimal rank digits k) : 0 < digits := by
  refine Nat.pos_of_ne_zero fun h0 => ?_
  have hlow := h.low
  rw [h0, Nat.zero_mul, Nat.zero_mul, Nat.mul_zero] at hlow
  exact absurd hlow (Nat.not_le.mpr (Nat.mul_pos (midpoint_pos _) (tenBottom_pos k)))

theorem NearDecimal.lead_bounds (hrank : rank < finiteRanks) (h : NearDecimal rank digits k) :
    -400 < k + (Nat.toDigits 10 digits).length ∧ k + (Nat.toDigits 10 digits).length ≤ 400 := by
  have hdigits := h.digits_pos
  have hlength : 0 < (Nat.toDigits 10 digits).length := Nat.length_toDigits_pos
  -- Powers of this size are kept from being computed.
  obtain ⟨far, last, hfar, hlast, hleast, hmost⟩ := exists_bounds
  obtain ⟨hlow, hhigh, _⟩ := h
  have hranks : rank < last * 2 ^ 52 + 2 ^ 52 := by
    rw [hlast]
    exact hrank
  have hbinade := midpoint_le_of_lt hranks
  have hfirst : tenBottom k ≤ 2 * (digits * unit * tenTop k) :=
    Nat.le_trans (Nat.le_mul_of_pos_left _ (midpoint_pos _)) hlow
  have hend : digits * unit * tenTop k ≤ 2 ^ 52 * 2 ^ last * tenBottom k := by
    have hscaled := Nat.le_trans hhigh (Nat.mul_le_mul_right (tenBottom k) hbinade)
    rw [Nat.mul_assoc 2 (2 ^ 52 * 2 ^ last)] at hscaled
    omega
  have hfront := le_lead (lt_ten_pow_length digits) hleast hfirst
  have hback := lead_le (ten_pow_length_le hdigits) hmost hend
  omega

/-- **A decimal near a rank is read as the number of that rank.** -/
theorem ofDecimal_eq (negative : Bool) (hpos : 0 < rank) (hrank : rank < finiteRanks)
    (h : NearDecimal rank digits k) :
    ofDecimal negative digits k = .finite negative ⟨rank, hrank⟩ := by
  have hdigits := h.digits_pos
  have hlead := h.lead_bounds hrank
  have hratio : ofDecimal negative digits k =
      ofRatio negative (digits * tenTop k) (tenBottom k) := by
    unfold ofDecimal
    rw [length_toString]
    dsimp only
    rw [if_neg (by omega), if_neg (by omega)]
    cases k with
    | ofNat n => rw [tenTop_ofNat, tenBottom_ofNat]
    | negSucc n => rw [tenTop_negSucc, tenBottom_negSucc, Nat.mul_one]
  rw [hratio, ofRatio_eq_ofRank, pow_eq_unit, Nat.mul_right_comm, rankOf_eq (tenBottom_pos k) hpos h, ofRank,
    dif_pos hrank]

end Reading

/-! ## Finding decimals -/

/-- Where the search for the first digit of a magnitude starts. -/
def leadEstimate (log : Nat) : Int :=
  ((log : Int) - 1074) * 30103 / 100000

/-- The estimate is at most one too high. -/
theorem leadEstimate_spec : ∀ log : Nat, log < 2098 →
    unit * tenTop (leadEstimate log - 1) ≤
      2 ^ log * tenBottom (leadEstimate log - 1) := by
  decide +kernel

/-- **The first digit that is found for a magnitude stands for no more than it.** -/
theorem leadingExponent_spec {u : Nat} (hpos : 0 < u) (hlog : u.log2 < 2098) :
    unit * tenTop (leadingExponent u) ≤ u * tenBottom (leadingExponent u) := by
  have hreaches : scaledLe (unit) (leadEstimate u.log2 - 1) u = true := by
    have hlead := leadEstimate_spec _ hlog
    exact scaledLe_iff.mpr (le_trans hlead (Nat.mul_le_mul_right _ (Nat.log2_self_le (Nat.ne_of_gt hpos))))
  refine scaledLe_iff.mp ?_
  unfold leadingExponent
  dsimp only
  rw [pow_eq_unit]
  cases hfound : [leadEstimate u.log2 + 1, leadEstimate u.log2, leadEstimate u.log2 - 1].find?
      (fun e => scaledLe (unit) e u) with
  | none =>
    have hnone := List.find?_eq_none.mp hfound _
      (List.mem_cons_of_mem _ (List.mem_cons_of_mem _ List.mem_cons_self))
    exact absurd hreaches hnone
  | some e =>
    have hfound' : [((u.log2 : Int) - 1074) * 30103 / 100000 + 1,
      ((u.log2 : Int) - 1074) * 30103 / 100000, ((u.log2 : Int) - 1074) * 30103 / 100000 - 1].find?
        (fun e => scaledLe (unit) e u) = some e := hfound
    have hreached := List.find?_some hfound
    rw [hfound']
    exact hreached

section Finding

variable {rank : Nat}

/-- The midpoints keep a distance from a number that is not too small a part of it. -/
theorem exists_gap (hpos : 0 < rank) :
    ∃ gap, units rank ≤ 2 ^ 53 * gap ∧ midpoint (rank - 1) + gap = 2 * units rank ∧
      2 * units rank + gap ≤ midpoint rank := by
  have hspaced : ∃ shift q, rank = shift * 2 ^ 52 + q ∧ (shift = 0 ∨ 2 ^ 52 < q) ∧ q ≤ 2 ^ 53 := by
    obtain ⟨shift, q, hrank, hnormal, hq⟩ := exists_spaced rank
    by_cases hbegins : shift = 0 ∨ 2 ^ 52 < q
    · exact ⟨shift, q, hrank, hbegins, Nat.le_of_lt hq⟩
    · -- The first number of a binade is also the last one of the binade before.
      obtain ⟨before, rfl⟩ : ∃ before, shift = before + 1 := ⟨shift - 1, by omega⟩
      have hq' : q = 2 ^ 52 := by omega
      have hrank' : rank = before * 2 ^ 52 + 2 ^ 53 := by
        rw [hrank, hq']
        ring
      exact ⟨before, 2 ^ 53, hrank', .inr (by omega), Nat.le_refl _⟩
  obtain ⟨shift, q, rfl, hbegins, hq⟩ := hspaced
  have hnormal : shift = 0 ∨ 2 ^ 52 ≤ q := hbegins.imp_right Nat.le_of_lt
  rw [units_spaced hnormal hq]
  exact ⟨2 ^ shift, Nat.mul_le_mul_right _ hq, midpoint_le hbegins hq (by omega),
    le_midpoint hnormal hq⟩

/-- A decimal of seventeen digits next to a magnitude is near it. -/
theorem nearDecimal_of_close {digits : Nat} {k : Int} (hpos : 0 < rank)
    (hlead : unit * tenTop (k + 16) ≤ units rank * tenBottom (k + 16))
    (hbelow : 2 * (units rank * tenBottom k) ≤
      2 * (digits * unit * tenTop k) + unit * tenTop k)
    (habove : 2 * (digits * unit * tenTop k) ≤
      2 * (units rank * tenBottom k) + unit * tenTop k) :
    NearDecimal rank digits k := by
  obtain ⟨gap, hgap, hlow, hhigh⟩ := exists_gap hpos
  have hstep : 0 < unit * tenTop k := Nat.mul_pos unit_pos (tenTop_pos k)
  have hsteps : 10 ^ 16 * (unit * tenTop k) ≤ units rank * tenBottom k := by
    refine Nat.le_of_mul_le_mul_right ?_ (tenBottom_pos (k + 16))
    calc 10 ^ 16 * (unit * tenTop k) * tenBottom (k + 16)
        = unit * (10 ^ 16 * tenTop k * tenBottom (k + (16 : Nat))) := by push_cast; ring
      _ = unit * tenTop (k + 16) * tenBottom k := by rw [ten_add, ← Nat.mul_assoc]; rfl
      _ ≤ units rank * tenBottom (k + 16) * tenBottom k := Nat.mul_le_mul_right _ hlead
      _ = units rank * tenBottom k * tenBottom (k + 16) := Nat.mul_right_comm _ _ _
  -- A step of the last digit is less than the distance to the midpoints.
  have hfine : unit * tenTop k < gap * tenBottom k := by
    have hscaled := Nat.mul_le_mul_right (tenBottom k) hgap
    rw [Nat.mul_assoc] at hscaled
    omega
  have hlowScaled : midpoint (rank - 1) * tenBottom k + gap * tenBottom k =
      2 * (units rank * tenBottom k) := by
    rw [← Nat.add_mul, hlow, Nat.mul_assoc]
  have hhighScaled := Nat.mul_le_mul_right (tenBottom k) hhigh
  rw [Nat.add_mul, Nat.mul_assoc] at hhighScaled
  refine ⟨by omega, by omega, fun h => ?_⟩
  omega

/-- One of the two decimals around a magnitude with a fine enough last digit reads back. -/
theorem readsBack_around (hpos : 0 < rank) {k : Int}
    (hlead : unit * tenTop (k + 16) ≤ units rank * tenBottom (k + 16)) :
    readsBack rank (units rank * tenBottom k / (unit * tenTop k)) k = true ∨
      readsBack rank (units rank * tenBottom k / (unit * tenTop k) + 1) k = true := by
  have hstep : 0 < unit * tenTop k := Nat.mul_pos unit_pos (tenTop_pos k)
  have hdivision := Nat.div_add_mod' (units rank * tenBottom k) (unit * tenTop k)
  have hrest := Nat.mod_lt (units rank * tenBottom k) hstep
  simp only [readsBack_iff]
  generalize units rank * tenBottom k / (unit * tenTop k) = below at *
  have hbelow : below * unit * tenTop k = below * (unit * tenTop k) := Nat.mul_assoc _ _ _
  have habove : (below + 1) * unit * tenTop k = below * (unit * tenTop k) + unit * tenTop k := by
    ring
  rcases Nat.le_total (2 * (units rank * tenBottom k % (unit * tenTop k))) (unit * tenTop k) with
    hlower | hupper
  · exact .inl (nearDecimal_of_close hpos hlead (by omega) (by omega))
  · exact .inr (nearDecimal_of_close hpos hlead (by omega) (by omega))

/-- One of two decimals is picked, whichever is preferred. -/
theorem exists_picked {below : Nat} {k : Int} (upper : Bool)
    (h : readsBack rank below k = true ∨ readsBack rank (below + 1) k = true) :
    ∃ found, (((if upper then [below + 1, below] else [below, below + 1]).filter
      (readsBack rank · k)).map (·, k)).head? = some found := by
  rw [← Option.isSome_iff_exists, List.isSome_head?]
  have hmem : ∃ digits ∈ (if upper then [below + 1, below] else [below, below + 1]),
      readsBack rank digits k = true := by
    cases upper <;> simpa [or_comm] using h
  obtain ⟨digits, hdigits, hreads⟩ := hmem
  exact List.ne_nil_of_mem (List.mem_map_of_mem (List.mem_filter.mpr ⟨hdigits, hreads⟩))

/-- **Among the decimals of seventeen digits there is one that reads back.** -/
theorem exists_candidate (hpos : 0 < rank) {e : Int}
    (hlead : unit * tenTop e ≤ units rank * tenBottom e) :
    ∃ found, (candidates rank e 17).head? = some found := by
  have hexponent : e = e - (17 : Nat) + 1 + 16 := by omega
  rw [hexponent] at hlead
  have haround := readsBack_around hpos hlead
  unfold candidates
  dsimp only
  generalize e - (17 : Nat) + 1 = k at haround ⊢
  cases k with
  | ofNat n =>
    rw [tenTop_ofNat, tenBottom_ofNat, Nat.mul_one, ← pow_eq_unit] at haround
    exact exists_picked _ haround
  | negSucc n =>
    rw [tenTop_negSucc, tenBottom_negSucc, Nat.mul_one, ← pow_eq_unit] at haround
    exact exists_picked _ haround

theorem log2_units_lt (hpos : 0 < rank) (hrank : rank < finiteRanks) :
    (units rank).log2 < 2098 := by
  obtain ⟨last, hlast⟩ : ∃ n, n = 2046 := ⟨_, rfl⟩
  have hranks : rank < last * 2 ^ 52 + 2 ^ 52 := by
    rw [hlast]
    exact hrank
  have hend := units_strictMono hranks
  rw [units_spaced (.inr (Nat.le_refl _)) (by omega), ← Nat.pow_add] at hend
  have hne : units rank ≠ 0 := Nat.ne_of_gt (units_strictMono hpos)
  have hlog := (Nat.log2_lt hne).mpr hend
  omega

/-- **The shortest decimal of a rank is near it.** -/
theorem shortest_near (hpos : 0 < rank) (hrank : rank < finiteRanks) :
    NearDecimal rank (shortest rank).1 (shortest rank).2 := by
  have hlead := leadingExponent_spec (units_strictMono hpos) (log2_units_lt hpos hrank)
  obtain ⟨pair, hpair⟩ := exists_candidate hpos hlead
  have hsome : (((List.range 17).map (· + 1)).findSome? fun count =>
      (candidates rank (leadingExponent (units rank)) count).head?).isSome = true := by
    refine List.findSome?_isSome_iff.mpr ⟨17, by decide, ?_⟩
    rw [hpair]
    rfl
  obtain ⟨found, hfound⟩ := Option.isSome_iff_exists.mp hsome
  have hshortest : shortest rank = found := by
    unfold shortest
    dsimp only
    rw [hfound]
    rfl
  obtain ⟨count, _, hhead⟩ := List.exists_of_findSome?_eq_some hfound
  obtain ⟨digits, hdigits, heq⟩ := List.mem_map.mp (List.mem_of_mem_head? hhead)
  rw [hshortest, ← heq]
  exact readsBack_iff.mp (List.mem_filter.mp hdigits).2

end Finding

end Phrasing.Binary64
