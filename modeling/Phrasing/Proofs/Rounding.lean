import Mathlib.Order.Monotone.Basic
import Mathlib.Tactic.Ring
import Phrasing.Number.Decimal

/-! # Rounding to the nearest number

Every rank is so many spacings of its binade (`units_spaced`), so a quotient that is rounded in the
spacing of its own binade is rounded to the nearest rank, a tie to the even one.  `rankOf_eq` says it the other way
around: a quotient between the midpoints to the neighbours of a rank, which themselves belong to the
even rank, is rounded to that rank.
-/

namespace Phrasing.Binary64

/-! ## Ranks and their magnitudes -/

section Ranks

variable {shift q : Nat}

/-- **A rank is a number of spacings**, in the binade before if it begins the next one. -/
theorem units_spaced (hnormal : shift = 0 ∨ 2 ^ 52 ≤ q) (hq : q ≤ 2 ^ 53) :
    units (shift * 2 ^ 52 + q) = q * 2 ^ shift := by
  unfold units significand doublings
  simp only [Nat.pow_eq]
  rcases Nat.lt_or_ge q (2 ^ 52) with hsub | hsub
  · -- A subnormal number.
    have hshift : shift = 0 := hnormal.resolve_right (Nat.not_le.mpr hsub)
    subst hshift
    rw [Nat.zero_mul, Nat.zero_add, if_pos hsub, Nat.div_eq_of_lt hsub]
  · rw [if_neg (by omega)]
    rcases Nat.lt_or_ge q (2 ^ 53) with hnext | hnext
    · have hmod : (shift * 2 ^ 52 + q) % 2 ^ 52 = q - 2 ^ 52 := by omega
      have hdiv : (shift * 2 ^ 52 + q) / 2 ^ 52 - 1 = shift := by omega
      rw [hmod, hdiv, Nat.add_sub_cancel' hsub]
    · -- The first number of the next binade.
      have heq : q = 2 ^ 53 := Nat.le_antisymm hq hnext
      subst heq
      have hmod : (shift * 2 ^ 52 + 2 ^ 53) % 2 ^ 52 = 0 := by omega
      have hdiv : (shift * 2 ^ 52 + 2 ^ 53) / 2 ^ 52 - 1 = shift + 1 := by omega
      rw [hmod, hdiv, Nat.pow_succ]
      ring

/-- Every rank can be written so. -/
theorem exists_spaced (rank : Nat) :
    ∃ shift q, rank = shift * 2 ^ 52 + q ∧ (shift = 0 ∨ 2 ^ 52 ≤ q) ∧ q < 2 ^ 53 := by
  rcases Nat.lt_or_ge rank (2 ^ 52) with hsub | hsub
  · exact ⟨0, rank, by omega, .inl rfl, by omega⟩
  · exact ⟨rank / 2 ^ 52 - 1, 2 ^ 52 + rank % 2 ^ 52, by omega, .inr (by omega), by omega⟩

/-- The next rank is one spacing further. -/
theorem units_succ (hnormal : shift = 0 ∨ 2 ^ 52 ≤ q) (hq : q < 2 ^ 53) :
    units (shift * 2 ^ 52 + q + 1) = q * 2 ^ shift + 2 ^ shift := by
  have hnext : units (shift * 2 ^ 52 + (q + 1)) = (q + 1) * 2 ^ shift :=
    units_spaced (by omega) hq
  rw [Nat.add_assoc, hnext, Nat.add_mul, Nat.one_mul]

theorem units_strictMono : StrictMono units := by
  refine strictMono_nat_of_lt_succ fun rank => ?_
  obtain ⟨shift, q, rfl, hnormal, hq⟩ := exists_spaced rank
  rw [units_spaced hnormal (Nat.le_of_lt hq), units_succ hnormal hq]
  exact Nat.lt_add_of_pos_right (Nat.two_pow_pos shift)

theorem midpoint_strictMono : StrictMono midpoint :=
  fun _ _ h => Nat.add_lt_add (units_strictMono h) (units_strictMono (Nat.add_lt_add_right h 1))

/-- The midpoint above a number lies half a spacing above it, or a whole one at the end of a binade. -/
theorem le_midpoint (hnormal : shift = 0 ∨ 2 ^ 52 ≤ q) (hq : q ≤ 2 ^ 53) :
    2 * (q * 2 ^ shift) + 2 ^ shift ≤ midpoint (shift * 2 ^ 52 + q) := by
  unfold midpoint
  rw [units_spaced hnormal hq]
  rcases Nat.lt_or_eq_of_le hq with hlt | rfl
  · rw [units_succ hnormal hlt]
    omega
  · have hnext : shift * 2 ^ 52 + 2 ^ 53 + 1 = (shift + 1) * 2 ^ 52 + (2 ^ 52 + 1) := by omega
    rw [hnext, units_spaced (by omega) (by omega), Nat.pow_succ]
    omega

/-- The midpoint below a number lies half a spacing below it, unless it begins a binade. -/
theorem midpoint_le (hnormal : shift = 0 ∨ 2 ^ 52 < q) (hq : q ≤ 2 ^ 53) (hpos : 0 < q) :
    midpoint (shift * 2 ^ 52 + q - 1) + 2 ^ shift = 2 * (q * 2 ^ shift) := by
  obtain ⟨before, rfl⟩ := Nat.exists_eq_add_of_lt hpos
  rw [Nat.zero_add] at *
  have hprevious : shift * 2 ^ 52 + (before + 1) - 1 = shift * 2 ^ 52 + before := by omega
  rw [hprevious, midpoint, units_succ (by omega) (by omega), units_spaced (by omega) (by omega),
    Nat.add_mul, Nat.one_mul]
  omega

end Ranks

/-! ## Quotients -/

/-- **A quotient is at most one half from what it is rounded to**, and if it is one half, then that is
even. -/
theorem roundDiv_spec (num : Nat) {den : Nat} (hden : 0 < den) :
    2 * (roundDiv num den * den) ≤ 2 * num + den ∧ 2 * num ≤ 2 * (roundDiv num den * den) + den ∧
      (2 * (roundDiv num den * den) = 2 * num + den ∨ 2 * num = 2 * (roundDiv num den * den) + den →
        roundDiv num den % 2 = 0) := by
  have hdivision : num / den * den + num % den = num := Nat.div_add_mod' num den
  have hrest : num % den < den := Nat.mod_lt num hden
  unfold roundDiv
  dsimp only
  split
  · refine ⟨by omega, by omega, fun h => ?_⟩
    omega
  · split
    · rw [Nat.add_mul, Nat.one_mul]
      refine ⟨by omega, by omega, fun h => ?_⟩
      omega
    · -- The middle: an odd quotient goes up.
      rcases Nat.mod_two_eq_zero_or_one (num / den) with hparity | hparity
      · rw [hparity, Nat.add_zero]
        exact ⟨by omega, by omega, fun _ => hparity⟩
      · rw [hparity, Nat.add_mul, Nat.one_mul]
        exact ⟨by omega, by omega, fun _ => by omega⟩

/-- What is below a multiple is rounded to no more. -/
theorem roundDiv_le {num den most : Nat} (hden : 0 < den) (h : num < most * den) :
    roundDiv num den ≤ most := by
  have hround := (roundDiv_spec num hden).1
  refine Nat.le_of_lt_succ (Nat.lt_of_mul_lt_mul_right (a := den) ?_)
  rw [Nat.succ_mul]
  omega

/-- What reaches a multiple is rounded to no less. -/
theorem le_roundDiv {num den least : Nat} (hden : 0 < den) (h : least * den ≤ num) :
    least ≤ roundDiv num den := by
  have hround := (roundDiv_spec num hden).2.1
  refine Nat.le_of_lt_succ (Nat.lt_of_mul_lt_mul_right (a := den) ?_)
  rw [Nat.succ_mul]
  omega

/-- How often the spacing of the subnormal numbers is doubled for a quotient. -/
def shiftOf (num den : Nat) : Nat :=
  (num / den).log2 - 52

/-- The rank that a quotient in units is rounded to. -/
def rankOf (num den : Nat) : Nat :=
  shiftOf num den * 2 ^ 52 + roundDiv num (den * 2 ^ shiftOf num den)

theorem ofRatio_eq_ofRank (negative : Bool) (num den : Nat) :
    ofRatio negative num den = ofRank negative (rankOf (num * Nat.pow 2 1074) den) := rfl

/-- A quotient lies between the midpoints to the neighbours of a rank, which belong to the even rank. -/
structure Near (rank num den : Nat) : Prop where
  low : midpoint (rank - 1) * den ≤ 2 * num
  high : 2 * num ≤ midpoint rank * den
  tie : midpoint (rank - 1) * den = 2 * num ∨ 2 * num = midpoint rank * den → rank % 2 = 0

section Quotients

variable {num den : Nat} (hden : 0 < den)

include hden

theorem lt_of_shiftOf : num < 2 ^ 53 * (den * 2 ^ shiftOf num den) := by
  have hlog : num / den < 2 ^ ((num / den).log2 + 1) := Nat.lt_log2_self
  have hle : (num / den).log2 + 1 ≤ 53 + shiftOf num den := by
    unfold shiftOf
    omega
  have hquotient := Nat.lt_of_lt_of_le hlog (Nat.pow_le_pow_right (by decide) hle)
  rw [Nat.div_lt_iff_lt_mul hden, Nat.pow_add] at hquotient
  calc num < 2 ^ 53 * 2 ^ shiftOf num den * den := hquotient
    _ = 2 ^ 53 * (den * 2 ^ shiftOf num den) := by ring

theorem le_of_shiftOf (h : shiftOf num den ≠ 0) :
    2 ^ 52 * (den * 2 ^ shiftOf num den) ≤ num := by
  have hlog : (num / den).log2 = 52 + shiftOf num den := by
    unfold shiftOf at h ⊢
    omega
  have hne : num / den ≠ 0 := by
    intro h0
    rw [h0, Nat.log2_zero] at hlog
    omega
  have hquotient := Nat.log2_self_le hne
  rw [hlog, Nat.le_div_iff_mul_le hden, Nat.pow_add] at hquotient
  calc 2 ^ 52 * (den * 2 ^ shiftOf num den) = 2 ^ 52 * 2 ^ shiftOf num den * den := by ring
    _ ≤ num := hquotient

/-- **A quotient that is nearest to a rank is rounded to it.** -/
theorem rankOf_eq {rank : Nat} (hpos : 0 < rank) (h : Near rank num den) :
    rankOf num den = rank := by
  obtain ⟨hlow, hhigh, htie⟩ := h
  have hspaced : 0 < den * 2 ^ shiftOf num den := Nat.mul_pos hden (Nat.two_pow_pos _)
  obtain ⟨hdown, hup, heven⟩ := roundDiv_spec num hspaced
  have hmost := roundDiv_le hspaced (lt_of_shiftOf hden)
  have hreached : shiftOf num den ≠ 0 → 2 ^ 52 * (den * 2 ^ shiftOf num den) ≤ num :=
    le_of_shiftOf hden
  have hleast : shiftOf num den ≠ 0 → 2 ^ 52 ≤ roundDiv num (den * 2 ^ shiftOf num den) :=
    fun h => le_roundDiv hspaced (hreached h)
  unfold rankOf
  generalize shiftOf num den = shift at *
  generalize roundDiv num (den * 2 ^ shift) = q at *
  have hnormal : shift = 0 ∨ 2 ^ 52 ≤ q := (Nat.eq_zero_or_pos shift).imp_right
    fun h => hleast (Nat.ne_of_gt h)
  have hspacing : ∀ n, n * (den * 2 ^ shift) = n * 2 ^ shift * den := fun n => by ring
  have hhalf : (2 * (q * 2 ^ shift) + 2 ^ shift) * den =
      2 * (q * (den * 2 ^ shift)) + den * 2 ^ shift := by ring
  rcases Nat.lt_trichotomy (shift * 2 ^ 52 + q) rank with hlt | heq | hgt
  · -- The quotient is at most half a spacing above, so it is the midpoint below the rank.
    have habove := Nat.mul_le_mul_right den (le_midpoint hnormal hmost)
    have hbetween := Nat.mul_le_mul_right den
      (midpoint_strictMono.monotone (Nat.le_sub_one_of_lt hlt))
    have hmidpoint : midpoint (shift * 2 ^ 52 + q) = midpoint (rank - 1) :=
      Nat.eq_of_mul_eq_mul_right hden (by omega)
    have hrank := midpoint_strictMono.injective hmidpoint
    have hq := heven (.inr (by omega))
    have hrankEven := htie (.inl (by omega))
    omega
  · exact heq
  · have hbetween := Nat.mul_le_mul_right den
      (midpoint_strictMono.monotone (Nat.le_sub_one_of_lt hgt))
    by_cases hbegins : shift = 0 ∨ 2 ^ 52 < q
    · -- The quotient is at most half a spacing below, so it is the midpoint above the rank.
      have hbelow := midpoint_le hbegins hmost (by omega)
      have hscaled : midpoint (shift * 2 ^ 52 + q - 1) * den + den * 2 ^ shift =
          2 * (q * (den * 2 ^ shift)) := by
        rw [hspacing, ← Nat.mul_assoc, ← hbelow]
        ring
      have hmidpoint : midpoint rank = midpoint (shift * 2 ^ 52 + q - 1) :=
        Nat.eq_of_mul_eq_mul_right hden (by omega)
      have hrank := midpoint_strictMono.injective hmidpoint
      have hq := heven (.inl (by omega))
      have hrankEven := htie (.inr (by omega))
      omega
    · -- The quotient reaches the beginning of its binade, so it is not rounded up to it.
      have hq : q = 2 ^ 52 := by omega
      have hunits := units_spaced hnormal hmost
      have hstep := units_strictMono (Nat.sub_one_lt_of_lt hgt)
      have hsum : midpoint (shift * 2 ^ 52 + q - 1) < 2 * (q * 2 ^ shift) := by
        have hnext : shift * 2 ^ 52 + q - 1 + 1 = shift * 2 ^ 52 + q := by omega
        rw [midpoint, hnext]
        omega
      have hsumScaled := Nat.mul_lt_mul_of_pos_right hsum hden
      have hnum := hreached (by omega)
      rw [← hq, hspacing] at hnum
      rw [Nat.mul_assoc] at hsumScaled
      omega

/-- Whether a quotient is near a rank is a matter of its value. -/
theorem Near.congr {rank num' den' : Nat} (hden' : 0 < den') (heq : num * den' = num' * den)
    (h : Near rank num den) : Near rank num' den' := by
  obtain ⟨hlow, hhigh, htie⟩ := h
  -- Both sides of every comparison are brought to the denominator that the other quotient has.
  have hside : ∀ m : Nat, m * den * den' = m * den' * den := fun m => Nat.mul_right_comm m den den'
  have hvalue : 2 * num * den' = 2 * num' * den := by
    rw [Nat.mul_assoc, heq, Nat.mul_assoc]
  have hlow' := Nat.mul_le_mul_right den' hlow
  have hhigh' := Nat.mul_le_mul_right den' hhigh
  rw [hside, hvalue] at hlow' hhigh'
  refine ⟨Nat.le_of_mul_le_mul_right hlow' hden, Nat.le_of_mul_le_mul_right hhigh' hden, ?_⟩
  intro htie'
  refine htie (htie'.imp (fun h => ?_) fun h => ?_)
  · refine Nat.eq_of_mul_eq_mul_right hden' ?_
    rw [hside, hvalue, h]
  · refine Nat.eq_of_mul_eq_mul_right hden' ?_
    rw [hside, hvalue, h]

end Quotients

end Phrasing.Binary64
