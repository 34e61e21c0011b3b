import Phrasing.Text.Blank

/-! # What is cut off at the end of a text

`dropTrailing` takes a text apart in two: what stays ends in a character that is not to be dropped
(`getLast?_dropTrailing`), and what goes are such characters alone (`dropTrailing_append_replicate`).
Where nothing is to be dropped the text is left alone (`dropTrailing_eq_self`).
-/

namespace Phrasing.Text

variable {p : Char → Bool}

theorem dropTrailing_isPrefix (p : Char → Bool) (cs : List Char) : dropTrailing p cs <+: cs := by
  have h := List.reverse_prefix.mpr (List.dropWhile_suffix p (l := cs.reverse))
  rwa [List.reverse_reverse] at h

/-- What stays ends in a character that stays. -/
theorem getLast?_dropTrailing (p : Char → Bool) (cs : List Char) :
    ∀ c ∈ (dropTrailing p cs).getLast?, p c = false := by
  intro c hc
  have hhead : (cs.reverse.dropWhile p).head? = some c := by
    rwa [dropTrailing, List.getLast?_reverse] at hc
  have hnot := List.head?_dropWhile_not p cs.reverse
  rw [hhead] at hnot
  exact hnot

/-- Characters in front of the last one that stays are kept. -/
theorem dropTrailing_append {first : List Char} (second : List Char)
    (h : ∀ c ∈ first.getLast?, p c = false) :
    dropTrailing p (first ++ second) = first ++ dropTrailing p second := by
  have hfirst : first.reverse.dropWhile p = first.reverse := by
    cases hreverse : first.reverse with
    | nil => rfl
    | cons c cs =>
      have hlast : c ∈ first.getLast? := by
        rw [← List.head?_reverse, hreverse]
        rfl
      rw [List.dropWhile_cons_of_neg (by simp [h c hlast])]
  unfold dropTrailing
  rw [List.reverse_append, List.dropWhile_append]
  split
  · rename_i hempty
    rw [hfirst, List.reverse_reverse, List.isEmpty_iff.mp hempty, List.reverse_nil, List.append_nil]
  · rw [List.reverse_append, List.reverse_reverse]

/-- A text that ends in a character that stays is left alone. -/
theorem dropTrailing_eq_self {cs : List Char} (h : ∀ c ∈ cs.getLast?, p c = false) :
    dropTrailing p cs = cs := by
  have happend := dropTrailing_append [] h
  rwa [List.append_nil, show dropTrailing p [] = [] from rfl, List.append_nil] at happend

/-- What is dropped at the end of a text is a run of the characters dropped. -/
theorem dropTrailing_append_replicate (x : Char) (cs : List Char) :
    dropTrailing (· == x) cs ++
      List.replicate (cs.length - (dropTrailing (· == x) cs).length) x = cs := by
  have hsplit : dropTrailing (· == x) cs ++ (cs.reverse.takeWhile (· == x)).reverse = cs := by
    rw [dropTrailing, ← List.reverse_append, List.takeWhile_append_dropWhile, List.reverse_reverse]
  have hrun : (cs.reverse.takeWhile (· == x)).reverse =
      List.replicate (cs.length - (dropTrailing (· == x) cs).length) x := by
    rw [List.eq_replicate_iff]
    constructor
    · have hlength := congrArg List.length hsplit
      rw [List.length_append] at hlength
      omega
    · intro c hc
      exact beq_iff_eq.mp (List.all_eq_true.mp List.all_takeWhile c (List.mem_reverse.mp hc))
  rw [← hrun]
  exact hsplit

theorem dropTrailing_replicate (x : Char) (n : Nat) :
    dropTrailing (· == x) (List.replicate n x) = [] := by
  rw [dropTrailing, List.reverse_replicate, List.dropWhile_replicate]
  simp

end Phrasing.Text
