import Mathlib.Logic.Relation
import Phrasing.Exchange.Join

/-! # The join forgets the order of arrival

Things under way finish one at a time, any of them next (`Progress.Step`), so that what has finished
when nothing is left is what was started in some order, and every order is possible
(`finishes_iff_perm`).  Joining gives the things in the order in which they were started, whatever
the order in which they finished (`join_of_perm`).  The result of the join is then decided by that
order alone: all values if there is no failure, and otherwise the failure that was started first
(`results_eq_error_iff`).
-/

namespace Phrasing.Join

section Progress

variable {α : Type}

/-- What is under way, and what has finished in the order it did, each with the place of its
start. -/
structure Progress (α : Type) where
  underWay : List (α × Nat)
  finished : List (α × Nat)

/-- One of the things under way finishes, whichever. -/
inductive Progress.Step : Progress α → Progress α → Prop
  | finish (before after finished : List (α × Nat)) (a : α × Nat) :
    Step ⟨before ++ a :: after, finished⟩ ⟨before ++ after, finished ++ [a]⟩

/-- Things that are started together finish one after another in an order, until none is left. -/
def Finishes (started : List α) (finished : List (α × Nat)) : Prop :=
  Relation.ReflTransGen Progress.Step ⟨started.zipIdx, []⟩ ⟨[], finished⟩

/-- Nothing gets lost and nothing is added when something finishes. -/
theorem Progress.Step.perm {p q : Progress α} (h : Progress.Step p q) :
    (q.finished ++ q.underWay).Perm (p.finished ++ p.underWay) := by
  cases h with
  | finish before after finished a =>
    show (finished ++ [a] ++ (before ++ after)).Perm (finished ++ (before ++ a :: after))
    rw [List.append_assoc, List.singleton_append]
    exact List.perm_middle.symm.append_left finished

theorem Progress.perm_of_steps {p q : Progress α} (h : Relation.ReflTransGen Progress.Step p q) :
    (q.finished ++ q.underWay).Perm (p.finished ++ p.underWay) := by
  induction h with
  | refl => exact List.Perm.refl _
  | tail _ hstep ih => exact hstep.perm.trans ih

/-- What is under way can finish in any order. -/
theorem Progress.steps_of_perm {underWay order : List (α × Nat)} (h : order.Perm underWay)
    (finished : List (α × Nat)) :
    Relation.ReflTransGen Progress.Step ⟨underWay, finished⟩ ⟨[], finished ++ order⟩ := by
  induction order generalizing underWay finished with
  | nil =>
    rw [List.perm_nil.mp h.symm, List.append_nil]
  | cons a order ih =>
    -- The first of the order is somewhere under way, and it finishes next.
    obtain ⟨before, after, rfl⟩ := List.append_of_mem (h.subset List.mem_cons_self)
    have hrest : order.Perm (before ++ after) := (h.trans List.perm_middle).cons_inv
    have hsteps := ih hrest (finished ++ [a])
    rw [List.append_assoc] at hsteps
    exact .head (.finish before after finished a) hsteps

/-- **The orders in which things finish** are all the orders of what was started. -/
theorem finishes_iff_perm {started : List α} {finished : List (α × Nat)} :
    Finishes started finished ↔ finished.Perm started.zipIdx := by
  constructor
  · intro h
    have hperm := Progress.perm_of_steps h
    rwa [List.append_nil, List.nil_append] at hperm
  · intro h
    exact Progress.steps_of_perm h []

end Progress

section Order

variable {α : Type}

/-- Delays give one of the orders. -/
theorem completions_perm (delay : α → Nat) (started : List α) :
    (completions delay started).Perm started.zipIdx :=
  List.mergeSort_perm _ _

variable {started : List α} {finished : List (α × Nat)} (h : finished.Perm started.zipIdx)

include h

theorem mem_of_perm {a : α} {i : Nat} : (a, i) ∈ finished ↔ started[i]? = some a := by
  rw [h.mem_iff, List.mem_zipIdx_iff_getElem?]

/-- What is found under a place was started there. -/
theorem startedAt?_of_perm (i : Nat) : startedAt? finished i = started[i]? := by
  unfold startedAt?
  cases hf : finished.find? fun e => e.2 == i with
  | none =>
    cases hs : started[i]? with
    | none => rfl
    | some a =>
      have hnot := List.find?_eq_none.mp hf (a, i) ((mem_of_perm h).mpr hs)
      simp at hnot
  | some e =>
    -- What is found has the place that was looked for, and nothing else was started there.
    obtain ⟨a, j⟩ := e
    have hj : j = i := by simpa using List.find?_some hf
    subst hj
    exact ((mem_of_perm h).mp (List.mem_of_find?_eq_some hf)).symm

omit h in
/-- Looking up all places of a list one after another gives the list. -/
theorem filterMap_range_getElem? (xs : List α) :
    (List.range xs.length).filterMap (fun i => xs[i]?) = xs := by
  induction xs with
  | nil => rfl
  | cons x xs ih =>
    rw [List.length_cons, List.range_succ_eq_map, List.filterMap_cons, List.filterMap_map]
    exact congrArg (x :: ·) ih

/-- **The join gives back what was started, in order.** -/
theorem join_of_perm : join started.length finished = started := by
  have hplace : startedAt? finished = fun i => started[i]? := funext (startedAt?_of_perm h)
  rw [join, hplace, filterMap_range_getElem?]

end Order

section Results

variable {ε α : Type}

/-- There are values for all exactly when each one is there. -/
theorem results_eq_ok_iff {xs : List (Except ε α)} {as : List α} :
    results xs = .ok as ↔ xs = as.map .ok := by
  induction xs generalizing as with
  | nil => cases as <;> simp [results]
  | cons x xs ih =>
    cases x with
    | error e => cases as <;> simp [results]
    | ok a =>
      rw [results]
      cases hr : results xs with
      | error e =>
        simp only [Except.map, reduceCtorEq, false_iff]
        intro h
        cases as with
        | nil => cases h
        | cons b bs =>
          have hrest := ih.mpr (List.cons.inj h).2
          rw [hr] at hrest
          cases hrest
      | ok bs =>
        have hxs := ih.mp hr
        subst hxs
        cases as with
        | nil => simp [Except.map]
        | cons b cs =>
          simp only [Except.map, Except.ok.injEq, List.cons.injEq, List.map_cons]
          rw [List.map_inj_right fun _ _ h => Except.ok.inj h]

/-- The failure of all is the first one: before it there are only values. -/
theorem results_eq_error_iff {xs : List (Except ε α)} {e : ε} :
    results xs = .error e ↔ ∃ (as : List α) (rest : _), xs = as.map .ok ++ .error e :: rest := by
  induction xs with
  | nil => simp [results]
  | cons x xs ih =>
    cases x with
    | error f =>
      rw [results]
      constructor
      · intro h
        cases h
        exact ⟨[], xs, rfl⟩
      · rintro ⟨as, rest, h⟩
        cases as with
        | nil => exact congrArg Except.error (Except.error.inj (List.cons.inj h).1)
        | cons a as => cases (List.cons.inj h).1
    | ok a =>
      -- A value in front leaves the failure of the rest as it is.
      have hmap : results (.ok a :: xs) = .error e ↔ results xs = .error e := by
        rw [results]
        cases results xs <;> simp [Except.map]
      rw [hmap, ih]
      constructor
      · rintro ⟨as, rest, h⟩
        exact ⟨a :: as, rest, by rw [h]; rfl⟩
      · rintro ⟨as, rest, h⟩
        cases as with
        | nil => cases (List.cons.inj h).1
        | cons b as => exact ⟨as, rest, (List.cons.inj h).2⟩

end Results

end Phrasing.Join
