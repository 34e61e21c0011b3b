import Phrasing.Proofs.Entries
import Phrasing.Proofs.Except
import Phrasing.Proofs.JsonText

/-! # What can be spelled

A literal is refused for an integer of too many digits, or for a collection below the last level; so is JSON, and
besides for a key that is no basic scalar.  What is read from JSON has no such integer and goes no deeper, so it
can always be spelled (`Json.IsDocument.checkLiteral`).  What can be written as JSON has no such integer and goes no
deeper either (`Json.check_eq_ok`), and this is all there is to it where the keys are texts.
-/

namespace Phrasing

open Text

theorem Scalar.checkDigits_eq_ok {s : Scalar} : s.checkDigits = .ok () ↔ s.isWritable = true := by
  unfold checkDigits
  cases s.isWritable <;> simp

/-- After a check that passes nothing is left of it. -/
theorem ok_then (x : Except Mishap Unit) : (do .ok (); x) = x :=
  rfl

/-- Nothing is added by a check that passes. -/
theorem then_ok (x : Except Mishap Unit) : (do x; .ok ()) = x := by
  cases x <;> rfl

/-- Two checks pass one after the other if both do. -/
theorem checks_eq_ok {x y : Except Mishap Unit} : (do x; y) = .ok () ↔ x = .ok () ∧ y = .ok () := by
  cases x with
  | error m => simp [bind, Except.bind]
  | ok _ => simp [bind, Except.bind]

/-! ## Parts of collections -/

theorem areWritable_iff {items : List Value} : areWritable items = true ↔ ∀ v ∈ items, v.isWritable = true := by
  induction items with
  | nil => exact iff_of_true rfl fun _ h => absurd h List.not_mem_nil
  | cons v items ih => rw [areWritable, Bool.and_eq_true, ih, List.forall_mem_cons]

theorem entriesAreWritable_iff {entries : List (Scalar × Value)} :
    entriesAreWritable entries = true ↔ ∀ e ∈ entries, e.1.isWritable = true ∧ e.2.isWritable = true := by
  induction entries with
  | nil => exact iff_of_true rfl fun _ h => absurd h List.not_mem_nil
  | cons e entries ih =>
    rw [entriesAreWritable, Bool.and_eq_true, Bool.and_eq_true, ih, List.forall_mem_cons]

theorem attributesAreWritable_iff {attributes : List (String × Value)} :
    attributesAreWritable attributes = true ↔ ∀ e ∈ attributes, e.2.isWritable = true := by
  induction attributes with
  | nil => exact iff_of_true rfl fun _ h => absurd h List.not_mem_nil
  | cons e attributes ih => rw [attributesAreWritable, Bool.and_eq_true, ih, List.forall_mem_cons]

theorem Json.nestingOfItems_le {items : List Value} {levels : Nat} :
    Json.nestingOfItems items ≤ levels ↔ ∀ v ∈ items, Json.nesting v ≤ levels := by
  induction items with
  | nil => exact iff_of_true (Nat.zero_le _) fun _ h => absurd h List.not_mem_nil
  | cons v items ih => rw [Json.nestingOfItems, Nat.max_le, ih, List.forall_mem_cons]

theorem Json.nestingOfEntries_le {entries : List (Scalar × Value)} {levels : Nat} :
    Json.nestingOfEntries entries ≤ levels ↔ ∀ e ∈ entries, Json.nesting e.2 ≤ levels := by
  induction entries with
  | nil => exact iff_of_true (Nat.zero_le _) fun _ h => absurd h List.not_mem_nil
  | cons e entries ih => rw [Json.nestingOfEntries, Nat.max_le, ih, List.forall_mem_cons]

section Parts

variable {levels : Nat}

theorem checkLiterals_eq_ok {items : List Value} :
    checkLiterals levels items = .ok () ↔ ∀ v ∈ items, v.checkLiteral levels = .ok () := by
  induction items with
  | nil => exact iff_of_true rfl fun _ h => absurd h List.not_mem_nil
  | cons v items ih => rw [checkLiterals, checks_eq_ok, ih, List.forall_mem_cons]

theorem checkAttributeLiterals_eq_ok {attributes : List (String × Value)} :
    checkAttributeLiterals levels attributes = .ok () ↔
      ∀ e ∈ attributes, e.2.checkLiteral levels = .ok () := by
  induction attributes with
  | nil => exact iff_of_true rfl fun _ h => absurd h List.not_mem_nil
  | cons e attributes ih => rw [checkAttributeLiterals, checks_eq_ok, ih, List.forall_mem_cons]

theorem checkEntryLiterals_eq_ok {entries : List (Scalar × Value)} :
    checkEntryLiterals levels entries = .ok () ↔
      ∀ e ∈ entries, e.1.isWritable = true ∧ e.2.checkLiteral levels = .ok () := by
  induction entries with
  | nil => exact iff_of_true rfl fun _ h => absurd h List.not_mem_nil
  | cons e entries ih =>
    rw [checkEntryLiterals, checks_eq_ok, checks_eq_ok, ih, Scalar.checkDigits_eq_ok,
      List.forall_mem_cons, and_assoc]

end Parts

namespace Value

theorem checkLiteral_scalar {levels : Nat} {s : Scalar} :
    (Value.scalar s).checkLiteral levels = s.checkDigits := by
  cases levels <;> rfl

/-- One more level does no harm. -/
theorem checkLiteral_succ {v : Value} {levels : Nat} (h : v.checkLiteral levels = .ok ()) :
    v.checkLiteral (levels + 1) = .ok () := by
  -- A part stands one level below the whole, so the induction is for all levels.
  induction v using Value.induction generalizing levels with
  | scalar s =>
    rw [checkLiteral_scalar] at h ⊢
    exact h
  | list items ih | tuple items ih | set items ih =>
    cases levels with
    | zero => cases h
    | succ levels => exact checkLiterals_eq_ok.mpr fun v hv => ih v hv (checkLiterals_eq_ok.mp h v hv)
  | mapping entries ih =>
    cases levels with
    | zero => cases h
    | succ levels =>
      exact checkEntryLiterals_eq_ok.mpr fun e he =>
        ⟨(checkEntryLiterals_eq_ok.mp h e he).1, ih e he (checkEntryLiterals_eq_ok.mp h e he).2⟩
  | record attributes ih =>
    cases levels with
    | zero => cases h
    | succ levels =>
      exact checkAttributeLiterals_eq_ok.mpr fun e he =>
        ih e he (checkAttributeLiterals_eq_ok.mp h e he)

/-- An item of a list that can be spelled can be spelled. -/
theorem checkLiteral_of_mem {v : Value} {items : List Value} {levels : Nat}
    (h : (Value.list items).checkLiteral levels = .ok ()) (hv : v ∈ items) : v.checkLiteral levels = .ok () := by
  cases levels with
  | zero => cases h
  | succ levels => exact checkLiteral_succ (checkLiterals_eq_ok.mp h v hv)

/-- What stands in a mapping that can be spelled can be spelled. -/
theorem checkLiteral_get? {v w : Value} {levels : Nat} {name : String}
    (h : v.checkLiteral levels = .ok ()) (hw : v.get? name = some w) : w.checkLiteral levels = .ok () := by
  unfold get? at hw
  split at hw
  · cases levels with
    | zero => cases h
    | succ levels =>
      exact checkLiteral_succ (checkEntryLiterals_eq_ok.mp h _ (Entries.mem_of_get? hw)).2
  · cases hw

theorem checkLiteral_getD {v : Value} {levels : Nat} {name : String}
    (h : v.checkLiteral levels = .ok ()) : (v.getD name).checkLiteral levels = .ok () := by
  unfold getD
  cases hw : v.get? name with
  | none => exact checkLiteral_scalar
  | some w => exact checkLiteral_get? h hw

end Value

/-! ## Reading -/

namespace Json

/-- A value that some text holds as JSON. -/
def IsDocument (v : Value) : Prop :=
  ∃ cs, document cs = .ok v

/-- The number that digits spell has no more digits than that. -/
theorem ofDigits_lt {ds : List Nat} (h : ∀ d ∈ ds, d < 10) : Binary64.ofDigits ds < 10 ^ ds.length := by
  induction ds with
  | nil => exact Nat.one_pos
  | cons d ds ih =>
    obtain ⟨hd, hds⟩ := List.forall_mem_cons.mp h
    have hsum : Binary64.ofDigits (d :: ds) = (10 * 0 + d) * 10 ^ ds.length + Binary64.ofDigits ds :=
      foldl_digits _ ds
    calc Binary64.ofDigits (d :: ds)
        = d * 10 ^ ds.length + Binary64.ofDigits ds := by rw [hsum, Nat.mul_zero, Nat.zero_add]
      _ < d * 10 ^ ds.length + 10 ^ ds.length := Nat.add_lt_add_left (ih hds) _
      _ = (d + 1) * 10 ^ ds.length := (Nat.succ_mul _ _).symm
      _ ≤ 10 * 10 ^ ds.length := Nat.mul_le_mul_right _ hd
      _ = 10 ^ (d :: ds).length := (Nat.pow_succ' ..).symm

theorem asciiDigit?_lt {c : Char} {d : Nat} (h : asciiDigit? c = some d) : d < 10 := by
  unfold asciiDigit? at h
  split at h
  · rename_i hc
    cases h
    have hle : c.toNat ≤ '9'.toNat := hc.2
    have hnine : '9'.toNat = '0'.toNat + 9 := rfl
    omega
  · cases h

theorem spanDigits_lt {cs rest : List Char} {ds : List Nat} (h : spanDigits cs = (ds, rest)) :
    ∀ d ∈ ds, d < 10 := by
  intro d hd
  rw [← (Prod.mk.inj h).1] at hd
  obtain ⟨c, _, hc⟩ := List.mem_filterMap.mp hd
  exact asciiDigit?_lt hc

theorem wholePart?_lt {cs rest : List Char} {ds : List Nat} (h : wholePart? cs = some (ds, rest)) :
    ∀ d ∈ ds, d < 10 := by
  unfold wholePart? at h
  split at h
  · cases h
    simp
  · split at h
    · cases h
    · exact spanDigits_lt (Option.some.inj h)

/-- A number that is read can be spelled. -/
theorem isWritable_of_magnitude? {negative : Bool} {cs rest : List Char} {v : Value}
    (h : magnitude? negative cs = some (.ok (v, rest))) : ∃ s, v = .scalar s ∧ s.isWritable = true := by
  obtain ⟨⟨whole, tail⟩, hwhole, h⟩ := Option.map_eq_some_iff.mp h
  dsimp only at h
  split at h
  · split at h
    · cases h
    · rename_i hlength
      cases h
      refine ⟨_, rfl, ?_⟩
      unfold Scalar.isWritable
      -- The power stays a variable, so that it is not evaluated.
      generalize mostDigits = most at hlength ⊢
      have hvalue : Binary64.ofDigits whole < Nat.pow 10 most :=
        Nat.lt_of_lt_of_le (ofDigits_lt (wholePart?_lt hwhole))
          (Nat.pow_le_pow_right (by decide) (Nat.le_of_not_lt hlength))
      refine decide_eq_true ?_
      cases negative with
      | true => rwa [if_pos rfl, Int.natAbs_neg, Int.natAbs_natCast]
      | false => rwa [if_neg Bool.false_ne_true, Int.natAbs_natCast]
  · cases h
    exact ⟨_, rfl, rfl⟩

/-- What is read as neither a string nor a collection can be spelled. -/
theorem isWritable_of_bareValue {cs rest : List Char} {v : Value} (h : bareValue cs = .ok (v, rest)) :
    ∃ s, v = .scalar s ∧ s.isWritable = true := by
  have hconstants : ∀ c ∈ constants, ∃ s, c.2 = .scalar s ∧ s.isWritable = true := by
    intro c hc
    simp only [constants, List.mem_cons, List.not_mem_nil, or_false] at hc
    rcases hc with rfl | rfl | rfl | rfl | rfl | rfl <;> exact ⟨_, rfl, rfl⟩
  unfold bareValue at h
  split at h
  · rename_i found hfound
    cases h
    obtain ⟨c, hc, hsome⟩ := List.exists_of_findSome?_eq_some hfound
    dsimp only at hsome
    split at hsome
    · cases hsome
      exact hconstants c hc
    · cases hsome
  · cases hnumber : number? cs with
    | none =>
      rw [hnumber] at h
      cases h
    | some read =>
      rw [hnumber] at h
      cases h
      unfold number? at hnumber
      split at hnumber
      · exact isWritable_of_magnitude? hnumber
      · exact isWritable_of_magnitude? hnumber

/-- What a reader with some fuel left reads can be spelled, item by item and member by member. -/
structure ReadsSpelled (fuel : Nat) : Prop where
  value : ∀ {levels cs v rest}, Json.value levels fuel cs = .ok (v, rest) → v.checkLiteral levels = .ok ()
  items : ∀ {levels cs vs rest}, Json.items levels fuel cs = .ok (vs, rest) →
    ∀ v ∈ vs, v.checkLiteral levels = .ok ()
  members : ∀ {levels cs fields rest}, Json.members levels fuel cs = .ok (fields, rest) →
    ∀ f ∈ fields, f.1.isWritable = true ∧ f.2.checkLiteral levels = .ok ()

theorem checkLiteral_list {levels : Nat} {items : List Value}
    (h : ∀ v ∈ items, v.checkLiteral levels = .ok ()) :
    (Value.list items).checkLiteral (levels + 1) = .ok () :=
  checkLiterals_eq_ok.mpr h

theorem checkLiteral_ofPairs {levels : Nat} {fields : List (Scalar × Value)}
    (h : ∀ f ∈ fields, f.1.isWritable = true ∧ f.2.checkLiteral levels = .ok ()) :
    (Value.mapping (Entries.ofPairs fields)).checkLiteral (levels + 1) = .ok () :=
  checkEntryLiterals_eq_ok.mpr fun f hf => h f (Entries.mem_of_mem_ofPairs hf)

/-! Each reader spends one unit of fuel and leaves the rest to the readers of its parts. -/

theorem ReadsSpelled.value_succ {fuel levels : Nat} {cs rest : List Char} {v : Value} (ih : ReadsSpelled fuel)
    (h : Json.value levels (fuel + 1) cs = .ok (v, rest)) : v.checkLiteral levels = .ok () := by
  unfold Json.value at h
  split at h
  · obtain ⟨s, _, hs⟩ := map_eq_ok.mp h
    cases hs
    rfl
  · cases h
  · split at h
    · cases h
      exact checkLiteral_list fun _ hv => absurd hv List.not_mem_nil
    · obtain ⟨vs, hvs, heq⟩ := map_eq_ok.mp h
      cases heq
      exact checkLiteral_list (ih.items hvs)
  · cases h
  · split at h
    · cases h
      exact @checkLiteral_ofPairs _ [] fun _ hf => absurd hf List.not_mem_nil
    · obtain ⟨fields, hfields, heq⟩ := map_eq_ok.mp h
      cases heq
      exact checkLiteral_ofPairs (ih.members hfields)
  · obtain ⟨s, rfl, hs⟩ := isWritable_of_bareValue h
    cases levels <;> exact Scalar.checkDigits_eq_ok.mpr hs

theorem ReadsSpelled.items_succ {fuel levels : Nat} {cs rest : List Char} {vs : List Value}
    (ih : ReadsSpelled fuel) (h : Json.items levels (fuel + 1) cs = .ok (vs, rest)) :
    ∀ v ∈ vs, v.checkLiteral levels = .ok () := by
  unfold Json.items at h
  split at h
  · cases h
  · rename_i v rest' hv
    split at h
    · cases h
      exact List.forall_mem_singleton.mpr (ih.value hv)
    · obtain ⟨⟨vs', _⟩, hvs, heq⟩ := map_eq_ok.mp h
      cases heq
      exact List.forall_mem_cons.mpr ⟨ih.value hv, ih.items hvs⟩
    · cases h

theorem ReadsSpelled.members_succ {fuel levels : Nat} {cs rest : List Char} {fields : List (Scalar × Value)}
    (ih : ReadsSpelled fuel) (h : Json.members levels (fuel + 1) cs = .ok (fields, rest)) :
    ∀ f ∈ fields, f.1.isWritable = true ∧ f.2.checkLiteral levels = .ok () := by
  unfold Json.members at h
  split at h
  · split at h
    · cases h
    · split at h
      · split at h
        · cases h
        · rename_i v rest' hv
          split at h
          · cases h
            exact List.forall_mem_singleton.mpr ⟨rfl, ih.value hv⟩
          · obtain ⟨⟨fields', _⟩, hfields, heq⟩ := map_eq_ok.mp h
            cases heq
            exact List.forall_mem_cons.mpr ⟨⟨rfl, ih.value hv⟩, ih.members hfields⟩
          · cases h
      · cases h
  · cases h

theorem readsSpelled (fuel : Nat) : ReadsSpelled fuel := by
  induction fuel with
  | zero => exact ⟨nofun, nofun, nofun⟩
  | succ fuel ih => exact ⟨ih.value_succ, ih.items_succ, ih.members_succ⟩

/-- **What is read from JSON can be spelled.** -/
theorem IsDocument.checkLiteral {v : Value} (h : IsDocument v) :
    v.checkLiteral Value.mostLevels = .ok () := by
  obtain ⟨cs, h⟩ := h
  unfold document at h
  split at h
  · cases h
  · rename_i read hvalue
    split at h
    · cases h
      exact (readsSpelled _).value hvalue
    · cases h

/-! ## Writing -/

section Writing

variable {levels : Nat}

theorem check_scalar {s : Scalar} : check levels (.scalar s) = s.checkDigits := by
  cases levels <;> rfl

theorem check_text (s : String) : check levels (.text s) = .ok () :=
  check_scalar

/-- Nothing that is vacant is refused. -/
theorem check_of_isVacant {v : Value} (h : v.isVacant = true) : check (levels + 1) v = .ok () := by
  cases v with
  | scalar s =>
    refine check_scalar.trans (Scalar.checkDigits_eq_ok.mpr ?_)
    cases s with
    | int n =>
      have hzero : n.natAbs = 0 := Int.natAbs_eq_zero.mpr (of_decide_eq_true h)
      have hpos (digits : Nat) : n.natAbs < Nat.pow 10 digits := by
        rw [hzero]
        exact Nat.pow_pos (by decide)
      have hwritable : decide (n.natAbs < Nat.pow 10 mostDigits) = true := decide_eq_true (hpos mostDigits)
      exact hwritable
    | null | bool _ | float _ | text _ | bytes _ | decimal _ | date _ | timestamp _ => rfl
  | list items | tuple items | set items =>
    cases List.isEmpty_iff.mp h
    rfl
  | mapping entries =>
    cases List.isEmpty_iff.mp h
    rfl
  | record attributes => cases h

theorem checkItems_eq_ok {items : List Value} :
    checkItems levels items = .ok () ↔ ∀ v ∈ items, check levels v = .ok () := by
  induction items with
  | nil => exact iff_of_true rfl fun _ h => absurd h List.not_mem_nil
  | cons v items ih => rw [checkItems, checks_eq_ok, ih, List.forall_mem_cons]

theorem checkEntries_eq_ok {entries : List (Scalar × Value)} :
    checkEntries levels entries = .ok () ↔
      ∀ e ∈ entries, checkKey e.1 = .ok () ∧ check levels e.2 = .ok () := by
  induction entries with
  | nil => exact iff_of_true rfl fun _ h => absurd h List.not_mem_nil
  | cons e entries ih =>
    rw [checkEntries, checks_eq_ok, checks_eq_ok, ih, List.forall_mem_cons, and_assoc]

theorem checkEntries_nil : checkEntries levels [] = .ok () :=
  rfl

/-- A member under a text is refused for its value only. -/
theorem checkEntries_text_cons (name : String) (v : Value) (entries : List (Scalar × Value)) :
    checkEntries levels ((.text name, v) :: entries) = (do check levels v; checkEntries levels entries) :=
  rfl

theorem check_texts (items : List String) : check (levels + 1) (.texts items) = .ok () := by
  refine checkItems_eq_ok.mpr fun v hv => ?_
  obtain ⟨s, _, rfl⟩ := List.mem_map.mp hv
  exact check_text s

theorem checkEntries_append (entries more : List (Scalar × Value)) :
    checkEntries levels (entries ++ more) = (do checkEntries levels entries; checkEntries levels more) := by
  induction entries with
  | nil => rfl
  | cons e entries ih =>
    rw [List.cons_append, checkEntries, checkEntries, ih]
    cases checkKey e.1 with
    | error m => rfl
    | ok _ => cases check levels e.2 <;> rfl

theorem isWritable_of_checkKey {k : Scalar} (h : checkKey k = .ok ()) : k.isWritable = true := by
  cases k with
  | null | bool | int | float | text => exact Scalar.checkDigits_eq_ok.mp h
  | bytes | date | timestamp | decimal => cases h

end Writing

end Json

/-- What has a literal has no integer of too many digits. -/
theorem Value.isWritable_of_checkLiteral {v : Value} {levels : Nat} (h : v.checkLiteral levels = .ok ()) :
    v.isWritable = true := by
  induction v using Value.induction generalizing levels with
  | scalar s => exact Scalar.checkDigits_eq_ok.mp (checkLiteral_scalar.symm.trans h)
  | list items ih | tuple items ih | set items ih =>
    cases levels with
    | zero => cases h
    | succ levels => exact areWritable_iff.mpr fun v hv => ih v hv (checkLiterals_eq_ok.mp h v hv)
  | mapping entries ih =>
    cases levels with
    | zero => cases h
    | succ levels =>
      exact entriesAreWritable_iff.mpr fun e he =>
        ⟨(checkEntryLiterals_eq_ok.mp h e he).1, ih e he (checkEntryLiterals_eq_ok.mp h e he).2⟩
  | record attributes ih =>
    cases levels with
    | zero => cases h
    | succ levels =>
      exact attributesAreWritable_iff.mpr fun e he => ih e he (checkAttributeLiterals_eq_ok.mp h e he)

/-- **What can be written as JSON** has no integer of too many digits and goes no deeper than it may. -/
theorem Json.check_eq_ok {v : Value} {levels : Nat} (h : check levels v = .ok ()) :
    v.isWritable = true ∧ nesting v ≤ levels := by
  induction v using Value.induction generalizing levels with
  | scalar s => exact ⟨Scalar.checkDigits_eq_ok.mp (check_scalar.symm.trans h), Nat.zero_le _⟩
  | list items ih | tuple items ih =>
    cases levels with
    | zero => cases h
    | succ levels =>
      have hitems := checkItems_eq_ok.mp h
      exact ⟨areWritable_iff.mpr fun v hv => (ih v hv (hitems v hv)).1,
        Nat.succ_le_succ (nestingOfItems_le.mpr fun v hv => (ih v hv (hitems v hv)).2)⟩
  | mapping entries ih =>
    cases levels with
    | zero => cases h
    | succ levels =>
      have hentries := checkEntries_eq_ok.mp h
      exact ⟨entriesAreWritable_iff.mpr fun e he =>
          ⟨isWritable_of_checkKey (hentries e he).1, (ih e he (hentries e he).2).1⟩,
        Nat.succ_le_succ (nestingOfEntries_le.mpr fun e he => (ih e he (hentries e he).2).2)⟩
  | set items =>
    have hliteral : (Value.set items).checkLiteral levels = .ok () := by cases levels <;> exact h
    exact ⟨Value.isWritable_of_checkLiteral hliteral, Nat.zero_le _⟩
  | record attributes =>
    have hliteral : (Value.record attributes).checkLiteral levels = .ok () := by cases levels <;> exact h
    exact ⟨Value.isWritable_of_checkLiteral hliteral, Nat.zero_le _⟩

end Phrasing
