import Phrasing.Entries

/-! # Writing and reading entries

An association is read under a key and written under a key.  What is read after a write is the
written value under the key itself and the old one under every other key; a key that was not there
goes to the end.  Pairs with distinct keys are therefore already the association that writing them
one after another builds.
-/

namespace Phrasing.Entries

variable {κ ν : Type} [DecidableEq κ]

@[simp] theorem get?_nil (key : κ) : get? key ([] : Entries κ ν) = none := rfl

theorem get?_cons (key k : κ) (v : ν) (es : Entries κ ν) :
    get? key ((k, v) :: es) = if k = key then some v else get? key es := rfl

/-- Reading after a write. -/
theorem get?_put (key other : κ) (value : ν) (es : Entries κ ν) :
    get? other (put key value es) = if key = other then some value else get? other es := by
  induction es with
  | nil => simp only [put, get?]
  | cons e es ih =>
    obtain ⟨k, v⟩ := e
    by_cases hk : k = key
    · subst hk
      simp only [put, if_true, get?]
      split <;> rfl
    · simp only [put, hk, if_false, get?, ih]
      by_cases ho : k = other
      · subst ho
        simp only [if_true, Ne.symm hk, if_false]
      · simp only [ho, if_false]

theorem get?_put_ne {key other : κ} (h : key ≠ other) (value : ν) (es : Entries κ ν) :
    get? other (put key value es) = get? other es := by
  rw [get?_put, if_neg h]

theorem get?_eq_none_iff {key : κ} {es : Entries κ ν} : get? key es = none ↔ key ∉ es.keys := by
  induction es with
  | nil => simp [keys]
  | cons e es ih =>
    obtain ⟨k, v⟩ := e
    rw [get?_cons]
    by_cases hk : k = key
    · simp [keys, hk]
    · rw [if_neg hk, ih]
      simp [keys, Ne.symm hk]

/-- Reading through what was put together. -/
theorem get?_append (key : κ) (es es' : Entries κ ν) :
    get? key (es ++ es') = (get? key es).or (get? key es') := by
  induction es with
  | nil => rfl
  | cons e es ih =>
    obtain ⟨k, v⟩ := e
    rw [List.cons_append, get?_cons, get?_cons]
    by_cases hk : k = key
    · rw [if_pos hk, if_pos hk]
      rfl
    · rw [if_neg hk, if_neg hk, ih]

/-- With distinct keys, every entry is read under its key. -/
theorem get?_of_mem {key : κ} {value : ν} {es : Entries κ ν} (hd : es.keys.Nodup)
    (h : (key, value) ∈ es) : get? key es = some value := by
  induction es with
  | nil => cases h
  | cons e es ih =>
    obtain ⟨k, v⟩ := e
    obtain ⟨hk, hd⟩ := List.nodup_cons.mp hd
    rw [get?_cons]
    rcases List.mem_cons.mp h with h | h
    · cases h
      exact if_pos rfl
    · have hne : k ≠ key := by
        rintro rfl
        exact hk (List.mem_map.mpr ⟨(k, value), h, rfl⟩)
      rw [if_neg hne, ih hd h]

/-- A new key goes to the end. -/
theorem put_of_not_mem {key : κ} (value : ν) {es : Entries κ ν} (h : key ∉ es.keys) :
    put key value es = es ++ [(key, value)] := by
  induction es with
  | nil => rfl
  | cons e es ih =>
    obtain ⟨k, v⟩ := e
    simp only [keys, List.map_cons, List.mem_cons, not_or] at h
    simp only [put, Ne.symm h.1, if_false, ih h.2, List.cons_append]

/-- What is read stands among the entries. -/
theorem mem_of_get? {key : κ} {value : ν} {es : Entries κ ν} (h : get? key es = some value) :
    (key, value) ∈ es := by
  induction es with
  | nil => cases h
  | cons e es ih =>
    obtain ⟨k, v⟩ := e
    rw [get?_cons] at h
    by_cases hk : k = key
    · rw [if_pos hk] at h
      cases h
      rw [hk]
      exact List.mem_cons_self
    · rw [if_neg hk] at h
      exact List.mem_cons_of_mem _ (ih h)

/-- Pairs with distinct keys are kept as they come, behind what is there already. -/
theorem foldl_put_of_nodup (pairs es : List (κ × ν)) (h : ((es ++ pairs).map Prod.fst).Nodup) :
    pairs.foldl (fun entries (k, v) => put k v entries) es = es ++ pairs := by
  induction pairs generalizing es with
  | nil => simp
  | cons p pairs ih =>
    obtain ⟨k, v⟩ := p
    have hnew : k ∉ keys es := by
      intro hk
      rw [List.map_append, List.nodup_append] at h
      exact h.2.2 k hk k (by simp) rfl
    show pairs.foldl _ (put k v es) = _
    rw [put_of_not_mem v hnew, ih _ (by simpa using h)]
    simp

theorem ofPairs_of_nodup {pairs : List (κ × ν)} (h : (pairs.map Prod.fst).Nodup) :
    ofPairs pairs = pairs := by
  simpa [ofPairs] using foldl_put_of_nodup pairs [] (by simpa using h)

/-- The association with the value under a key changed where it stands. -/
def adjust (key : κ) (f : ν → ν) : Entries κ ν → Entries κ ν
  | [] => []
  | (k, v) :: rest => if k = key then (k, f v) :: rest else (k, v) :: adjust key f rest

/-- Reading after a change. -/
theorem get?_adjust (key other : κ) (f : ν → ν) (es : Entries κ ν) :
    get? other (adjust key f es) =
      if key = other then (get? other es).map f else get? other es := by
  induction es with
  | nil => simp [adjust]
  | cons e es ih =>
    obtain ⟨k, v⟩ := e
    by_cases hk : k = key
    · subst hk
      by_cases ho : k = other <;> simp [adjust, get?_cons, ho]
    · by_cases ho : k = other
      · subst ho
        simp [adjust, get?_cons, hk, Ne.symm hk]
      · simp [adjust, get?_cons, hk, ho, ih]

/-- Only the value that is there matters for a change. -/
theorem adjust_congr {key : κ} {f g : ν → ν} {es : Entries κ ν}
    (h : ∀ v, get? key es = some v → f v = g v) : adjust key f es = adjust key g es := by
  induction es with
  | nil => rfl
  | cons e es ih =>
    obtain ⟨k, v⟩ := e
    by_cases hk : k = key
    · simp only [adjust, hk, if_true, h v (by simp [get?_cons, hk])]
    · simp only [get?_cons, hk, if_false] at h
      simp only [adjust, hk, if_false, ih h]

theorem adjust_id (key : κ) (es : Entries κ ν) : adjust key id es = es := by
  induction es with
  | nil => rfl
  | cons e es ih => simp [adjust, ih]

/-- Writing what is made of the old value is a change in place. -/
theorem put_eq_adjust {key : κ} {f : ν → ν} {old : ν} {es : Entries κ ν}
    (h : get? key es = some old) : put key (f old) es = adjust key f es := by
  induction es with
  | nil => cases h
  | cons e es ih =>
    obtain ⟨k, v⟩ := e
    by_cases hk : k = key
    · simp only [get?_cons, hk, if_true, Option.some.injEq] at h
      simp only [put, adjust, hk, if_true, h]
    · simp only [get?_cons, hk, if_false] at h
      simp only [put, adjust, hk, if_false, ih h]

/-- The association with some of its keys only. -/
def only (names : List κ) (es : Entries κ ν) : Entries κ ν :=
  es.filter fun (k, _) => k ∈ names

theorem get?_only {names : List κ} {key : κ} (h : key ∈ names) (es : Entries κ ν) :
    get? key (only names es) = get? key es := by
  induction es with
  | nil => rfl
  | cons e es ih =>
    obtain ⟨k, v⟩ := e
    by_cases hk : k = key
    · subst hk
      simp [only, get?_cons, h]
    · rw [get?_cons, if_neg hk, ← ih]
      by_cases hmem : k ∈ names <;> simp [only, get?_cons, hmem, hk]

/-- A key that is there stays where it is. -/
theorem keys_put_of_mem {key : κ} (value : ν) {es : Entries κ ν} (h : key ∈ es.keys) :
    (put key value es).keys = es.keys := by
  induction es with
  | nil => cases h
  | cons e es ih =>
    obtain ⟨k, v⟩ := e
    by_cases hk : k = key
    · simp [put, keys, hk]
    · have hrest : key ∈ keys es := by
        rcases List.mem_cons.mp h with hkey | hrest
        · exact absurd hkey.symm hk
        · exact hrest
      simp only [put, hk, if_false, keys, List.map_cons] at ih ⊢
      rw [ih hrest]

theorem nodup_keys_put (key : κ) (value : ν) {es : Entries κ ν} (h : es.keys.Nodup) :
    (put key value es).keys.Nodup := by
  by_cases hmem : key ∈ es.keys
  · rwa [keys_put_of_mem value hmem]
  · rw [put_of_not_mem value hmem]
    simp only [keys, List.map_append, List.map_cons, List.map_nil]
    refine List.nodup_append.mpr ⟨h, List.pairwise_singleton _ _, ?_⟩
    intro k hk k' hk' heq
    rw [List.mem_singleton] at hk'
    exact hmem (hk' ▸ heq ▸ hk)

theorem mem_put {key : κ} {value : ν} {es : Entries κ ν} {e : κ × ν} (h : e ∈ put key value es) :
    e = (key, value) ∨ e ∈ es := by
  induction es with
  | nil => exact .inl (List.mem_singleton.mp h)
  | cons first rest ih =>
    obtain ⟨k, v⟩ := first
    by_cases hk : k = key
    · rw [put, if_pos hk] at h
      rcases List.mem_cons.mp h with rfl | h
      · exact .inl (by rw [hk])
      · exact .inr (List.mem_cons_of_mem _ h)
    · rw [put, if_neg hk] at h
      rcases List.mem_cons.mp h with rfl | h
      · exact .inr List.mem_cons_self
      · exact (ih h).imp_right (List.mem_cons_of_mem _)

/-- No entry comes from elsewhere. -/
theorem mem_of_mem_ofPairs {pairs : List (κ × ν)} {e : κ × ν} (h : e ∈ ofPairs pairs) : e ∈ pairs := by
  -- Every entry written so far was there at the start or is one of the pairs.
  have hgeneral : ∀ es : Entries κ ν, e ∈ pairs.foldl (fun entries (k, v) => put k v entries) es →
      e ∈ es ∨ e ∈ pairs := by
    clear h
    induction pairs with
    | nil => exact fun _ h => .inl h
    | cons p pairs ih =>
      intro es h
      rcases ih _ h with h | h
      · rcases mem_put h with rfl | h
        · exact .inr List.mem_cons_self
        · exact .inl h
      · exact .inr (List.mem_cons_of_mem _ h)
  exact (hgeneral [] h).resolve_left List.not_mem_nil

/-- No key comes from elsewhere. -/
theorem mem_keys_ofPairs {pairs : List (κ × ν)} {k : κ} (h : k ∈ (ofPairs pairs).keys) :
    k ∈ pairs.map Prod.fst := by
  obtain ⟨e, he, rfl⟩ := List.mem_map.mp h
  exact List.mem_map_of_mem (mem_of_mem_ofPairs he)

/-- **Whatever is written one after another**, every key occurs once. -/
theorem nodup_keys_ofPairs (pairs : List (κ × ν)) : (ofPairs pairs).keys.Nodup := by
  have hgeneral : ∀ es : Entries κ ν, es.keys.Nodup →
      (pairs.foldl (fun entries (k, v) => put k v entries) es).keys.Nodup := by
    induction pairs with
    | nil => exact fun _ h => h
    | cons p pairs ih => exact fun es h => ih _ (nodup_keys_put p.1 p.2 h)
  exact hgeneral [] List.nodup_nil

end Phrasing.Entries
