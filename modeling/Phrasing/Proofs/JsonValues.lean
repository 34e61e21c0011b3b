import Phrasing.Gateway.Routes
import Phrasing.Proofs.JournalText
import Phrasing.Proofs.Written

/-! # Values of JSON

A value of JSON is built from null, truth values, finite numbers and texts by lists and by objects with
distinct names.  It travels unchanged: it is what it is read as (`IsJson.reading_eq`), what is sent in its
place (`IsJson.sendable_eq`) and what the gateway replies with (`IsJson.finite_eq`).
-/

namespace Phrasing

/-- A scalar of JSON: null, a truth value, a finite number that can be written, or a text. -/
def Scalar.isJson : Scalar → Bool
  | .null | .bool _ | .text _ => true
  | s@(.int _) => s.isWritable
  | .float x => x.isFinite
  | .bytes _ | .date _ | .timestamp _ | .decimal _ => false

/-- A value of JSON. -/
inductive Value.IsJson : Value → Prop where
  | scalar {s : Scalar} (h : s.isJson = true) : IsJson (.scalar s)
  | list {items : List Value} (h : ∀ v ∈ items, IsJson v) : IsJson (.list items)
  | object {fields : List (String × Value)} (hnames : (fields.map Prod.fst).Nodup)
    (h : ∀ f ∈ fields, IsJson f.2) : IsJson (.object fields)

namespace Value

theorem isJson_null : Value.null.IsJson := .scalar rfl

theorem isJson_text (s : String) : (Value.text s).IsJson := .scalar rfl

theorem isJson_ofText? (s : Option String) : (Value.ofText? s).IsJson := by
  cases s with
  | none => exact isJson_null
  | some s => exact isJson_text s

theorem isJson_texts (items : List String) : (Value.texts items).IsJson := by
  refine .list fun v hv => ?_
  obtain ⟨s, _, rfl⟩ := List.mem_map.mp hv
  exact isJson_text s

/-- An object with one member. -/
theorem isJson_single (name : String) {v : Value} (h : v.IsJson) : (Value.object [(name, v)]).IsJson :=
  .object (List.nodup_singleton name)
    (List.forall_mem_cons.mpr ⟨h, fun _ hf => absurd hf List.not_mem_nil⟩)

/-- An object with two members. -/
theorem isJson_pair {name other : String} (hne : name ≠ other) {v w : Value} (hv : v.IsJson) (hw : w.IsJson) :
    (Value.object [(name, v), (other, w)]).IsJson := by
  refine .object ?_ (List.forall_mem_cons.mpr ⟨hv, List.forall_mem_cons.mpr ⟨hw, ?_⟩⟩)
  · exact List.nodup_cons.mpr ⟨fun h => hne (List.mem_singleton.mp h), List.nodup_singleton other⟩
  · exact fun _ hf => absurd hf List.not_mem_nil

end Value

/-! ## Parts of collections -/

theorem Json.nesting_pair_le {name other : String} {v w : Value} {levels : Nat} (hv : Json.nesting v ≤ levels)
    (hw : Json.nesting w ≤ levels) : Json.nesting (.object [(name, v), (other, w)]) ≤ levels + 1 :=
  Json.nesting_object_le.mpr
    (List.forall_mem_cons.mpr ⟨hv, List.forall_mem_cons.mpr ⟨hw, fun _ hf => absurd hf List.not_mem_nil⟩⟩)

theorem Json.readingItems_eq (items : List Value) : Json.readingItems items = items.map Json.reading := by
  induction items with
  | nil => rfl
  | cons v items ih => rw [Json.readingItems, ih, List.map_cons]

theorem Gateway.finiteItems_eq (items : List Value) : Gateway.finiteItems items = items.map Gateway.finite := by
  induction items with
  | nil => rfl
  | cons v items ih => rw [Gateway.finiteItems, ih, List.map_cons]

theorem Gateway.finiteEntries_eq (entries : List (Scalar × Value)) :
    Gateway.finiteEntries entries = entries.map fun e => (e.1, Gateway.finite e.2) := by
  induction entries with
  | nil => rfl
  | cons e entries ih => rw [Gateway.finiteEntries, ih, List.map_cons]

/-- Items that are sent as they are make up a list that is. -/
theorem Json.sendableItems_self {items : List Value} (h : ∀ v ∈ items, Json.sendable v = .ok v) :
    Json.sendableItems items = .ok items := by
  induction items with
  | nil => rfl
  | cons v items ih =>
    obtain ⟨hv, hitems⟩ := List.forall_mem_cons.mp h
    exact bind_eq_ok.mpr ⟨v, hv, bind_eq_ok.mpr ⟨items, ih hitems, rfl⟩⟩

/-- A list whose items are all left as they are is left as it is. -/
theorem map_eq_self {α : Type} {f : α → α} {items : List α} (h : ∀ a ∈ items, f a = a) : items.map f = items :=
  (List.map_congr_left h).trans (List.map_id items)

/-! ## On the way -/

namespace Value

namespace IsJson

variable {v : Value}

/-- A value of JSON is read as itself. -/
theorem reading_eq (h : v.IsJson) : Json.reading v = v := by
  induction h with
  | @scalar s h =>
    cases s with
    | null | bool | int | float | text => rfl
    | bytes | date | timestamp | decimal => cases h
  | @list items _ ih =>
    rw [Json.reading, Json.readingItems_eq, map_eq_self ih]
  | @object fields hnames _ ih =>
    rw [Json.reading_object hnames]
    exact congrArg Value.object (map_eq_self fun f hf => Prod.ext rfl (ih f hf))

/-- A value of JSON can be written. -/
theorem isWritable (h : v.IsJson) : v.isWritable = true := by
  induction h with
  | @scalar s h =>
    cases s with
    | int => exact h
    | null | bool | float | text => rfl
    | bytes | date | timestamp | decimal => cases h
  | @list items _ ih =>
    exact areWritable_iff.mpr ih
  | object _ _ ih => exact Json.isWritable_object.mpr ih

/-- A value of JSON is sent as itself. -/
theorem sendable_eq (h : v.IsJson) : Json.sendable v = .ok v := by
  induction h with
  | @scalar s h =>
    cases s with
    | null | bool | text => rfl
    | int => exact Json.sendable_int h
    | float x =>
      have hx : x.isFinite = true := h
      rw [Json.sendable, Json.sendableScalar, if_pos hx]
      rfl
    | bytes | date | timestamp | decimal => cases h
  | @list items _ ih =>
    rw [Json.sendable, Json.sendableItems_self ih]
    rfl
  | @object fields hnames _ ih =>
    refine Json.sendable_mapping_self_iff.mpr ⟨⟨fields.map Prod.fst, hnames, ?_⟩, fun e he => ?_⟩
    · rw [List.map_map, List.map_map]
      rfl
    · obtain ⟨f, hf, rfl⟩ := List.mem_map.mp he
      exact ih f hf

/-- A value of JSON has finite numbers only. -/
theorem finite_eq (h : v.IsJson) : Gateway.finite v = v := by
  induction h with
  | @scalar s h =>
    cases s with
    | null | bool | int | text => rfl
    | float x =>
      have hx : x.isFinite = true := h
      rw [Gateway.finite, if_pos hx]
    | bytes | date | timestamp | decimal => cases h
  | @list items _ ih =>
    rw [Gateway.finite, Gateway.finiteItems_eq, map_eq_self ih]
  | @object fields _ _ ih =>
    rw [Value.object, Gateway.finite, Gateway.finiteEntries_eq, map_eq_self]
    rintro e he
    obtain ⟨f, hf, rfl⟩ := List.mem_map.mp he
    exact Prod.ext rfl (ih f hf)

end IsJson

/-- Collections stand in each other no deeper than values do. -/
theorem nesting_le_depth (v : Value) : Json.nesting v ≤ Gateway.depth v := by
  have hitems : ∀ items : List Value, (∀ v ∈ items, Json.nesting v ≤ Gateway.depth v) →
      Json.nestingOfItems items ≤ Gateway.depthOfItems items := by
    intro items h
    induction items with
    | nil => exact Nat.le_refl 0
    | cons v items ih =>
      obtain ⟨hv, hitems⟩ := List.forall_mem_cons.mp h
      exact max_le_max hv (ih hitems)
  have hentries : ∀ entries : List (Scalar × Value),
      (∀ e ∈ entries, Json.nesting e.2 ≤ Gateway.depth e.2) →
      Json.nestingOfEntries entries ≤ Gateway.depthOfEntries entries := by
    intro entries h
    induction entries with
    | nil => exact Nat.le_refl 0
    | cons e entries ih =>
      obtain ⟨hv, hentries⟩ := List.forall_mem_cons.mp h
      exact max_le_max hv (ih hentries)
  induction v using Value.induction with
  | scalar s => exact Nat.zero_le _
  | list items ih => exact Nat.succ_le_succ (hitems items ih)
  | tuple items ih => exact Nat.succ_le_succ (hitems items ih)
  | set items ih => exact Nat.zero_le _
  | mapping entries ih => exact Nat.succ_le_succ (hentries entries ih)
  | record attributes => exact Nat.zero_le _

end Value

end Phrasing
