import Phrasing.Generation
import Phrasing.Proofs.Except

/-! # The slots of entities

`WireValue.HasForm` lists the values that have a wire form.  Entities are encoded to the last one
before anything else is done with them: either all have a wire form, and the slots hold these under
the names of the entities in their order (`Slot.ofEntries_eq_ok_iff`), or the first one without a
wire form is told (`Slot.ofEntries_eq_error_iff`).
-/

namespace Phrasing

namespace WireValue

/-- The values that have a wire form. -/
inductive HasForm : Value → Prop where
  | text (s : String) : HasForm (.text s)
  | bool (b : Bool) : HasForm (.bool b)
  | int (n : Int) : HasForm (.int n)
  | float {x : Binary64} (h : x.isFinite = true) : HasForm (.float x)
  | timestamp (t : Calendar.Timestamp) : HasForm (.timestamp t)
  | date (d : Calendar.Date) : HasForm (.date d)

/-- What is said about a value without a wire form. -/
def refusal : Value → String
  | .float x => "Cannot encode non-finite float " ++ x.text
  | v => "Cannot encode value of type " ++ v.typeName

/-- **A value is encoded if it has a wire form and refused if it has none.** -/
theorem encode_cases (v : Value) :
    (HasForm v ∧ ∃ w, encode v = .ok w) ∨
      (¬ HasForm v ∧ encode v = .error (.unsupported (refusal v))) := by
  by_cases h : HasForm v
  · refine .inl ⟨h, ?_⟩
    cases h with
    | text s => exact ⟨_, rfl⟩
    | bool b => exact ⟨_, rfl⟩
    | int n => exact ⟨_, rfl⟩
    | float hx => exact ⟨_, by rw [encode, if_pos hx]⟩
    | timestamp t => exact ⟨_, rfl⟩
    | date d => exact ⟨_, rfl⟩
  · refine .inr ⟨h, ?_⟩
    cases v with
    | scalar s =>
      cases s with
      | text s => exact absurd (.text s) h
      | bool b => exact absurd (.bool b) h
      | int n => exact absurd (.int n) h
      | float x =>
        rw [encode, if_neg fun hx => h (.float hx)]
        rfl
      | timestamp t => exact absurd (.timestamp t) h
      | date d => exact absurd (.date d) h
      | null => rfl
      | bytes bs => rfl
      | decimal spelling => rfl
    | list items => rfl
    | tuple items => rfl
    | set items => rfl
    | mapping entries => rfl
    | record attributes => rfl

theorem encode_eq_ok {v : Value} {w : WireValue} (h : encode v = .ok w) : HasForm v := by
  rcases encode_cases v with ⟨hv, _⟩ | ⟨_, hrefused⟩
  · exact hv
  · rw [hrefused] at h
    cases h

theorem encode_eq_error_iff {v : Value} {fault : Fault} :
    encode v = .error fault ↔ ¬ HasForm v ∧ fault = .unsupported (refusal v) := by
  rcases encode_cases v with ⟨hv, w, hw⟩ | ⟨hv, hrefused⟩
  · rw [hw]
    exact ⟨fun h => (by cases h), fun h => absurd hv h.1⟩
  · rw [hrefused]
    exact ⟨fun h => ⟨hv, (Except.error.inj h).symm⟩, fun h => congrArg Except.error h.2.symm⟩

end WireValue

namespace Slot

open WireValue

/-- **Slots hold the wire forms of all entities under their names, in their order.** -/
theorem ofEntries_eq_ok_iff {entries : List (Scalar × Value)} {slots : List Slot} :
    ofEntries entries = .ok slots ↔
      entries.map (fun (name, v) => (name, encode v)) =
        slots.map fun s => (s.name, .ok s.value) := by
  induction entries generalizing slots with
  | nil => cases slots <;> simp [ofEntries]
  | cons entry rest ih =>
    obtain ⟨name, v⟩ := entry
    constructor
    · intro h
      obtain ⟨value, hvalue, h⟩ := bind_eq_ok.mp h
      obtain ⟨slots', hslots, h⟩ := bind_eq_ok.mp h
      cases h
      simp only [List.map_cons, hvalue, ih.mp hslots]
    · intro h
      cases slots with
      | nil => cases h
      | cons slot slots =>
        obtain ⟨hslot, hslots⟩ := List.cons.inj h
        obtain ⟨hname, hvalue⟩ := Prod.mk.inj hslot
        refine bind_eq_ok.mpr ⟨slot.value, hvalue, bind_eq_ok.mpr ⟨slots, ih.mpr hslots, ?_⟩⟩
        show Except.ok (⟨name, slot.value⟩ :: slots) = .ok (slot :: slots)
        rw [show name = slot.name from hname]

/-- The value of a slot is the wire form of an entity. -/
theorem exists_encode_eq {entries : List (Scalar × Value)} {slots : List Slot}
    (h : ofEntries entries = .ok slots)
    {s : Slot} (hs : s ∈ slots) : ∃ v, encode v = .ok s.value := by
  have hmem : (s.name, Except.ok s.value) ∈
      slots.map fun s => (s.name, (.ok s.value : Except Fault WireValue)) :=
    List.mem_map.mpr ⟨s, hs, rfl⟩
  rw [← ofEntries_eq_ok_iff.mp h] at hmem
  obtain ⟨⟨name, v⟩, _, heq⟩ := List.mem_map.mp hmem
  exact ⟨v, (Prod.mk.inj heq).2⟩

/-- Entities have slots exactly if all have a wire form. -/
theorem exists_ofEntries_iff {entries : List (Scalar × Value)} :
    (∃ slots, ofEntries entries = .ok slots) ↔ ∀ e ∈ entries, HasForm e.2 := by
  induction entries with
  | nil => exact ⟨fun _ _ h => absurd h List.not_mem_nil, fun _ => ⟨[], rfl⟩⟩
  | cons entry rest ih =>
    obtain ⟨name, v⟩ := entry
    rw [List.forall_mem_cons, ← ih]
    constructor
    · rintro ⟨slots, h⟩
      obtain ⟨value, hvalue, h⟩ := bind_eq_ok.mp h
      obtain ⟨slots', hslots, _⟩ := bind_eq_ok.mp h
      exact ⟨encode_eq_ok hvalue, slots', hslots⟩
    · rintro ⟨hv, slots, hslots⟩
      rcases encode_cases v with ⟨_, value, hvalue⟩ | ⟨hno, _⟩
      · refine ⟨⟨name, value⟩ :: slots, bind_eq_ok.mpr ⟨value, hvalue, ?_⟩⟩
        exact bind_eq_ok.mpr ⟨slots, hslots, rfl⟩
      · exact absurd hv hno

/-- **The first entity without a wire form decides.** -/
theorem ofEntries_eq_error_iff {entries : List (Scalar × Value)} {fault : Fault} :
    ofEntries entries = .error fault ↔
      ∃ before name v after, entries = before ++ (name, v) :: after ∧ (∀ e ∈ before, HasForm e.2) ∧
        ¬ HasForm v ∧ fault = .unsupported (refusal v) := by
  induction entries with
  | nil =>
    constructor
    · intro h
      cases h
    · rintro ⟨before, name, v, after, h, _⟩
      cases before <;> cases h
  | cons entry rest ih =>
    obtain ⟨name, v⟩ := entry
    constructor
    · intro h
      -- Either this entity is refused, or it is encoded and one behind it is refused.
      rcases bind_eq_error.mp h with h | ⟨value, hvalue, h⟩
      · obtain ⟨hv, hfault⟩ := encode_eq_error_iff.mp h
        exact ⟨[], name, v, rest, rfl, fun _ h => absurd h List.not_mem_nil, hv, hfault⟩
      · rcases bind_eq_error.mp h with h | ⟨_, _, h⟩
        · obtain ⟨before, name', v', after, rfl, hbefore, hv, hfault⟩ := ih.mp h
          refine ⟨(name, v) :: before, name', v', after, rfl, ?_, hv, hfault⟩
          rw [List.forall_mem_cons]
          exact ⟨encode_eq_ok hvalue, hbefore⟩
        · cases h
    · rintro ⟨before, name', v', after, h, hbefore, hv, hfault⟩
      cases before with
      | nil =>
        cases h
        exact bind_eq_error.mpr (.inl (encode_eq_error_iff.mpr ⟨hv, hfault⟩))
      | cons first before =>
        cases h
        rw [List.forall_mem_cons] at hbefore
        rcases encode_cases v with ⟨_, value, hvalue⟩ | ⟨hno, _⟩
        · refine bind_eq_error.mpr (.inr ⟨value, hvalue, bind_eq_error.mpr (.inl ?_)⟩)
          exact ih.mpr ⟨before, name', v', after, rfl, hbefore.2, hv, hfault⟩
        · exact absurd hbefore.1 hno

/-- Entities are refused for one without a wire form, or because they are no mapping. -/
theorem ofEntities_eq_error {entities : Value} {fault : Fault} (h : ofEntities entities = .error fault) :
    (∃ m, fault = .unsupported m) ∨ fault = .mishap (.noAttribute entities.typeName "items") := by
  unfold ofEntities at h
  split at h
  · cases h
  · split at h
    · obtain ⟨_, _, _, _, _, _, _, hfault⟩ := ofEntries_eq_error_iff.mp h
      exact .inl ⟨_, hfault⟩
    · cases h
      exact .inr rfl

end Slot

end Phrasing
