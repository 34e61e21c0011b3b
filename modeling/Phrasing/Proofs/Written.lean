import Phrasing.Proofs.Documents
import Phrasing.Proofs.Slots
import Phrasing.Resolver

/-! # What is written as it stands

A mapping is written as it stands exactly if its keys are distinct texts and its values are written
as they stand (`sendable_mapping_self_iff`).  The wire form of an entity is, unless it is an integer
of too many digits (`sendable_toWire_self_iff`).
-/

namespace Phrasing

namespace Json

/-- Keys are written as texts. -/
theorem text_of_sendableKey {k k' : Scalar} (h : sendableKey k = .ok k') : ∃ s, k' = .text s := by
  have hplain : ∀ k : Scalar, (if k.isWritable then Except.ok (Scalar.text (keyText k))
      else .error (Mishap.tooManyDigits none)) = .ok k' → ∃ s, k' = .text s := by
    intro k h
    split at h
    · exact ⟨_, (Except.ok.inj h).symm⟩
    · cases h
  cases k with
  | null =>
    rw [sendableKey] at h
    exact hplain _ h
  | bool b =>
    rw [sendableKey] at h
    exact hplain _ h
  | int n =>
    rw [sendableKey] at h
    exact hplain _ h
  | text s =>
    rw [sendableKey] at h
    exact hplain _ h
  | float x =>
    rw [sendableKey] at h
    split at h
    · exact ⟨_, (Except.ok.inj h).symm⟩
    · cases h
  | bytes bs => cases h
  | date d => cases h
  | timestamp t => cases h
  | decimal spelling => cases h

/-- Entries are written one by one. -/
theorem sendableEntries_eq_ok {entries fields : List (Scalar × Value)}
    (h : sendableEntries entries = .ok fields) :
    (∀ e ∈ fields, ∃ s, e.1 = .text s) ∧
      (∀ names : List String, entries.map Prod.fst = names.map .text →
        fields.map Prod.fst = names.map .text) ∧
      entries.map (fun e => sendable e.2) = fields.map fun e => .ok e.2 := by
  induction entries generalizing fields with
  | nil =>
    cases h
    exact ⟨fun _ h => absurd h List.not_mem_nil, fun _ h => h, rfl⟩
  | cons entry rest ih =>
    obtain ⟨k, v⟩ := entry
    obtain ⟨k', hk, h⟩ := bind_eq_ok.mp h
    obtain ⟨v', hv, h⟩ := bind_eq_ok.mp h
    obtain ⟨fields', hrest, h⟩ := bind_eq_ok.mp h
    cases h
    obtain ⟨htexts, hnames, hvalues⟩ := ih hrest
    refine ⟨?_, ?_, ?_⟩
    · rw [List.forall_mem_cons]
      exact ⟨text_of_sendableKey hk, htexts⟩
    · intro names hkeys
      cases names with
      | nil => cases hkeys
      | cons name names =>
        obtain ⟨hname, hkeys⟩ := List.cons.inj hkeys
        rw [show k = .text name from hname] at hk
        cases hk
        exact congrArg (_ :: ·) (hnames names hkeys)
    · simp only [List.map_cons, hv, hvalues]

/-- Entries with distinct texts for keys, all written as they stand, are written as they stand. -/
theorem sendableEntries_self {entries : List (Scalar × Value)} {names : List String}
    (hnames : entries.map Prod.fst = names.map .text)
    (hvalues : ∀ e ∈ entries, sendable e.2 = .ok e.2) :
    sendableEntries entries = .ok entries := by
  induction entries generalizing names with
  | nil => rfl
  | cons entry rest ih =>
    obtain ⟨k, v⟩ := entry
    cases names with
    | nil => cases hnames
    | cons name names =>
      obtain ⟨hname, hrest⟩ := List.cons.inj hnames
      rw [List.forall_mem_cons] at hvalues
      cases show k = .text name from hname
      exact bind_eq_ok.mpr ⟨.text name, rfl, bind_eq_ok.mpr ⟨v, hvalues.1,
        bind_eq_ok.mpr ⟨rest, ih hrest hvalues.2, rfl⟩⟩⟩

theorem exists_texts {keys : List Scalar} (h : ∀ k ∈ keys, ∃ s, k = .text s) :
    ∃ names : List String, keys = names.map .text := by
  induction keys with
  | nil => exact ⟨[], rfl⟩
  | cons k rest ih =>
    rw [List.forall_mem_cons] at h
    obtain ⟨⟨name, rfl⟩, hrest⟩ := h
    obtain ⟨names, rfl⟩ := ih hrest
    exact ⟨name :: names, rfl⟩

/-- **A mapping is written as it stands** exactly if its keys are distinct texts and its values are
written as they stand. -/
theorem sendable_mapping_self_iff {entries : List (Scalar × Value)} :
    sendable (.mapping entries) = .ok (.mapping entries) ↔
      (∃ names : List String, names.Nodup ∧ entries.map Prod.fst = names.map .text) ∧
        ∀ e ∈ entries, sendable e.2 = .ok e.2 := by
  rw [sendable]
  constructor
  · intro h
    obtain ⟨fields, hfields, hentries⟩ := map_eq_ok.mp h
    have hentries : Entries.ofPairs fields = entries := Value.mapping.inj hentries
    obtain ⟨htexts, hkept, hvalues⟩ := sendableEntries_eq_ok hfields
    have hnodup : (entries.map Prod.fst).Nodup := hentries ▸ Entries.nodup_keys_ofPairs fields
    -- Keys are written as texts, so the keys of what was written are texts already.
    obtain ⟨names, hnames⟩ : ∃ names : List String, entries.map Prod.fst = names.map .text := by
      refine exists_texts fun k hk => ?_
      rw [← hentries] at hk
      obtain ⟨e, he, rfl⟩ := List.mem_map.mp (Entries.mem_keys_ofPairs hk)
      exact htexts e he
    -- Texts stay, and distinct ones are not written over: nothing was dropped.
    have hsame : fields = entries := by
      rw [← hentries, Entries.ofPairs_of_nodup]
      rw [hkept names hnames, ← hnames]
      exact hnodup
    rw [hnames] at hnodup
    rw [hsame] at hvalues
    exact ⟨⟨names, hnodup.of_map, hnames⟩, List.map_inj_left.mp hvalues⟩
  · rintro ⟨⟨names, hnodup, hnames⟩, hvalues⟩
    have hkeys : (entries.map Prod.fst).Nodup := by
      rw [hnames]
      exact hnodup.map fun _ _ h => Scalar.text.inj h
    rw [sendableEntries_self hnames hvalues]
    show Except.ok (Value.mapping (Entries.ofPairs entries)) = _
    rw [Entries.ofPairs_of_nodup hkeys]

theorem sendable_singleton (v : Value) :
    sendable (.list [v]) = (sendable v).map fun v => .list [v] := by
  rw [sendable, sendableItems]
  cases sendable v <;> rfl

theorem sendable_int {n : Int} (h : (Scalar.int n).isWritable = true) :
    sendable (.int n) = .ok (.int n) := by
  rw [sendable, sendableScalar, if_pos h]
  rfl

end Json

/-! ## Wire forms -/

namespace WireValue

open Json

/-- A wire form is written as it stands if its element is. -/
theorem sendable_form_self_iff {kind : WireKind} {element : Value} :
    sendable (form kind element) = .ok (form kind element) ↔ sendable element = .ok element := by
  have hnames : ["kind", kind.arrayKey].Nodup := by
    cases kind <;> decide
  have hcode : sendable (.int kind.code) = .ok (.int kind.code) := by
    refine sendable_int ?_
    cases kind <;> decide +kernel
  have hlist : sendable (.list [element]) = .ok (.list [element]) ↔
      sendable element = .ok element := by
    rw [sendable_singleton]
    cases sendable element with
    | error m => simp [Except.map]
    | ok v => simp [Except.map]
  refine sendable_mapping_self_iff.trans ⟨fun h => ?_, fun h => ⟨⟨_, hnames, rfl⟩, ?_⟩⟩
  · exact hlist.mp (h.2 _ (List.mem_cons_of_mem _ List.mem_cons_self))
  · intro e he
    rcases List.mem_cons.mp he with rfl | he
    · exact hcode
    · rcases List.mem_cons.mp he with rfl | he
      · exact hlist.mpr h
      · cases he

/-- **The wire form of an entity is written as it stands** unless it is an integer of too many
digits. -/
theorem sendable_toWire_self_iff {v : Value} {w : WireValue} (h : encode v = .ok w) :
    sendable w.toWire = .ok w.toWire ↔ ∀ n, w = .integer n → (Scalar.int n).isWritable = true := by
  unfold toWire
  rw [sendable_form_self_iff]
  cases encode_eq_ok h with
  | text s =>
    cases h
    exact ⟨fun _ n h => (by cases h), fun _ => sendable_text s⟩
  | bool b =>
    cases h
    refine ⟨fun _ n h => (by cases h), fun _ => ?_⟩
    show sendable (.bool b) = _
    rw [sendable]
    rfl
  | int n =>
    -- Only an integer can be too long to be written.
    cases h
    constructor
    · rintro h m ⟨⟩
      by_contra hlong
      rw [element, sendable, sendableScalar, if_neg hlong] at h
      cases h
    · intro h
      exact sendable_int (h n rfl)
  | float hx =>
    rw [encode, if_pos hx] at h
    cases h
    refine ⟨fun _ n h => (by cases h), fun _ => ?_⟩
    show sendable (.float _) = _
    rw [sendable, sendableScalar, if_pos hx]
    rfl
  | timestamp t =>
    cases h
    exact ⟨fun _ n h => (by cases h), fun _ => sendable_text _⟩
  | date d =>
    cases h
    exact ⟨fun _ n h => (by cases h), fun _ => sendable_text _⟩

end WireValue

namespace Resolver

/-! ## Documents -/

/-- The locale that the requests of a call state: that of the activity if it is not empty, or else
that of the options if there is one. -/
def statedLocale (r : Resolver) (a : Activity) : Option Value :=
  if a.locale.getD "" = "" then (if r.options.locale.isVacant then none else some r.options.locale)
  else some (.text (a.locale.getD ""))

/-- The document of the request for the phrase of a template: the application, the template, the
wire forms of all entities under their names, and the locale if one is stated. -/
def document (r : Resolver) (a : Activity) (slots : List Slot) (template : String) : Value :=
  .object ([("scenario", r.endpoint.app), ("templateId", .text template),
    ("slots", .mapping (slots.map fun s => (s.name, s.value.toWire)))] ++
    (r.statedLocale a).toList.map fun locale => ("locale", locale))

/-- The document is what the request of a call carries. -/
theorem payload_eq_document (r : Resolver) (a : Activity) (slots : List Slot) (template : String) :
    GenerationRequest.payload ⟨r.endpoint.app, template, r.localeOf (.activity a), slots⟩ =
      r.document a slots template := by
  have hlocale : (if (r.localeOf (.activity a)).isVacant then []
        else [("locale", r.localeOf (.activity a))]) =
      (r.statedLocale a).toList.map fun locale => ("locale", locale) := by
    have hstated : r.localeOf (.activity a) =
        if a.locale.getD "" = "" then r.options.locale else .text (a.locale.getD "") := by
      show (Value.ofText? a.locale).orElse r.options.locale = _
      cases a.locale with
      | none => rfl
      | some locale => simp [Value.ofText?, Value.orElse, Value.isVacant, Scalar.isVacant,
        String.isEmpty_iff]
    rw [hstated]
    unfold statedLocale
    by_cases hempty : a.locale.getD "" = ""
    · rw [if_pos hempty, if_pos hempty]
      split <;> rfl
    · have hstays : (Value.text (a.locale.getD "")).isVacant = false := by
        simpa [Value.isVacant, Scalar.isVacant, String.isEmpty_iff] using hempty
      rw [if_neg hempty, if_neg hempty, hstays]
      rfl
  unfold GenerationRequest.payload GenerationRequest.fields document Slot.toWire
  rw [hlocale]

/-- A document has nothing that JSON writes otherwise: the entities have distinct texts for names,
their integers are not too long, and the locale is written as it stands. -/
structure Plain (r : Resolver) (a : Activity) (slots : List Slot) : Prop where
  names : ∃ names : List String, names.Nodup ∧ slots.map (·.name) = names.map .text
  integers : ∀ s ∈ slots, ∀ n, s.value = .integer n → (Scalar.int n).isWritable = true
  locale : ∀ locale ∈ r.statedLocale a, Json.sendable locale = .ok locale

/-- **The document of a request is written as it stands** exactly if it is plain. -/
theorem sendable_document_self_iff {r : Resolver} {a : Activity} {slots : List Slot}
    {app template : String}
    (happ : r.endpoint.app = .text app) (hslots : ∃ entries, Slot.ofEntries entries = .ok slots) :
    Json.sendable (r.document a slots template) = .ok (r.document a slots template) ↔
      r.Plain a slots := by
  obtain ⟨entries, hslots⟩ := hslots
  have hkeys : ∃ names : List String, names.Nodup ∧
      ((([("scenario", r.endpoint.app), ("templateId", .text template),
        ("slots", .mapping (slots.map fun s => (s.name, s.value.toWire)))] ++
        (r.statedLocale a).toList.map fun locale => ("locale", locale)).map
          fun field => ((.text field.1, field.2) : Scalar × Value)).map Prod.fst) =
            names.map .text := by
    cases r.statedLocale a with
    | none => exact ⟨["scenario", "templateId", "slots"], by decide, rfl⟩
    | some locale => exact ⟨["scenario", "templateId", "slots", "locale"], by decide, rfl⟩
  have hwires : Json.sendable (.mapping (slots.map fun s => (s.name, s.value.toWire))) =
      .ok (.mapping (slots.map fun s => (s.name, s.value.toWire))) ↔
      (∃ names : List String, names.Nodup ∧ slots.map (·.name) = names.map .text) ∧
        ∀ s ∈ slots, ∀ n, s.value = .integer n → (Scalar.int n).isWritable = true := by
    rw [Json.sendable_mapping_self_iff, List.map_map, List.forall_mem_map]
    refine and_congr Iff.rfl (forall₂_congr fun s hs => ?_)
    obtain ⟨v, hv⟩ := Slot.exists_encode_eq hslots hs
    exact WireValue.sendable_toWire_self_iff hv
  unfold document Value.object
  rw [Json.sendable_mapping_self_iff, List.forall_mem_map]
  rw [happ] at hkeys ⊢
  simp only [List.forall_mem_append, List.forall_mem_cons, List.forall_mem_map, Json.sendable_text,
    hwires, Option.mem_toList]
  constructor
  · rintro ⟨_, ⟨_, _, ⟨hnames, hintegers⟩, _⟩, hlocale⟩
    exact ⟨hnames, hintegers, hlocale⟩
  · rintro ⟨hnames, hintegers, hlocale⟩
    exact ⟨hkeys, ⟨trivial, trivial, ⟨hnames, hintegers⟩, fun _ h => absurd h List.not_mem_nil⟩,
      hlocale⟩

end Resolver

end Phrasing
