import Phrasing.Proofs.JsonValues
import Phrasing.Proofs.LooseSubject

/-! # Activities that are accepted

An object of JSON that is accepted as an activity is accepted wherever it comes from
(`Activity.ofValue_of_accepted`), and the activity is written as an object of JSON again
(`Activity.IsJson.toWire`): its unknown fields have distinct names, and none of them is the name under which a
known field is written.  Filling the activity in keeps this, and does not change how deep its written form is.
-/

namespace Phrasing

/-! ## Checks that pass -/

namespace Checked

variable {α β : Type}

theorem and_eq_ok {f : Checked (α → β)} {x : Checked α} {b : β} :
    f.and x = .ok b ↔ ∃ g a, f = .ok g ∧ x = .ok a ∧ g a = b := by
  cases f <;> cases x <;> simp [Checked.and]

theorem under_eq_ok {step : Step} {x : Checked α} {a : α} : x.under step = .ok a ↔ x = .ok a :=
  mapError_eq_ok

/-- The items of a list pass exactly if each one does. -/
theorem items_eq_ok {check : Value → Checked α} {vs : List Value} {as : List α} (i : Nat) :
    items check i vs = .ok as ↔ List.Forall₂ (fun v a => check v = .ok a) vs as := by
  induction vs generalizing as i with
  | nil =>
    rw [List.forall₂_nil_left_iff]
    exact ⟨fun h => (Except.ok.inj h).symm, fun h => congrArg Except.ok h.symm⟩
  | cons v vs ih =>
    rw [items, and_eq_ok]
    constructor
    · rintro ⟨_, rest, hv, hrest, rfl⟩
      obtain ⟨a, ha, rfl⟩ := map_eq_ok.mp hv
      exact .cons (under_eq_ok.mp ha) ((ih (i + 1)).mp hrest)
    · intro h
      cases h with
      | @cons _ a _ rest ha hrest =>
        exact ⟨_, rest, map_eq_ok.mpr ⟨a, under_eq_ok.mpr ha, rfl⟩, (ih (i + 1)).mpr hrest, rfl⟩

end Checked

namespace Activity

open Checked

section Passing

variable {α : Type} {check check' : Value → Checked α}

/-- What passes one check passes the other. -/
def Admits (check check' : Value → Checked α) : Prop :=
  ∀ v a, check v = .ok a → check' v = .ok a

/-- Null passes for nothing, and anything else for what it passes as by itself. -/
theorem checkOptional_eq_ok {v : Value} {a : Option α} :
    checkOptional check v = .ok a ↔
      v = .null ∧ a = none ∨ v ≠ .null ∧ ∃ b, check v = .ok b ∧ a = some b := by
  unfold checkOptional
  split
  · simp [eq_comm]
  · rename_i hne
    rw [map_eq_ok]
    constructor
    · rintro ⟨b, hb, rfl⟩
      exact .inr ⟨hne, b, hb, rfl⟩
    · rintro (⟨hnull, _⟩ | ⟨_, b, hb, rfl⟩)
      · exact absurd hnull hne
      · exact ⟨b, hb, rfl⟩

theorem Admits.optional (h : Admits check check') :
    Admits (checkOptional check) (checkOptional check') := by
  intro v a hv
  rcases checkOptional_eq_ok.mp hv with hnull | ⟨hne, b, hb, ha⟩
  · exact checkOptional_eq_ok.mpr (.inl hnull)
  · exact checkOptional_eq_ok.mpr (.inr ⟨hne, b, h v b hb, ha⟩)

theorem Admits.items (h : Admits check check') : Admits (checkItems check) (checkItems check') := by
  have hall : ∀ vs as, Checked.items check 0 vs = .ok as → Checked.items check' 0 vs = .ok as :=
    fun vs as hvs => (items_eq_ok 0).mpr (((items_eq_ok 0).mp hvs).imp fun v a => h v a)
  intro v as hv
  cases v with
  | list vs | tuple vs | set vs => exact hall vs as hv
  | scalar | mapping | record => cases hv

theorem Admits.field (h : Admits check check') (entries : List (Scalar × Value)) (spellings : List String)
    (default a : α) (hfield : checkField entries spellings default check = .ok a) :
    checkField entries spellings default check' = .ok a := by
  unfold checkField at hfield ⊢
  split
  · rename_i hused
    rw [hused] at hfield
    exact under_eq_ok.mpr (h _ a (under_eq_ok.mp hfield))
  · rename_i hused
    rw [hused] at hfield
    exact hfield

end Passing

/-! ## What is read of an object -/

section Reading

variable {origin : Origin} {entries : List (Scalar × Value)}

/-- An action is read from an object field by field. -/
structure ReadAction (entries : List (Scalar × Value)) (c : CardAction) : Prop where
  type : checkField entries ["type"] none (checkOptional checkText) = .ok c.type
  title : checkField entries ["title"] none (checkOptional checkText) = .ok c.title
  value : checkField entries ["value"] .null .ok = .ok c.value
  text : checkField entries ["text"] none (checkOptional checkText) = .ok c.text
  displayText : checkField entries ["displayText", "display_text"] none (checkOptional checkText) =
    .ok c.displayText
  extra : checkExtra entries actionSpellings = .ok c.extra

theorem checkAction_eq_ok {c : CardAction} :
    checkAction origin (.mapping entries) = .ok c ↔ ReadAction entries c := by
  constructor
  · intro h
    simp only [checkAction, and_eq_ok] at h
    obtain ⟨_, extra, ⟨_, displayText, ⟨_, text, ⟨_, value, ⟨_, title, ⟨_, type, hmade, htype, rfl⟩, htitle,
      rfl⟩, hvalue, rfl⟩, htext, rfl⟩, hdisplayText, rfl⟩, hextra, rfl⟩ := h
    cases hmade
    exact ⟨htype, htitle, hvalue, htext, hdisplayText, hextra⟩
  · intro h
    simp only [checkAction, h.type, h.title, h.value, h.text, h.displayText, h.extra]
    rfl

/-- Suggestions are read from an object field by field. -/
structure ReadSuggestions (origin : Origin) (entries : List (Scalar × Value)) (s : SuggestedActions) :
    Prop where
  recipients : checkField entries ["to"] [] (checkItems checkText) = .ok s.recipients
  actions : checkField entries ["actions"] [] (checkItems (checkAction origin)) = .ok s.actions
  extra : checkExtra entries [["to"], ["actions"]] = .ok s.extra

theorem checkSuggestions_eq_ok {s : SuggestedActions} :
    checkSuggestions origin (.mapping entries) = .ok s ↔ ReadSuggestions origin entries s := by
  constructor
  · intro h
    simp only [checkSuggestions, and_eq_ok] at h
    obtain ⟨_, extra, ⟨_, actions, ⟨_, recipients, hmade, hrecipients, rfl⟩, hactions, rfl⟩, hextra, rfl⟩ := h
    cases hmade
    exact ⟨hrecipients, hactions, hextra⟩
  · intro h
    simp only [checkSuggestions, h.recipients, h.actions, h.extra]
    rfl

/-- An activity is read from an object field by field. -/
structure ReadActivity (origin : Origin) (entries : List (Scalar × Value)) (a : Activity) : Prop where
  type : checkField entries ["type"] "message" checkText = .ok a.type
  text : checkField entries ["text"] none (checkOptional checkText) = .ok a.text
  speak : checkField entries ["speak"] none (checkOptional checkText) = .ok a.speak
  locale : checkField entries ["locale"] none (checkOptional checkText) = .ok a.locale
  suggested : checkField entries ["suggestedActions", "suggested_actions"] none
    (checkOptional (checkSuggestions origin)) = .ok a.suggestedActions
  extra : checkExtra entries spellings = .ok a.extra

theorem ofValue_eq_ok {a : Activity} :
    ofValue origin (.mapping entries) = .ok a ↔ ReadActivity origin entries a := by
  constructor
  · intro h
    simp only [ofValue, and_eq_ok] at h
    obtain ⟨_, extra, ⟨_, suggested, ⟨_, locale, ⟨_, speak, ⟨_, text, ⟨_, type, hmade, htype, rfl⟩, htext, rfl⟩,
      hspeak, rfl⟩, hlocale, rfl⟩, hsuggested, rfl⟩, hextra, rfl⟩ := h
    cases hmade
    exact ⟨htype, htext, hspeak, hlocale, hsuggested, hextra⟩
  · intro h
    simp only [ofValue, h.type, h.text, h.speak, h.locale, h.suggested, h.extra]
    rfl

end Reading

/-! ## Wherever an activity comes from -/

theorem admits_action (origin origin' : Origin) : Admits (checkAction origin) (checkAction origin') := by
  intro v a h
  cases v with
  | mapping entries => exact h
  | scalar | list | tuple | set | record => cases h

theorem admits_suggestions (origin origin' : Origin) :
    Admits (checkSuggestions origin) (checkSuggestions origin') := by
  intro v s h
  cases v with
  | mapping entries =>
    have hread := checkSuggestions_eq_ok.mp h
    have hactions := (admits_action origin origin').items.field _ _ _ _ hread.actions
    exact checkSuggestions_eq_ok.mpr ⟨hread.recipients, hactions, hread.extra⟩
  | scalar | list | tuple | set | record => cases h

/-- **What is accepted as an activity** is accepted wherever it comes from. -/
theorem ofValue_of_accepted {origin : Origin} {v : Value} {a : Activity} (h : ofValue origin v = .ok a)
    (origin' : Origin) : ofValue origin' v = .ok a := by
  cases v with
  | mapping entries =>
    have hread := ofValue_eq_ok.mp h
    have hsuggested := (admits_suggestions origin origin').optional.field _ _ _ _ hread.suggested
    exact ofValue_eq_ok.mpr
      ⟨hread.type, hread.text, hread.speak, hread.locale, hsuggested, hread.extra⟩
  | scalar | list | tuple | set | record => cases h

/-! ## Fields of objects of JSON -/

/-- The entry under a text in an object is its field of that name. -/
theorem get?_fields (name : String) (fields : List (String × Value)) :
    Entries.get? (.text name) (fields.map fun (name, v) => (Scalar.text name, v)) =
      Entries.get? name fields := by
  induction fields with
  | nil => rfl
  | cons f fields ih =>
    obtain ⟨other, v⟩ := f
    rw [List.map_cons, Entries.get?_cons, Entries.get?_cons, ih]
    by_cases hname : other = name
    · rw [if_pos hname, if_pos (congrArg Scalar.text hname)]
    · rw [if_neg hname, if_neg fun h => hname (Scalar.text.inj h)]

/-- The names under which the fields of a model are taken from an object. -/
def usedNames (fields : List (String × Value)) (spellings : List (List String)) : List String :=
  spellings.filterMap fun names =>
    (usedKey? (fields.map fun (name, v) => (Scalar.text name, v)) names).map Prod.fst

/-- The unknown fields of an object are those that no field is taken from. -/
theorem checkExtra_object (fields : List (String × Value)) (spellings : List (List String)) :
    checkExtra (fields.map fun (name, v) => (Scalar.text name, v)) spellings =
      .ok (fields.filter fun f => !(usedNames fields spellings).contains f.1) := by
  unfold checkExtra
  dsimp only
  split
  · refine congrArg Except.ok ?_
    rw [List.filterMap_map, ← List.filterMap_eq_filter]
    refine List.filterMap_congr fun f _ => ?_
    show (if (usedNames fields spellings).contains f.1 then none else some f) = _
    cases hused : (usedNames fields spellings).contains f.1 <;> simp only [Option.guard, hused] <;> rfl
  · -- A field has a text for its key, so there is nothing wrong with it.
    rename_i hflaws
    refine absurd (List.isEmpty_iff.mpr (List.filterMap_eq_nil_iff.mpr fun e he => ?_)) hflaws
    obtain ⟨f, _, rfl⟩ := List.mem_map.mp he
    rfl

/-- A field whose written name is there is taken from it. -/
theorem mem_usedNames {fields : List (String × Value)} {spellings : List (List String)} {name : String}
    {others : List String} (hspelling : name :: others ∈ spellings) (hname : name ∈ fields.map Prod.fst) :
    name ∈ usedNames fields spellings := by
  refine List.mem_filterMap.mpr ⟨_, hspelling, ?_⟩
  cases hget : Entries.get? name fields with
  | none => exact absurd hname (Entries.get?_eq_none_iff.mp hget)
  | some v =>
    have hused : usedKey? (fields.map fun (name, v) => (Scalar.text name, v)) (name :: others) =
        some (name, v) := by
      unfold usedKey?
      rw [List.findSome?_cons, get?_fields, hget]
      rfl
    rw [hused]
    rfl

end Activity

/-- The unknown fields of an object that is accepted are those of an object with texts for keys. -/
theorem Activity.exists_fields {entries : List (Scalar × Value)} {spellings : List (List String)}
    {extra : List (String × Value)} (h : checkExtra entries spellings = .ok extra) :
    ∃ fields : List (String × Value), entries = fields.map fun (name, v) => (Scalar.text name, v) := by
  have htexts : ∀ e ∈ entries, ∃ name, e.1 = .text name := by
    unfold checkExtra at h
    dsimp only at h
    split at h
    · rename_i hflaws
      intro e he
      have hnone := List.filterMap_eq_nil_iff.mp (List.isEmpty_iff.mp hflaws) e he
      split at hnone
      · rename_i name hname
        exact ⟨name, hname⟩
      · cases hnone
    · cases h
  clear h
  induction entries with
  | nil => exact ⟨[], rfl⟩
  | cons e entries ih =>
    obtain ⟨k, v⟩ := e
    obtain ⟨⟨name, hname⟩, hrest⟩ := List.forall_mem_cons.mp htexts
    cases hname
    obtain ⟨fields, rfl⟩ := ih hrest
    exact ⟨(name, v) :: fields, rfl⟩

/-- Unknown fields that are apart from the known ones: their names are distinct, and none is the written
name of a known field. -/
structure Apart (known : List String) (extra : List (String × Value)) : Prop where
  nodup : (extra.map Prod.fst).Nodup
  notMem : ∀ name ∈ known, name ∉ extra.map Prod.fst

/-- Known and unknown fields together have distinct names. -/
theorem Apart.nodup_append {known extra : List (String × Value)} (hextra : Apart (known.map Prod.fst) extra)
    (hnodup : (known.map Prod.fst).Nodup) : ((known ++ extra).map Prod.fst).Nodup := by
  rw [List.map_append]
  refine List.nodup_append.mpr ⟨hnodup, hextra.nodup, ?_⟩
  rintro name hname _ hname' rfl
  exact hextra.notMem name hname hname'

theorem Apart.of_checkExtra {entries : List (Scalar × Value)} {extra : List (String × Value)}
    {spellings : List (List String)} (hnodup : (entries.map Prod.fst).Nodup)
    (h : Activity.checkExtra entries spellings = .ok extra) : Apart (spellings.filterMap List.head?) extra := by
  obtain ⟨fields, rfl⟩ := Activity.exists_fields h
  rw [List.map_map] at hnodup
  have hfields : (fields.map Prod.fst).Nodup := by
    refine List.Nodup.of_map Scalar.text ?_
    rwa [List.map_map]
  rw [Activity.checkExtra_object] at h
  cases h
  refine ⟨hfields.sublist (List.filter_sublist.map Prod.fst), fun name hknown hname => ?_⟩
  obtain ⟨spelling, hspelling, hhead⟩ := List.mem_filterMap.mp hknown
  obtain ⟨f, hf, rfl⟩ := List.mem_map.mp hname
  obtain ⟨hmem, hunused⟩ := List.mem_filter.mp hf
  cases spelling with
  | nil => cases hhead
  | cons first others =>
    cases hhead
    have hused := Activity.mem_usedNames hspelling (List.mem_map_of_mem hmem)
    rw [List.contains_iff_mem.mpr hused] at hunused
    cases hunused

/-- Unknown fields of an object of JSON: they are apart from the known ones, and of JSON themselves. -/
structure Unknown (known : List String) (extra : List (String × Value)) : Prop extends Apart known extra where
  isJson : ∀ f ∈ extra, f.2.IsJson

theorem Unknown.of_checkExtra {fields extra : List (String × Value)} {spellings : List (List String)}
    (hnodup : (fields.map Prod.fst).Nodup) (hjson : ∀ f ∈ fields, f.2.IsJson)
    (h : Activity.checkExtra (fields.map fun (name, v) => (Scalar.text name, v)) spellings = .ok extra) :
    Unknown (spellings.filterMap List.head?) extra := by
  have hkeys : ((fields.map fun (name, v) => (Scalar.text name, v)).map Prod.fst).Nodup := by
    have htexts := hnodup.map (f := Scalar.text) fun _ _ h => Scalar.text.inj h
    rwa [List.map_map] at htexts ⊢
  refine ⟨Apart.of_checkExtra hkeys h, ?_⟩
  rw [Activity.checkExtra_object] at h
  cases h
  exact fun f hf => hjson f (List.mem_of_mem_filter hf)

/-- An object of known and of unknown fields is an object of JSON, also without those that are null. -/
theorem Unknown.isJson_object {known extra : List (String × Value)} (hextra : Unknown (known.map Prod.fst) extra)
    (hnodup : (known.map Prod.fst).Nodup) (hjson : ∀ f ∈ known, f.2.IsJson) :
    (Written.present.object (known ++ extra)).IsJson := by
  refine .object ((hextra.nodup_append hnodup).sublist (List.filter_sublist.map Prod.fst)) fun f hf => ?_
  rcases List.mem_append.mp (List.mem_of_mem_filter hf) with hf | hf
  · exact hjson f hf
  · exact hextra.isJson f hf

/-! ## Activities of JSON -/

/-- The items of a value of JSON are of JSON. -/
theorem Value.IsJson.of_mem_itemsIn {v w : Value} (h : v.IsJson) (hw : w ∈ Loose.itemsIn v) : w.IsJson := by
  cases h with
  | list hitems => exact hitems w hw
  | scalar | object => cases hw

/-- An action whose value and unknown fields are of JSON. -/
structure CardAction.IsJson (c : CardAction) : Prop where
  value : c.value.IsJson
  extra : Unknown ["type", "title", "value", "text", "displayText"] c.extra

/-- Suggestions whose actions and unknown fields are of JSON. -/
structure SuggestedActions.IsJson (s : SuggestedActions) : Prop where
  actions : ∀ c ∈ s.actions, c.IsJson
  extra : Unknown ["to", "actions"] s.extra

/-- An activity whose suggestions and unknown fields are of JSON. -/
structure Activity.IsJson (a : Activity) : Prop where
  suggested : ∀ s, a.suggestedActions = some s → s.IsJson
  extra : Unknown ["type", "text", "speak", "locale", "suggestedActions"] a.extra

/-- An action of JSON is written as an object of JSON. -/
theorem CardAction.IsJson.toValue {c : CardAction} (h : c.IsJson) : (c.toValue .present).IsJson := by
  refine @Unknown.isJson_object [("type", .ofText? c.type), ("title", .ofText? c.title), ("value", c.value),
    ("text", .ofText? c.text), ("displayText", .ofText? c.displayText)] _ h.extra ?_ ?_
  · exact (by decide : ["type", "title", "value", "text", "displayText"].Nodup)
  · simp only [List.forall_mem_cons]
    exact ⟨Value.isJson_ofText? _, Value.isJson_ofText? _, h.value, Value.isJson_ofText? _,
      Value.isJson_ofText? _, fun _ hf => absurd hf List.not_mem_nil⟩

/-- Suggestions of JSON are written as an object of JSON. -/
theorem SuggestedActions.IsJson.toValue {s : SuggestedActions} (h : s.IsJson) : (s.toValue .present).IsJson := by
  have hactions : (Value.list (s.actions.map (·.toValue .present))).IsJson := by
    refine .list fun v hv => ?_
    obtain ⟨c, hc, rfl⟩ := List.mem_map.mp hv
    exact (h.actions c hc).toValue
  refine @Unknown.isJson_object [("to", .texts s.recipients),
    ("actions", .list (s.actions.map (·.toValue .present)))] _ h.extra ?_ ?_
  · exact (by decide : ["to", "actions"].Nodup)
  · simp only [List.forall_mem_cons]
    exact ⟨Value.isJson_texts _, hactions, fun _ hf => absurd hf List.not_mem_nil⟩

/-- **The written form of an activity of JSON** is an object of JSON. -/
theorem Activity.IsJson.toWire {a : Activity} (h : a.IsJson) : a.toWire.IsJson := by
  have hsuggested :
      ((a.suggestedActions.map (SuggestedActions.toValue .present)).getD Value.null).IsJson := by
    cases hs : a.suggestedActions with
    | none => exact Value.isJson_null
    | some s => exact (h.suggested s hs).toValue
  refine @Unknown.isJson_object [("type", .text a.type), ("text", .ofText? a.text),
    ("speak", .ofText? a.speak), ("locale", .ofText? a.locale),
    ("suggestedActions", (a.suggestedActions.map (SuggestedActions.toValue .present)).getD .null)] _ h.extra ?_ ?_
  · exact (by decide : ["type", "text", "speak", "locale", "suggestedActions"].Nodup)
  · simp only [List.forall_mem_cons]
    exact ⟨Value.isJson_text _, Value.isJson_ofText? _, Value.isJson_ofText? _, Value.isJson_ofText? _,
      hsuggested, fun _ hf => absurd hf List.not_mem_nil⟩

namespace Activity

open Checked

/-- What a field of an object is read as was checked, or is the default. -/
theorem checkField_eq_ok {α : Type} {P : Value → Prop} {entries : List (Scalar × Value)}
    {spellings : List String} {default a : α} {check : Value → Checked α} (hvalues : ∀ e ∈ entries, P e.2)
    (h : checkField entries spellings default check = .ok a) :
    a = default ∨ ∃ v, P v ∧ check v = .ok a := by
  unfold checkField at h
  split at h
  · rename_i name v hused
    obtain ⟨key, _, hget⟩ := List.exists_of_findSome?_eq_some hused
    obtain ⟨_, hget, hv⟩ := Option.map_eq_some_iff.mp hget
    cases hv
    exact .inr ⟨v, hvalues _ (Entries.mem_of_get? hget), under_eq_ok.mp h⟩
  · exact .inl (Except.ok.inj h).symm

/-- A collection passes exactly if each of its items does. -/
theorem forall₂_of_checkItems {α : Type} {v : Value} {as : List α} {check : Value → Checked α}
    (h : checkItems check v = .ok as) :
    List.Forall₂ (fun w a => check w = .ok a) (Loose.itemsIn v) as := by
  cases v with
  | list vs | tuple vs | set vs => exact (items_eq_ok 0).mp h
  | scalar | mapping | record => cases h

/-- What a collection is read as was made of its items. -/
theorem checkItems_eq_ok {α : Type} {v : Value} {as : List α} {check : Value → Checked α}
    (h : checkItems check v = .ok as) : ∀ a ∈ as, ∃ w ∈ Loose.itemsIn v, check w = .ok a := by
  have hpass := forall₂_of_checkItems h
  intro a ha
  obtain ⟨i, hi, rfl⟩ := List.mem_iff_getElem.mp ha
  have hlength := hpass.length_eq
  exact ⟨(Loose.itemsIn v)[i], List.getElem_mem _, hpass.get (hlength ▸ hi) hi⟩

/-- An action that was read was an item of what the object held for its actions. -/
theorem exists_of_mem_actions {origin : Origin} {P : Value → Prop} {entries : List (Scalar × Value)}
    {s : SuggestedActions} (hvalues : ∀ e ∈ entries, P e.2) (h : ReadSuggestions origin entries s)
    {c : CardAction} (hc : c ∈ s.actions) :
    ∃ v, P v ∧ ∃ w ∈ Loose.itemsIn v, checkAction origin w = .ok c := by
  rcases checkField_eq_ok hvalues h.actions with hnone | ⟨v, hv, hcheck⟩
  · rw [hnone] at hc
    cases hc
  · exact ⟨v, hv, checkItems_eq_ok hcheck c hc⟩

/-- Suggestions that were read were what the object held for them. -/
theorem exists_of_suggested {origin : Origin} {P : Value → Prop} {entries : List (Scalar × Value)}
    {a : Activity} (hvalues : ∀ e ∈ entries, P e.2) (h : ReadActivity origin entries a)
    {s : SuggestedActions} (hs : a.suggestedActions = some s) :
    ∃ v, P v ∧ checkSuggestions origin v = .ok s := by
  have hread := h.suggested
  rw [hs] at hread
  rcases checkField_eq_ok hvalues hread with hnone | ⟨v, hv, hcheck⟩
  · cases hnone
  · rcases checkOptional_eq_ok.mp hcheck with ⟨_, hnone⟩ | ⟨_, s', hs', hsome⟩
    · cases hnone
    · cases hsome
      exact ⟨v, hv, hs'⟩

/-- The values of fields are those of the entries. -/
theorem isJson_entries {fields : List (String × Value)} (h : ∀ f ∈ fields, f.2.IsJson) :
    ∀ e ∈ fields.map fun (name, v) => (Scalar.text name, v), e.2.IsJson := by
  intro e he
  obtain ⟨f, hf, rfl⟩ := List.mem_map.mp he
  exact h f hf

/-- An object of JSON is read as an action of JSON. -/
theorem isJson_of_checkAction {origin : Origin} {v : Value} {c : CardAction} (hjson : v.IsJson)
    (h : checkAction origin v = .ok c) : c.IsJson := by
  cases hjson with
  | @object fields hnames hfields =>
    have hread := checkAction_eq_ok.mp h
    refine ⟨?_, Unknown.of_checkExtra hnames hfields hread.extra⟩
    rcases checkField_eq_ok (isJson_entries hfields) hread.value with hnull | ⟨v, hv, hcheck⟩
    · rw [hnull]
      exact Value.isJson_null
    · rwa [← Except.ok.inj hcheck]
  | scalar | list => cases h

/-- An object of JSON is read as suggestions of JSON. -/
theorem isJson_of_checkSuggestions {origin : Origin} {v : Value} {s : SuggestedActions} (hjson : v.IsJson)
    (h : checkSuggestions origin v = .ok s) : s.IsJson := by
  cases hjson with
  | @object fields hnames hfields =>
    have hread := checkSuggestions_eq_ok.mp h
    refine ⟨fun c hc => ?_, Unknown.of_checkExtra hnames hfields hread.extra⟩
    obtain ⟨v, hv, w, hw, haction⟩ := exists_of_mem_actions (isJson_entries hfields) hread hc
    exact isJson_of_checkAction (hv.of_mem_itemsIn hw) haction
  | scalar | list => cases h

/-- **An object of JSON that is accepted** is read as an activity of JSON. -/
theorem isJson_of_ofValue {origin : Origin} {v : Value} {a : Activity} (hjson : v.IsJson)
    (h : ofValue origin v = .ok a) : a.IsJson := by
  cases hjson with
  | @object fields hnames hfields =>
    have hread := ofValue_eq_ok.mp h
    refine ⟨fun s hs => ?_, Unknown.of_checkExtra hnames hfields hread.extra⟩
    obtain ⟨v, hv, hcheck⟩ := exists_of_suggested (isJson_entries hfields) hread hs
    exact isJson_of_checkSuggestions hv hcheck
  | scalar | list => cases h

/-! ## Filling in -/

/-- Filling in keeps an activity of JSON one. -/
theorem IsJson.fill {a : Activity} (h : a.IsJson) (table : Reference.Table) : (a.fill table).IsJson := by
  refine ⟨fun s hs => ?_, h.extra⟩
  obtain ⟨s', hs', rfl⟩ := Option.map_eq_some_iff.mp hs
  refine ⟨fun c hc => ?_, (h.suggested s' hs').extra⟩
  obtain ⟨c', hc', rfl⟩ := List.mem_map.mp hc
  exact ⟨((h.suggested s' hs').actions c' hc').value, ((h.suggested s' hs').actions c' hc').extra⟩

end Activity

/-- Two values that are null or not together, and have the same depth. -/
structure Value.Alike (v w : Value) : Prop where
  isNull : v.isNull = w.isNull
  depth : Gateway.depth v = Gateway.depth w

theorem Value.Alike.refl (v : Value) : v.Alike v := ⟨rfl, rfl⟩

theorem Value.alike_ofText? (fill : String → String) (s : Option String) :
    (Value.ofText? (s.map fill)).Alike (Value.ofText? s) := by
  cases s with
  | none => exact Alike.refl _
  | some s => exact ⟨rfl, rfl⟩

/-- Objects with alike fields are written with the same depth. -/
theorem Value.depth_object {fields fields' : List (String × Value)}
    (h : List.Forall₂ (fun f f' => f.2.Alike f'.2) fields fields') :
    Gateway.depth (Written.present.object fields) = Gateway.depth (Written.present.object fields') := by
  have hfields : Gateway.depthOfEntries ((fields.filter fun (_, v) => !v.isNull).map
        fun (name, v) => (Scalar.text name, v)) =
      Gateway.depthOfEntries ((fields'.filter fun (_, v) => !v.isNull).map
        fun (name, v) => (Scalar.text name, v)) := by
    induction h with
    | nil => rfl
    | @cons f f' rest rest' hf _ ih =>
      obtain ⟨name, v⟩ := f
      obtain ⟨name', v'⟩ := f'
      have hnull : v.isNull = v'.isNull := hf.isNull
      have hdepth : Gateway.depth v = Gateway.depth v' := hf.depth
      cases hv : v'.isNull with
      | true =>
        rw [List.filter_cons_of_neg (by simp [hnull, hv]), List.filter_cons_of_neg (by simp [hv])]
        exact ih
      | false =>
        rw [List.filter_cons_of_pos (by simp [hnull, hv]), List.filter_cons_of_pos (by simp [hv]),
          List.map_cons, List.map_cons, Gateway.depthOfEntries, Gateway.depthOfEntries, hdepth, ih]
  exact congrArg (· + 1) hfields

namespace Activity

theorem alike_extra (extra : List (String × Value)) :
    List.Forall₂ (fun f f' : String × Value => f.2.Alike f'.2) extra extra :=
  List.forall₂_same.mpr fun f _ => Value.Alike.refl f.2

/-- Filling an action in does not change how deep its written form is. -/
theorem depth_fillAction (table : Reference.Table) (c : CardAction) :
    Gateway.depth ((c.fill table).toValue .present) = Gateway.depth (c.toValue .present) :=
  Value.depth_object (.cons (.refl _) (.cons (.refl _) (.cons (.refl _) (.cons (Value.alike_ofText? _ _)
    (.cons (Value.alike_ofText? _ _) (alike_extra c.extra))))))

theorem depth_fillSuggestions (table : Reference.Table) (s : SuggestedActions) :
    Gateway.depth ((s.fill table).toValue .present) = Gateway.depth (s.toValue .present) := by
  have hactions : ∀ actions : List CardAction,
      Gateway.depthOfItems ((actions.map (·.fill table)).map (·.toValue .present)) =
        Gateway.depthOfItems (actions.map (·.toValue .present)) := by
    intro actions
    induction actions with
    | nil => rfl
    | cons c actions ih =>
      rw [List.map_cons, List.map_cons, List.map_cons, Gateway.depthOfItems, Gateway.depthOfItems,
        depth_fillAction, ih]
  exact Value.depth_object (.cons (.refl _) (.cons ⟨rfl, congrArg (· + 1) (hactions s.actions)⟩
    (alike_extra s.extra)))

/-- **Filling an activity in** does not change how deep its written form is. -/
theorem depth_toWire_fill (table : Reference.Table) (a : Activity) :
    Gateway.depth (a.fill table).toWire = Gateway.depth a.toWire := by
  have hsuggested : (((a.suggestedActions.map (·.fill table)).map
      (SuggestedActions.toValue .present)).getD Value.null).Alike
      ((a.suggestedActions.map (SuggestedActions.toValue .present)).getD Value.null) := by
    cases a.suggestedActions with
    | none => exact .refl _
    | some s => exact ⟨rfl, depth_fillSuggestions table s⟩
  exact Value.depth_object (.cons (.refl _) (.cons (Value.alike_ofText? _ _) (.cons (Value.alike_ofText? _ _)
    (.cons (.refl _) (.cons hsuggested (alike_extra a.extra))))))

end Activity

end Phrasing
