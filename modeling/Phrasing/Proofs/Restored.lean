import Phrasing.Proofs.Accepted

/-! # Activities read back from their written form

The written form of an activity leaves out every field that is null, the unknown ones included.  So
an unknown field that is null is lost when the form is read back; and where a known field with two
spellings is null, an unknown field under its plain name is taken for it.  Apart from that nothing
is lost: an activity whose unknown fields are not null, and do not go by the plain name of a known
field that is null, is read back as it was, and no other is (`Activity.ofValue_toWire`).
-/

namespace Phrasing

/-! ## Values whose mappings have distinct keys -/

/-- A value in which no mapping has a key twice. -/
inductive Value.Keyed : Value → Prop where
  | scalar (s : Scalar) : Keyed (.scalar s)
  | list {items : List Value} (h : ∀ v ∈ items, Keyed v) : Keyed (.list items)
  | tuple {items : List Value} (h : ∀ v ∈ items, Keyed v) : Keyed (.tuple items)
  | set {items : List Value} (h : ∀ v ∈ items, Keyed v) : Keyed (.set items)
  | mapping {entries : List (Scalar × Value)} (hkeys : (entries.map Prod.fst).Nodup)
    (h : ∀ e ∈ entries, Keyed e.2) : Keyed (.mapping entries)
  | record (attributes : List (String × Value)) : Keyed (.record attributes)

/-- No mapping in a value of JSON has a key twice. -/
theorem Value.IsJson.keyed {v : Value} (h : v.IsJson) : v.Keyed := by
  induction h with
  | @scalar s _ => exact .scalar s
  | list _ ih => exact .list ih
  | @object fields hnames _ ih =>
    refine .mapping ?_ fun e he => ?_
    · have htexts := hnames.map (f := Scalar.text) fun _ _ h => Scalar.text.inj h
      rwa [List.map_map] at htexts ⊢
    · obtain ⟨f, hf, rfl⟩ := List.mem_map.mp he
      exact ih f hf

theorem Value.Keyed.of_mem_itemsIn {v w : Value} (h : v.Keyed) (hw : w ∈ Loose.itemsIn v) :
    w.Keyed := by
  cases h with
  | list hitems | tuple hitems | set hitems => exact hitems w hw
  | scalar | mapping | record => cases hw

/-- An action whose unknown fields are apart from the known ones. -/
def CardAction.Tidy (c : CardAction) : Prop :=
  Apart ["type", "title", "value", "text", "displayText"] c.extra

/-- Suggestions whose unknown fields, and those of their actions, are apart from the known ones. -/
structure SuggestedActions.Tidy (s : SuggestedActions) : Prop where
  actions : ∀ c ∈ s.actions, c.Tidy
  extra : Apart ["to", "actions"] s.extra

/-- An activity whose unknown fields are apart from the known ones at every level. -/
structure Activity.Tidy (a : Activity) : Prop where
  suggested : ∀ s, a.suggestedActions = some s → s.Tidy
  extra : Apart ["type", "text", "speak", "locale", "suggestedActions"] a.extra

namespace Activity

open Checked

theorem tidy_of_checkAction {origin : Origin} {v : Value} {c : CardAction} (hkeyed : v.Keyed)
    (h : checkAction origin v = .ok c) : c.Tidy := by
  cases hkeyed with
  | @mapping entries hkeys hvalues =>
    exact Apart.of_checkExtra hkeys (checkAction_eq_ok.mp h).extra
  | scalar | list | tuple | set | record => cases h

theorem tidy_of_checkSuggestions {origin : Origin} {v : Value} {s : SuggestedActions}
    (hkeyed : v.Keyed) (h : checkSuggestions origin v = .ok s) : s.Tidy := by
  cases hkeyed with
  | @mapping entries hkeys hvalues =>
    have hread := checkSuggestions_eq_ok.mp h
    refine ⟨fun c hc => ?_, Apart.of_checkExtra hkeys hread.extra⟩
    obtain ⟨v, hv, w, hw, haction⟩ := exists_of_mem_actions hvalues hread hc
    exact tidy_of_checkAction (hv.of_mem_itemsIn hw) haction
  | scalar | list | tuple | set | record => cases h

/-- **What is accepted as an activity** keeps the unknown fields apart from the known ones. -/
theorem tidy_of_ofValue {origin : Origin} {v : Value} {a : Activity} (hkeyed : v.Keyed)
    (h : ofValue origin v = .ok a) : a.Tidy := by
  cases hkeyed with
  | @mapping entries hkeys hvalues =>
    have hread := ofValue_eq_ok.mp h
    refine ⟨fun s hs => ?_, Apart.of_checkExtra hkeys hread.extra⟩
    obtain ⟨v, hv, hcheck⟩ := exists_of_suggested hvalues hread hs
    exact tidy_of_checkSuggestions hv hcheck
  | scalar | list | tuple | set | record => cases h

end Activity

theorem Value.eq_null_of_isNull {v : Value} (h : v.isNull = true) : v = .null := by
  unfold isNull at h
  split at h
  · rfl
  · cases h

theorem Value.eq_none_of_isNull {text : Option String} (h : (Value.ofText? text).isNull = true) :
    text = none := by
  cases text with
  | none => rfl
  | some s => cases h

namespace Activity

open Checked

/-! ## Reading what was written -/

/-- Fields as the entries of an object. -/
abbrev entriesOf (fields : List (String × Value)) : List (Scalar × Value) :=
  fields.map fun (name, v) => (Scalar.text name, v)

/-- The fields that are written: those that are not null. -/
def written (fields : List (String × Value)) : List (String × Value) :=
  fields.filter fun (_, v) => !v.isNull

theorem not_isNull_of_mem_written {fields : List (String × Value)} {f : String × Value}
    (h : f ∈ written fields) : f.2.isNull = false := by
  simpa using (List.mem_filter.mp h).2

theorem written_append (fields fields' : List (String × Value)) :
    written (fields ++ fields') = written fields ++ written fields' :=
  List.filter_append ..

theorem written_eq_self {fields : List (String × Value)} (h : ∀ f ∈ fields, f.2.isNull = false) :
    written fields = fields :=
  List.filter_eq_self.mpr fun f hf => by simp [h f hf]

/-- Of fields with distinct names, a name is written with the value of its field, unless that is
null. -/
theorem get?_written {fields : List (String × Value)} (hd : (fields.map Prod.fst).Nodup)
    (name : String) :
    Entries.get? name (written fields) = (Entries.get? name fields).filter fun v => !v.isNull := by
  induction fields with
  | nil => rfl
  | cons f fields ih =>
    obtain ⟨k, v⟩ := f
    obtain ⟨hk, hd⟩ := List.nodup_cons.mp hd
    have hrest := ih hd
    unfold written at hrest ⊢
    cases hv : v.isNull with
    | true =>
      rw [List.filter_cons_of_neg (by simp [hv]), hrest, Entries.get?_cons]
      by_cases hname : k = name
      · have hnone : Entries.get? name fields = none :=
          Entries.get?_eq_none_iff.mpr (hname ▸ hk)
        simp [hname, hnone, Option.filter, hv]
      · rw [if_neg hname]
    | false =>
      rw [List.filter_cons_of_pos (by simp [hv]), Entries.get?_cons, Entries.get?_cons, hrest]
      by_cases hname : k = name
      · simp [hname, Option.filter, hv]
      · rw [if_neg hname, if_neg hname]

section Fields

variable {α : Type} {fields : List (String × Value)} {name : String} {others : List String}
  {default : α} {check : Value → Checked α}

/-- A field is taken from its first spelling if that is there. -/
theorem checkField_of_some {v : Value} (h : Entries.get? name fields = some v) :
    checkField (entriesOf fields) (name :: others) default check = under (.key name) (check v) := by
  simp only [checkField, usedKey?, List.findSome?_cons, get?_fields, h, Option.map_some]

/-- It is taken from the others if the first is not there. -/
theorem checkField_of_none (h : Entries.get? name fields = none) :
    checkField (entriesOf fields) (name :: others) default check =
      checkField (entriesOf fields) others default check := by
  simp only [checkField, usedKey?, List.findSome?_cons, get?_fields, h, Option.map_none]

end Fields

/-! ### One level of an object -/

section Level

variable {α : Type} {known extra : List (String × Value)} {spellings : List (List String)}

/-- Under a name that no known field has, there is the unknown field of that name. -/
theorem get?_written_extra (extra : List (String × Value)) {name : String}
    (hname : name ∉ known.map Prod.fst) :
    Entries.get? name (written (known ++ extra)) = Entries.get? name (written extra) := by
  have hnone : Entries.get? name (written known) = none := by
    refine Entries.get?_eq_none_iff.mpr fun hmem => hname ?_
    obtain ⟨f, hf, rfl⟩ := List.mem_map.mp hmem
    exact List.mem_map_of_mem (List.mem_of_mem_filter hf)
  rw [written_append, Entries.get?_append, hnone, Option.none_or]

/-- A known field is written with its value, unless that is null. -/
theorem get?_written_known (hextra : Apart (known.map Prod.fst) extra)
    (hnodup : (known.map Prod.fst).Nodup) {name : String} {v : Value}
    (hget : Entries.get? name known = some v) :
    Entries.get? name (written (known ++ extra)) = if v.isNull then none else some v := by
  rw [get?_written (hextra.nodup_append hnodup), Entries.get?_append, hget, Option.some_or]
  cases hv : v.isNull <;> simp [Option.filter, hv]

/-- **A known field is read as it was written**, or, if it is null, from its other spellings. -/
theorem checkField_written (hextra : Apart (known.map Prod.fst) extra)
    (hnodup : (known.map Prod.fst).Nodup) {name : String} {others : List String} {v : Value}
    {check : Value → Checked α} {default a : α} (hget : Entries.get? name known = some v)
    (hread : v.isNull = false → check v = .ok a)
    (hnull : v.isNull = true →
      checkField (entriesOf (written (known ++ extra))) others default check = .ok a) :
    checkField (entriesOf (written (known ++ extra))) (name :: others) default check = .ok a := by
  have hwritten := get?_written_known hextra hnodup hget
  cases hv : v.isNull with
  | true =>
    rw [hv] at hwritten
    rw [checkField_of_none hwritten]
    exact hnull hv
  | false =>
    rw [hv] at hwritten
    rw [checkField_of_some hwritten]
    exact under_eq_ok.mpr (hread hv)

/-- A text is read as it was written. -/
theorem checkField_text (hextra : Apart (known.map Prod.fst) extra)
    (hnodup : (known.map Prod.fst).Nodup) {name : String} {others : List String}
    {text : Option String} (hget : Entries.get? name known = some (.ofText? text))
    (hothers : text = none →
      checkField (entriesOf (written (known ++ extra))) others none (checkOptional checkText) =
        .ok none) :
    checkField (entriesOf (written (known ++ extra))) (name :: others) none
      (checkOptional checkText) = .ok text := by
  refine checkField_written hextra hnodup hget (fun h => ?_) fun h => ?_
  · cases text with
    | none => cases h
    | some s => rfl
  · cases text with
    | none => exact hothers rfl
    | some s => cases h

/-- So is one that has only one name. -/
theorem checkField_onlyText (hextra : Apart (known.map Prod.fst) extra)
    (hnodup : (known.map Prod.fst).Nodup) (name : String) (text : Option String)
    (hget : Entries.get? name known = some (.ofText? text)) :
    checkField (entriesOf (written (known ++ extra))) [name] none (checkOptional checkText) =
      .ok text :=
  checkField_text hextra hnodup hget fun _ => rfl

/-- Where a known field that was null is still nothing, there is no unknown field under its other
spelling that is not null. -/
theorem get?_eq_none_of_checkField (hextra : Apart (known.map Prod.fst) extra)
    (hnodup : (known.map Prod.fst).Nodup) {name other : String} {v : Value}
    {check : Value → Checked α} (hget : Entries.get? name known = some v) (hnull : v.isNull = true)
    (hother : other ∉ known.map Prod.fst)
    (h : checkField (entriesOf (written (known ++ extra))) [name, other] none (checkOptional check) =
      .ok none) :
    Entries.get? other (written extra) = none := by
  have habsent := get?_written_known hextra hnodup hget
  rw [hnull] at habsent
  rw [checkField_of_none habsent] at h
  cases hshadow : Entries.get? other (written extra) with
  | none => rfl
  | some w =>
    rw [checkField_of_some ((get?_written_extra extra hother).trans hshadow)] at h
    have hwritten := not_isNull_of_mem_written (Entries.mem_of_get? hshadow)
    rcases checkOptional_eq_ok.mp (under_eq_ok.mp h) with ⟨rfl, _⟩ | ⟨_, _, _, hsome⟩
    · cases hwritten
    · cases hsome

/-- No field is taken from one of its other spellings. -/
def Plain (known extra : List (String × Value)) (spellings : List (List String)) : Prop :=
  ∀ name others v, name :: others ∈ spellings → Entries.get? name known = some v → v.isNull = true →
    ∀ other ∈ others, Entries.get? other (written (known ++ extra)) = none

/-- That is so if one field at most has another spelling, and no unknown field goes by that while
the field is null. -/
theorem Plain.of_shadow (name other : String)
    (hspellings : ∀ spelling ∈ spellings, spelling = [name, other] ∨ spelling.length = 1)
    (hother : other ∉ known.map Prod.fst)
    (h : ∀ v, Entries.get? name known = some v → v.isNull = true →
      Entries.get? other (written extra) = none) : Plain known extra spellings := by
  intro first others v hmem hget hnull used hused
  rcases hspellings _ hmem with heq | hlength
  · cases heq
    cases List.mem_singleton.mp hused
    rw [get?_written_extra extra hother]
    exact h v hget hnull
  · cases List.length_eq_zero_iff.mp (Nat.succ.inj hlength)
    cases hused

/-- Then only the written names of known fields are used. -/
theorem Plain.mem_of_mem_usedNames (h : Plain known extra spellings)
    (hextra : Apart (known.map Prod.fst) extra) (hnodup : (known.map Prod.fst).Nodup)
    (hheads : spellings.filterMap List.head? = known.map Prod.fst) {used : String}
    (hused : used ∈ usedNames (written (known ++ extra)) spellings) : used ∈ known.map Prod.fst := by
  obtain ⟨spelling, hspelling, hused⟩ := List.mem_filterMap.mp hused
  obtain ⟨⟨used, w⟩, hkey, rfl⟩ := Option.map_eq_some_iff.mp hused
  cases spelling with
  | nil => cases hkey
  | cons name others =>
    have hname : name ∈ known.map Prod.fst := by
      rw [← hheads]
      exact List.mem_filterMap.mpr ⟨_, hspelling, rfl⟩
    obtain ⟨v, hget⟩ : ∃ v, Entries.get? name known = some v := by
      refine Option.ne_none_iff_exists'.mp fun hnone => ?_
      exact Entries.get?_eq_none_iff.mp hnone hname
    have hwritten := get?_written_known hextra hnodup hget
    unfold usedKey? at hkey
    rw [List.findSome?_cons, get?_fields, hwritten] at hkey
    cases hv : v.isNull with
    | false =>
      rw [hv] at hkey
      cases hkey
      exact hname
    | true =>
      rw [hv] at hkey
      obtain ⟨other, hother, hfound⟩ := List.exists_of_findSome?_eq_some hkey
      rw [get?_fields, h name others v hspelling hget hv other hother] at hfound
      cases hfound

/-- **The unknown fields that are read** are those that were written. -/
theorem checkExtra_written (h : Plain known extra spellings)
    (hextra : Apart (known.map Prod.fst) extra) (hnodup : (known.map Prod.fst).Nodup)
    (hheads : spellings.filterMap List.head? = known.map Prod.fst) :
    checkExtra (entriesOf (written (known ++ extra))) spellings = .ok (written extra) := by
  have hknown : (written known).filter (fun f =>
      !(usedNames (written (known ++ extra)) spellings).contains f.1) = [] := by
    refine List.filter_eq_nil_iff.mpr fun f hf => ?_
    have hname : f.1 ∈ spellings.filterMap List.head? := by
      rw [hheads]
      exact List.mem_map_of_mem (List.mem_of_mem_filter hf)
    obtain ⟨spelling, hspelling, hhead⟩ := List.mem_filterMap.mp hname
    cases spelling with
    | nil => cases hhead
    | cons name others =>
      cases hhead
      have hmem : f.1 ∈ (written (known ++ extra)).map Prod.fst := by
        rw [written_append, List.map_append]
        exact List.mem_append_left _ (List.mem_map_of_mem hf)
      simp [mem_usedNames hspelling hmem]
  have hunknown : (written extra).filter (fun f =>
      !(usedNames (written (known ++ extra)) spellings).contains f.1) = written extra := by
    refine List.filter_eq_self.mpr fun f hf => ?_
    have hname : f.1 ∉ usedNames (written (known ++ extra)) spellings := fun hused =>
      hextra.notMem f.1 (h.mem_of_mem_usedNames hextra hnodup hheads hused)
        (List.mem_map_of_mem (List.mem_of_mem_filter hf))
    simp [hname]
  rw [checkExtra_object, written_append, List.filter_append, ← written_append, hknown, hunknown,
    List.nil_append]

/-- No unknown field that is read is null. -/
theorem not_isNull_of_checkExtra {fields extra : List (String × Value)}
    (h : checkExtra (entriesOf (written fields)) spellings = .ok extra) {f : String × Value}
    (hf : f ∈ extra) : f.2.isNull = false := by
  rw [checkExtra_object] at h
  cases h
  exact not_isNull_of_mem_written (List.mem_of_mem_filter hf)

/-- So if the same is read as there was before, nothing of that was null. -/
theorem not_isNull_of_restored {fields extra extra' : List (String × Value)}
    (h : checkExtra (entriesOf (written fields)) spellings = .ok extra')
    (hd : (extra.map Prod.fst).Nodup)
    (hsame : ∀ name, Entries.get? name extra' = Entries.get? name extra) :
    ∀ f ∈ extra, f.2.isNull = false := by
  rintro ⟨name, v⟩ hf
  have hread : Entries.get? name extra' = some v := (hsame name).trans (Entries.get?_of_mem hd hf)
  exact not_isNull_of_checkExtra h (Entries.mem_of_get? hread)

end Level

end Activity

open Activity Checked

/-! ## Actions -/

namespace CardAction

/-- The known fields of an action. -/
def known (c : CardAction) : List (String × Value) :=
  [("type", .ofText? c.type), ("title", .ofText? c.title), ("value", c.value),
    ("text", .ofText? c.text), ("displayText", .ofText? c.displayText)]

theorem toValue_eq (c : CardAction) :
    c.toValue .present = .mapping (entriesOf (written (c.known ++ c.extra))) := rfl

/-- If there is no display text, then there is no unknown field under its plain name either, unless
that is null. -/
def Unshadowed (c : CardAction) : Prop :=
  c.displayText = none → Entries.get? "display_text" (written c.extra) = none

/-- An action without the unknown fields that are null. -/
def pruned (c : CardAction) : CardAction :=
  { c with extra := written c.extra }

/-- An action of which nothing is lost: no unknown field is null or taken for a known one. -/
structure Lasting (c : CardAction) : Prop where
  unshadowed : c.Unshadowed
  extra : ∀ f ∈ c.extra, f.2.isNull = false

/-- Two actions with the same known fields and the same unknown ones. -/
structure Same (c d : CardAction) : Prop where
  type : c.type = d.type
  title : c.title = d.title
  value : c.value = d.value
  text : c.text = d.text
  displayText : c.displayText = d.displayText
  extra : ∀ name, Entries.get? name c.extra = Entries.get? name d.extra

theorem Same.refl (c : CardAction) : c.Same c :=
  ⟨rfl, rfl, rfl, rfl, rfl, fun _ => rfl⟩

theorem Lasting.pruned_eq {c : CardAction} (h : c.Lasting) : c.pruned = c := by
  rw [pruned, written_eq_self h.extra]

variable {c : CardAction}

theorem Unshadowed.plain (h : c.Unshadowed) : Plain c.known c.extra actionSpellings :=
  .of_shadow "displayText" "display_text" (by decide) (by simp [known]) fun v hget hnull =>
    h (Value.eq_none_of_isNull (Option.some.inj hget ▸ hnull))

/-- **An action is read as it was written**, if nothing in it is taken for something else. -/
theorem checkAction_toValue (hc : c.Tidy) (h : c.Unshadowed) (origin : Origin) :
    checkAction origin (c.toValue .present) = .ok c.pruned := by
  have hnodup : (c.known.map Prod.fst).Nodup :=
    (by decide : ["type", "title", "value", "text", "displayText"].Nodup)
  have hapart : Apart (c.known.map Prod.fst) c.extra := hc
  have htext := checkField_onlyText hapart hnodup
  have hvalue : checkField (entriesOf (written (c.known ++ c.extra))) ["value"] .null .ok =
      .ok c.value :=
    checkField_written (v := c.value) hapart hnodup rfl (fun _ => rfl) fun hnull =>
      congrArg Except.ok (Value.eq_null_of_isNull hnull).symm
  have hdisplay : checkField (entriesOf (written (c.known ++ c.extra)))
      ["displayText", "display_text"] none (checkOptional checkText) = .ok c.displayText := by
    refine checkField_text hapart hnodup rfl fun hnone => ?_
    rw [checkField_of_none]
    · rfl
    · rw [get?_written_extra c.extra (by simp [known])]
      exact h hnone
  have hextra := checkExtra_written h.plain hapart hnodup rfl
  rw [toValue_eq]
  exact checkAction_eq_ok.mpr ⟨htext "type" c.type rfl, htext "title" c.title rfl, hvalue,
    htext "text" c.text rfl, hdisplay, hextra⟩

/-- **An action that is read as the same** had nothing to lose. -/
theorem lasting_of_checkAction (hc : c.Tidy) {origin : Origin} {d : CardAction}
    (h : checkAction origin (c.toValue .present) = .ok d) (hsame : d.Same c) : c.Lasting := by
  have hnodup : (c.known.map Prod.fst).Nodup :=
    (by decide : ["type", "title", "value", "text", "displayText"].Nodup)
  have hapart : Apart (c.known.map Prod.fst) c.extra := hc
  rw [toValue_eq] at h
  have hread := checkAction_eq_ok.mp h
  refine ⟨fun hnone => ?_, not_isNull_of_restored hread.extra hc.nodup hsame.extra⟩
  -- An unknown display text would have been read as the known one.
  have hdisplay := hread.displayText
  rw [hsame.displayText.trans hnone] at hdisplay
  exact get?_eq_none_of_checkField (v := .ofText? c.displayText) hapart hnodup rfl
    (by rw [hnone]; rfl) (by simp [known]) hdisplay

end CardAction

/-! ## Suggestions -/

namespace SuggestedActions

/-- The known fields of suggestions. -/
def known (s : SuggestedActions) : List (String × Value) :=
  [("to", .texts s.recipients), ("actions", .list (s.actions.map (·.toValue .present)))]

theorem toValue_eq (s : SuggestedActions) :
    s.toValue .present = .mapping (entriesOf (written (s.known ++ s.extra))) := rfl

/-- Nothing in the actions is taken for something else. -/
def Unshadowed (s : SuggestedActions) : Prop :=
  ∀ c ∈ s.actions, c.Unshadowed

/-- Suggestions without the unknown fields that are null. -/
def pruned (s : SuggestedActions) : SuggestedActions :=
  { s with
    actions := s.actions.map (·.pruned)
    extra := written s.extra }

/-- Suggestions of which nothing is lost. -/
structure Lasting (s : SuggestedActions) : Prop where
  actions : ∀ c ∈ s.actions, c.Lasting
  extra : ∀ f ∈ s.extra, f.2.isNull = false

/-- Two suggestions with the same known fields and the same unknown ones, also in their actions. -/
structure Same (s t : SuggestedActions) : Prop where
  recipients : s.recipients = t.recipients
  actions : List.Forall₂ CardAction.Same s.actions t.actions
  extra : ∀ name, Entries.get? name s.extra = Entries.get? name t.extra

theorem Same.refl (s : SuggestedActions) : s.Same s :=
  ⟨rfl, List.forall₂_same.mpr fun c _ => CardAction.Same.refl c, fun _ => rfl⟩

theorem Lasting.pruned_eq {s : SuggestedActions} (h : s.Lasting) : s.pruned = s := by
  have hactions : s.actions.map (·.pruned) = s.actions :=
    (List.map_congr_left fun c hc => (h.actions c hc).pruned_eq).trans (List.map_id _)
  rw [pruned, written_eq_self h.extra, hactions]

variable {s : SuggestedActions}

theorem plain (s : SuggestedActions) : Plain s.known s.extra [["to"], ["actions"]] := by
  intro name others v hmem hget hnull other hother
  simp only [List.mem_cons, List.not_mem_nil, or_false, List.cons.injEq] at hmem
  rcases hmem with ⟨-, rfl⟩ | ⟨-, rfl⟩
  · cases hother
  · cases hother

theorem checkItems_recipients (s : SuggestedActions) :
    checkItems checkText (.texts s.recipients) = .ok s.recipients := by
  refine (items_eq_ok 0).mpr ?_
  rw [List.forall₂_map_left_iff]
  exact List.forall₂_same.mpr fun _ _ => rfl

/-- **Suggestions are read as they were written**, if nothing in them is taken for something
else. -/
theorem checkSuggestions_toValue (hs : s.Tidy) (h : s.Unshadowed) (origin : Origin) :
    checkSuggestions origin (s.toValue .present) = .ok s.pruned := by
  have hnodup : (s.known.map Prod.fst).Nodup := (by decide : ["to", "actions"].Nodup)
  have hapart : Apart (s.known.map Prod.fst) s.extra := hs.extra
  have hrecipients : checkField (entriesOf (written (s.known ++ s.extra))) ["to"] []
      (checkItems checkText) = .ok s.recipients :=
    checkField_written (v := .texts s.recipients) hapart hnodup rfl
      (fun _ => checkItems_recipients s) fun hnull => by cases hnull
  have hactions : checkField (entriesOf (written (s.known ++ s.extra))) ["actions"] []
      (checkItems (checkAction origin)) = .ok (s.actions.map (·.pruned)) := by
    refine checkField_written (v := .list (s.actions.map (·.toValue .present))) hapart hnodup rfl
      (fun _ => (items_eq_ok 0).mpr ?_) fun hnull => by cases hnull
    rw [List.forall₂_map_left_iff, List.forall₂_map_right_iff]
    exact List.forall₂_same.mpr fun c hc =>
      CardAction.checkAction_toValue (hs.actions c hc) (h c hc) origin
  have hextra := checkExtra_written s.plain hapart hnodup rfl
  rw [toValue_eq]
  exact checkSuggestions_eq_ok.mpr ⟨hrecipients, hactions, hextra⟩

/-- **Suggestions that are read as the same** had nothing to lose. -/
theorem lasting_of_checkSuggestions (hs : s.Tidy) {origin : Origin} {t : SuggestedActions}
    (h : checkSuggestions origin (s.toValue .present) = .ok t) (hsame : t.Same s) : s.Lasting := by
  have hnodup : (s.known.map Prod.fst).Nodup := (by decide : ["to", "actions"].Nodup)
  have hapart : Apart (s.known.map Prod.fst) s.extra := hs.extra
  rw [toValue_eq] at h
  have hentries := checkSuggestions_eq_ok.mp h
  refine ⟨?_, not_isNull_of_restored hentries.extra hs.extra.nodup hsame.extra⟩
  have hpresent : Entries.get? "actions" (written (s.known ++ s.extra)) =
      some (.list (s.actions.map (·.toValue .present))) :=
    get?_written_known (v := .list (s.actions.map (·.toValue .present))) hapart hnodup rfl
  have hactions := hentries.actions
  rw [checkField_of_some hpresent] at hactions
  have hread := (items_eq_ok 0).mp (under_eq_ok.mp hactions)
  rw [List.forall₂_map_left_iff] at hread
  have hlength := hread.length_eq
  intro c hc
  obtain ⟨i, hi, rfl⟩ := List.mem_iff_getElem.mp hc
  exact CardAction.lasting_of_checkAction (hs.actions _ hc) (hread.get hi (hlength ▸ hi))
    (hsame.actions.get (hlength ▸ hi) hi)

end SuggestedActions

/-! ## Activities -/

namespace Activity

/-- The known fields of an activity. -/
def known (a : Activity) : List (String × Value) :=
  [("type", .text a.type), ("text", .ofText? a.text), ("speak", .ofText? a.speak),
    ("locale", .ofText? a.locale),
    ("suggestedActions", (a.suggestedActions.map (·.toValue .present)).getD .null)]

theorem toWire_eq (a : Activity) :
    a.toWire = .mapping (entriesOf (written (a.known ++ a.extra))) := rfl

/-- Nothing in an activity is taken for something else: if there are no suggestions, then there is no
unknown field under their plain name either, unless that is null. -/
structure Unshadowed (a : Activity) : Prop where
  suggested : ∀ s, a.suggestedActions = some s → s.Unshadowed
  unsuggested : a.suggestedActions = none →
    Entries.get? "suggested_actions" (written a.extra) = none

/-- An activity without the unknown fields that are null, at every level. -/
def pruned (a : Activity) : Activity :=
  { a with
    suggestedActions := a.suggestedActions.map (·.pruned)
    extra := written a.extra }

/-- An activity of which nothing is lost: at no level is an unknown field null or taken for a known
one. -/
structure Lasting (a : Activity) : Prop where
  suggested : ∀ s, a.suggestedActions = some s → s.Lasting
  unsuggested : a.suggestedActions = none →
    Entries.get? "suggested_actions" (written a.extra) = none
  extra : ∀ f ∈ a.extra, f.2.isNull = false

/-- Two activities with the same known fields and the same unknown ones, at every level. -/
structure Same (a b : Activity) : Prop where
  type : a.type = b.type
  text : a.text = b.text
  speak : a.speak = b.speak
  locale : a.locale = b.locale
  suggested : Option.Rel SuggestedActions.Same a.suggestedActions b.suggestedActions
  extra : ∀ name, Entries.get? name a.extra = Entries.get? name b.extra

theorem Same.refl (a : Activity) : a.Same a := by
  refine ⟨rfl, rfl, rfl, rfl, ?_, fun _ => rfl⟩
  cases a.suggestedActions with
  | none => exact .none
  | some s => exact .some (SuggestedActions.Same.refl s)

theorem Lasting.unshadowed {a : Activity} (h : a.Lasting) : a.Unshadowed :=
  ⟨fun s hs c hc => ((h.suggested s hs).actions c hc).unshadowed, h.unsuggested⟩

theorem Lasting.pruned_eq {a : Activity} (h : a.Lasting) : a.pruned = a := by
  have hsuggested : a.suggestedActions.map (·.pruned) = a.suggestedActions := by
    cases hs : a.suggestedActions with
    | none => rfl
    | some s => rw [Option.map_some, (h.suggested s hs).pruned_eq]
  rw [pruned, written_eq_self h.extra, hsuggested]

variable {a : Activity}

theorem Unshadowed.plain (h : a.Unshadowed) : Plain a.known a.extra spellings := by
  refine .of_shadow "suggestedActions" "suggested_actions" (by decide) (by simp [known])
    fun v hget hnull => h.unsuggested ?_
  rw [← Option.some.inj hget] at hnull
  cases hs : a.suggestedActions with
  | none => rfl
  | some s =>
    rw [hs] at hnull
    cases hnull

/-- **An activity is read as it was written**, if nothing in it is taken for something else. -/
theorem ofValue_toWire_of_unshadowed (ha : a.Tidy) (h : a.Unshadowed) (origin : Origin) :
    ofValue origin a.toWire = .ok a.pruned := by
  have hnodup : (a.known.map Prod.fst).Nodup :=
    (by decide : ["type", "text", "speak", "locale", "suggestedActions"].Nodup)
  have hapart : Apart (a.known.map Prod.fst) a.extra := ha.extra
  have htext := checkField_onlyText hapart hnodup
  have htype : checkField (entriesOf (written (a.known ++ a.extra))) ["type"] "message" checkText =
      .ok a.type :=
    checkField_written (v := .text a.type) hapart hnodup rfl (fun _ => rfl) fun hnull => by
      cases hnull
  have hsuggested : checkField (entriesOf (written (a.known ++ a.extra)))
      ["suggestedActions", "suggested_actions"] none (checkOptional (checkSuggestions origin)) =
      .ok (a.suggestedActions.map (·.pruned)) := by
    refine checkField_written
      (v := (a.suggestedActions.map (·.toValue .present)).getD .null) hapart hnodup rfl ?_ ?_
    · intro hnull
      cases hs : a.suggestedActions with
      | none =>
        rw [hs] at hnull
        cases hnull
      | some s =>
        have hread := s.checkSuggestions_toValue (ha.suggested s hs) (h.suggested s hs) origin
        exact congrArg (Except.map some) hread
    · intro hnull
      cases hs : a.suggestedActions with
      | none =>
        rw [checkField_of_none]
        · rfl
        · rw [get?_written_extra a.extra (by simp [known])]
          exact h.unsuggested hs
      | some s =>
        rw [hs] at hnull
        cases hnull
  have hextra := checkExtra_written h.plain hapart hnodup rfl
  rw [toWire_eq]
  exact ofValue_eq_ok.mpr ⟨htype, htext "text" a.text rfl, htext "speak" a.speak rfl,
    htext "locale" a.locale rfl, hsuggested, hextra⟩

/-- **An activity that is read as the same** had nothing to lose. -/
theorem lasting_of_ofValue (ha : a.Tidy) {origin : Origin} {b : Activity}
    (h : ofValue origin a.toWire = .ok b) (hsame : b.Same a) : a.Lasting := by
  have hnodup : (a.known.map Prod.fst).Nodup :=
    (by decide : ["type", "text", "speak", "locale", "suggestedActions"].Nodup)
  have hapart : Apart (a.known.map Prod.fst) a.extra := ha.extra
  rw [toWire_eq] at h
  have hread := ofValue_eq_ok.mp h
  have hsuggested := hread.suggested
  have hrel := hsame.suggested
  generalize b.suggestedActions = suggested at hsuggested hrel
  refine ⟨fun s hs => ?_, fun hnone => ?_,
    not_isNull_of_restored hread.extra ha.extra.nodup hsame.extra⟩
  · have hpresent : Entries.get? "suggestedActions" (written (a.known ++ a.extra)) =
        some (s.toValue .present) :=
      get?_written_known (v := s.toValue .present) hapart hnodup (by simp [known, Entries.get?, hs])
    rw [checkField_of_some hpresent] at hsuggested
    rcases checkOptional_eq_ok.mp (under_eq_ok.mp hsuggested) with ⟨hnull, _⟩ | ⟨_, t, ht, rfl⟩
    · cases hnull
    · rw [hs] at hrel
      cases hrel with
      | some hst => exact s.lasting_of_checkSuggestions (ha.suggested s hs) ht hst
  · -- Unknown suggestions would have been read as the known ones.
    rw [hnone] at hrel
    cases hrel
    exact get?_eq_none_of_checkField (v := .null) hapart hnodup (by simp [known, Entries.get?, hnone])
      rfl (by simp [known]) hsuggested

/-- **What comes back of the written form.**  An activity that was accepted comes back as the same
exactly if none of its unknown fields, at any level, is null or taken for a known one; it is then
read as it was.  If only nothing is taken for something else, it comes back without the unknown
fields that are null. -/
theorem ofValue_toWire {v : Value} {origin : Origin} (hkeyed : v.Keyed)
    (h : ofValue origin v = .ok a) (origin' : Origin) :
    ((∃ b, ofValue origin' a.toWire = .ok b ∧ b.Same a) ↔ a.Lasting) ∧
      (a.Lasting → ofValue origin' a.toWire = .ok a) ∧
      (a.Unshadowed → ofValue origin' a.toWire = .ok a.pruned) := by
  have ha := tidy_of_ofValue hkeyed h
  have hkept : a.Lasting → ofValue origin' a.toWire = .ok a := by
    intro hlasting
    rw [ofValue_toWire_of_unshadowed ha hlasting.unshadowed, hlasting.pruned_eq]
  refine ⟨⟨?_, fun hlasting => ⟨a, hkept hlasting, Same.refl a⟩⟩, hkept,
    fun hunshadowed => ofValue_toWire_of_unshadowed ha hunshadowed origin'⟩
  rintro ⟨b, hb, hsame⟩
  exact lasting_of_ofValue ha hb hsame

/-- An activity with an unknown field comes back as it was. -/
theorem ofValue_toWire_moody :
    (Value.object [("text", .text "Hi"), ("mood", .list [.null])]).Keyed ∧
      ofValue .direct (.object [("text", .text "Hi"), ("mood", .list [.null])]) =
        .ok ⟨"message", some "Hi", none, none, none, [("mood", .list [.null])]⟩ ∧
      ofValue .body
          (Activity.toWire ⟨"message", some "Hi", none, none, none, [("mood", .list [.null])]⟩) =
        .ok ⟨"message", some "Hi", none, none, none, [("mood", .list [.null])]⟩ := by
  have hkeyed : (Value.object [("text", .text "Hi"), ("mood", .list [.null])]).Keyed :=
    (Value.isJson_pair (by decide) (Value.isJson_text "Hi")
      (.list fun v hv => List.mem_singleton.mp hv ▸ Value.isJson_null)).keyed
  have haccepted : ofValue .direct (.object [("text", .text "Hi"), ("mood", .list [.null])]) =
      .ok ⟨"message", some "Hi", none, none, none, [("mood", .list [.null])]⟩ := rfl
  refine ⟨hkeyed, haccepted, (ofValue_toWire hkeyed haccepted .body).2.1 ⟨?_, ?_, ?_⟩⟩
  · intro s hs
    cases hs
  · intro _
    rfl
  · intro f hf
    cases List.mem_singleton.mp hf
    rfl

/-- An object with an unknown field that is null, and with an action that has no display text but an
unknown field under the plain name of one. -/
def offer : Value :=
  .object [("note", .null), ("suggestedActions", .object [("actions", .list [.object
    [("displayText", .null), ("display_text", .text "[price]")]])])]

/-- The activity that the object is read as. -/
def offered : Activity :=
  ⟨"message", none, none, none,
    some ⟨[], [⟨none, none, .null, none, none, [("display_text", .text "[price]")]⟩], []⟩,
    [("note", .null)]⟩

/-- **Not every activity comes back**: this one loses an unknown field, and another one becomes a
text with a reference. -/
theorem not_restored_offered :
    offer.IsJson ∧ ofValue .direct offer = .ok offered ∧
      (¬ ∃ b, ofValue .direct offered.toWire = .ok b ∧ b.Same offered) ∧
      ∃ b, ofValue .direct offered.toWire = .ok b ∧ offered.references = [] ∧
        b.references = ["price"] := by
  have hjson : offer.IsJson := by
    refine Value.isJson_pair (by decide) Value.isJson_null (Value.isJson_single "actions" ?_)
    refine .list fun v hv => List.mem_singleton.mp hv ▸ ?_
    exact Value.isJson_pair (by decide) Value.isJson_null (Value.isJson_text "[price]")
  have haccepted : ofValue .direct offer = .ok offered := rfl
  refine ⟨hjson, haccepted, ?_, _, rfl, by decide +kernel, by decide +kernel⟩
  rintro ⟨b, hb, hsame⟩
  have hlasting := lasting_of_ofValue (tidy_of_ofValue hjson.keyed haccepted) hb hsame
  have hnull := hlasting.extra ("note", .null) List.mem_cons_self
  cases hnull

end Activity

end Phrasing
