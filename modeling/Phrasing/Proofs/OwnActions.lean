import Phrasing.Proofs.Places

/-! # Activities in memory

An activity has its actions for itself.  `Memory.ofActivity` lays one out as an object in memory, with every action an
object of its own; what is searched there, and what filling in leaves there, is what the activity says
(`Subject.fill_ofActivity`).  So to deal with activities is to deal with objects of this make whose actions are not shared.
-/

namespace Phrasing

/-- What an action holds under a name. -/
def CardAction.heldUnder (c : CardAction) (name : String) : Option Held :=
  if name = "text" then some (.value (.ofText? c.text))
  else if name = "display_text" then some (.value (.ofText? c.displayText))
  else if name = "type" then some (.value (.ofText? c.type))
  else if name = "title" then some (.value (.ofText? c.title))
  else if name = "value" then some (.value c.value)
  else (Entries.get? name c.extra).map .value

/-- What suggestions hold under a name, their actions being the objects from the third one on. -/
def SuggestedActions.heldUnder (s : SuggestedActions) (name : String) : Option Held :=
  if name = "actions" then some (.items "list" ((List.range s.actions.length).map fun i => .object (i + 2)))
  else if name = "to" then some (.value (.texts s.recipients))
  else (Entries.get? name s.extra).map .value

/-- What an activity holds under a name, its suggestions being the second object. -/
def Activity.heldUnder (a : Activity) (name : String) : Option Held :=
  if name = "text" then some (.value (.ofText? a.text))
  else if name = "speak" then some (.value (.ofText? a.speak))
  else if name = "suggested_actions" then some (if a.suggestedActions.isSome then .object 1 else .value .null)
  else if name = "locale" then some (.value (.ofText? a.locale))
  else if name = "type" then some (.value (.text a.type))
  else (Entries.get? name a.extra).map .value

/-- What an activity that is laid out holds at a place. -/
def Activity.heldAt (a : Activity) (p : Place) : Option Held :=
  match p.id with
  | 0 => a.heldUnder p.name
  | 1 => a.suggestedActions.bind (·.heldUnder p.name)
  | i + 2 => a.actions[i]?.bind (·.heldUnder p.name)

namespace Memory

/-- An activity as an object in memory, with every action an object of its own. -/
def ofActivity (a : Activity) : Memory where
  typeName id :=
    match id with
    | 0 => "Activity"
    | 1 => "SuggestedActions"
    | _ => "CardAction"
  attribute? p := (a.heldAt p).map (⟨·, none⟩)

/-- The places at which an activity with that many actions is searched. -/
def ownPlaces (count : Nat) : List Place :=
  ⟨0, "text"⟩ :: ⟨0, "speak"⟩ :: (List.range count).flatMap fun i => [⟨i + 2, "text"⟩, ⟨i + 2, "display_text"⟩]

variable {a : Activity} {p : Place} {count : Nat}

theorem held?_ofActivity (a : Activity) (p : Place) : (ofActivity a).held? p = a.heldAt p := by
  simp [held?, ofActivity, Function.comp_def]

theorem mem_ownPlaces : p ∈ ownPlaces count ↔
    p.id = 0 ∧ (p.name = "text" ∨ p.name = "speak") ∨
      ∃ i < count, p.id = i + 2 ∧ (p.name = "text" ∨ p.name = "display_text") := by
  obtain ⟨id, name⟩ := p
  simp only [ownPlaces, List.mem_cons, List.mem_flatMap, List.mem_range, Place.mk.injEq, List.not_mem_nil, or_false]
  constructor
  · rintro (⟨rfl, rfl⟩ | ⟨rfl, rfl⟩ | ⟨i, hi, ⟨rfl, rfl⟩ | ⟨rfl, rfl⟩⟩)
    · exact .inl ⟨rfl, .inl rfl⟩
    · exact .inl ⟨rfl, .inr rfl⟩
    · exact .inr ⟨i, hi, rfl, .inl rfl⟩
    · exact .inr ⟨i, hi, rfl, .inr rfl⟩
  · rintro (⟨rfl, rfl | rfl⟩ | ⟨i, hi, rfl, rfl | rfl⟩)
    · exact .inl ⟨rfl, rfl⟩
    · exact .inr (.inl ⟨rfl, rfl⟩)
    · exact .inr (.inr ⟨i, hi, .inl ⟨rfl, rfl⟩⟩)
    · exact .inr (.inr ⟨i, hi, .inr ⟨rfl, rfl⟩⟩)

theorem nodup_ownPlaces (count : Nat) : (ownPlaces count).Nodup := by
  have hactions : ((List.range count).flatMap fun i =>
      ([⟨i + 2, "text"⟩, ⟨i + 2, "display_text"⟩] : List Place)).Nodup := by
    refine List.nodup_flatMap.mpr ⟨fun i _ => by simp, ?_⟩
    refine List.nodup_range.imp fun {i j} hij => ?_
    simp [Function.onFun, hij.symm]
  unfold ownPlaces
  simp [hactions]

theorem places_ofActivity (a : Activity) : (ofActivity a).places 0 = .ok (ownPlaces a.actions.length) := by
  have hactions : (ofActivity a).actions 0 = .ok ((List.range a.actions.length).map fun i => .object (i + 2)) := by
    unfold actions
    rw [held?_ofActivity]
    cases hsuggested : a.suggestedActions with
    | none => simp [Activity.heldAt, Activity.heldUnder, Activity.actions, hsuggested]
    | some s =>
      simp [Activity.heldAt, Activity.heldUnder, Activity.actions, hsuggested, held?_ofActivity,
        SuggestedActions.heldUnder, members]
  have hlast : (ofActivity a).placesIn 0 .actions =
      .ok ((List.range a.actions.length).flatMap fun i => [⟨i + 2, "text"⟩, ⟨i + 2, "display_text"⟩]) := by
    rw [placesIn, hactions]
    simp [bind, Except.bind, pure, Except.pure, List.flatMap_map, actionPlaces]
  refine places_eq_ok_iff.mpr ⟨fun part => ((ofActivity a).placesIn 0 part).toOption.getD [], fun part => ?_, ?_⟩
  · cases part with
    | text => rfl
    | speech => rfl
    | actions =>
      dsimp only
      rw [hlast]
      rfl
  · simp only [Part.all, List.flatMap_cons, List.flatMap_nil, List.append_nil, hlast]
    rfl

theorem legible_ofText? (text : Option String) : (Held.value (.ofText? text)).Legible := by
  cases text with
  | none => exact .inl rfl
  | some s => exact .inr ⟨s, rfl⟩

theorem legibleAt_ofActivity (hp : p ∈ ownPlaces a.actions.length) : (ofActivity a).LegibleAt p := by
  intro held hheld
  rw [held?_ofActivity] at hheld
  obtain ⟨id, name⟩ := p
  rcases mem_ownPlaces.mp hp with ⟨rfl, rfl | rfl⟩ | ⟨i, hi, rfl, rfl | rfl⟩
  · cases hheld
    exact legible_ofText? _
  · cases hheld
    exact legible_ofText? _
  · obtain ⟨c, _, hc⟩ := Option.bind_eq_some_iff.mp hheld
    cases hc
    exact legible_ofText? _
  · obtain ⟨c, _, hc⟩ := Option.bind_eq_some_iff.mp hheld
    cases hc
    exact legible_ofText? _

/-- An activity that is laid out can be searched and written to. -/
theorem searchable_ofActivity (a : Activity) : (ofActivity a).Searchable 0 := by
  refine ⟨_, places_ofActivity a, nodup_ownPlaces _, fun p hp => ⟨legibleAt_ofActivity hp, fun mishap hrefuses => ?_⟩⟩
  unfold Refuses ofActivity at hrefuses
  cases hheld : a.heldAt p <;> simp [hheld] at hrefuses

/-- To go through the positions of a list is to go through the list. -/
theorem flatMap_range_getElem? {α β : Type} (g : α → List β) (l : List α) :
    (List.range l.length).flatMap (fun i => l[i]?.toList.flatMap g) = l.flatMap g := by
  induction l with
  | nil => rfl
  | cons x l ih =>
    rw [List.length_cons, List.range_succ_eq_map, List.flatMap_cons, List.flatMap_map, List.flatMap_cons]
    simpa using ih

/-- It is searched at the texts of the activity. -/
theorem searched_ofActivity (a : Activity) : (ofActivity a).searched 0 = a.searched := by
  have htext (text : Option String) : (Held.value (.ofText? text)).textsIn = text.toList := by
    cases text <;> rfl
  have haction (i : Nat) : ([⟨i + 2, "text"⟩, ⟨i + 2, "display_text"⟩] : List Place).flatMap (ofActivity a).textsAt =
      a.actions[i]?.toList.flatMap fun c => c.text.toList ++ c.displayText.toList := by
    simp only [List.flatMap_cons, List.flatMap_nil, List.append_nil, textsAt, held?_ofActivity, Activity.heldAt]
    cases a.actions[i]? with
    | none => rfl
    | some c => simp [CardAction.heldUnder, htext]
  have hown (name : String) (text : Option String) (h : a.heldUnder name = some (.value (.ofText? text))) :
      (ofActivity a).textsAt ⟨0, name⟩ = text.toList := by
    rw [textsAt, held?_ofActivity, Activity.heldAt, h]
    simp [htext]
  rw [searched_eq (places_ofActivity a), ownPlaces, List.flatMap_cons, List.flatMap_cons, List.flatMap_assoc,
    hown "text" a.text rfl, hown "speak" a.speak rfl, Activity.searched, List.append_assoc]
  simp only [haction]
  rw [flatMap_range_getElem?]

theorem mapText_ofText? (f : String → String) (text : Option String) :
    Held.mapText f (.value (.ofText? text)) = .value (.ofText? (text.map f)) := by
  cases text <;> rfl

theorem heldUnder_rewrite_action (f : String → String) (c : CardAction) (name : String) :
    ({ c with text := c.text.map f, displayText := c.displayText.map f } : CardAction).heldUnder name =
      (c.heldUnder name).map (if name = "text" ∨ name = "display_text" then Held.mapText f else id) := by
  unfold CardAction.heldUnder
  by_cases htext : name = "text"
  · simp [htext, mapText_ofText?]
  · by_cases hdisplay : name = "display_text"
    · simp [hdisplay, mapText_ofText?]
    · simp [htext, hdisplay]

theorem heldUnder_rewrite_activity (f : String → String) (a : Activity) (name : String) :
    (a.rewrite f).heldUnder name =
      (a.heldUnder name).map (if name = "text" ∨ name = "speak" then Held.mapText f else id) := by
  unfold Activity.heldUnder Activity.rewrite
  by_cases htext : name = "text"
  · simp [htext, mapText_ofText?]
  · by_cases hspeak : name = "speak"
    · simp [hspeak, mapText_ofText?]
    · simp [htext, hspeak]

/-- What is held at a place is rewritten if the place is searched. -/
theorem heldAt_rewrite (f : String → String) (a : Activity) (p : Place) :
    (a.rewrite f).heldAt p =
      (a.heldAt p).map (if p ∈ ownPlaces a.actions.length then Held.mapText f else id) := by
  obtain ⟨id, name⟩ := p
  rcases id with _ | _ | i
  · have hmem : (⟨0, name⟩ : Place) ∈ ownPlaces a.actions.length ↔ name = "text" ∨ name = "speak" := by
      rw [mem_ownPlaces]
      simp
    simp only [Activity.heldAt, heldUnder_rewrite_activity, hmem]
  · have hnot : (⟨1, name⟩ : Place) ∉ ownPlaces a.actions.length := by
      rw [mem_ownPlaces]
      simp
    rw [if_neg hnot, Option.map_id]
    cases hsuggested : a.suggestedActions with
    | none => simp [Activity.heldAt, Activity.rewrite, hsuggested]
    | some s => simp [Activity.heldAt, Activity.rewrite, hsuggested, SuggestedActions.heldUnder]
  · have hmem : (⟨i + 2, name⟩ : Place) ∈ ownPlaces a.actions.length ↔
        i < a.actions.length ∧ (name = "text" ∨ name = "display_text") := by
      rw [mem_ownPlaces]
      simp
    simp only [Activity.heldAt, Activity.actions_rewrite, List.getElem?_map, hmem]
    cases hc : a.actions[i]? with
    | none => rfl
    | some c =>
      have hi : i < a.actions.length := (List.getElem?_eq_some_iff.mp hc).1
      simp only [Option.map_some, Option.bind_some, heldUnder_rewrite_action, hi, true_and]

/-- It is rewritten as the activity is. -/
theorem rewrite_ofActivity (f : String → String) (a : Activity) :
    (ofActivity a).rewrite f 0 = ofActivity (a.rewrite f) := by
  have hheld (p : Place) : (a.rewrite f).heldAt p =
      (a.heldAt p).map (Held.mapText f^[(ownPlaces a.actions.length).count p]) := by
    rw [heldAt_rewrite, (nodup_ownPlaces _).count]
    split
    · rw [Function.iterate_one]
    · exact Option.map_congr fun held _ => (Held.mapText_id held).symm
  rw [rewrite_eq (places_ofActivity a) (nodup_ownPlaces _)]
  refine congrArg (Memory.mk _) (funext fun p => ?_)
  simp only [ofActivity, hheld, Option.map_map]
  rfl

end Memory

namespace Subject

/-- **An activity stands for its layout in memory**: the same references are listed, and filling in leaves the layout
of the activity that it leaves. -/
theorem fill_ofActivity (a : Activity) (table : Reference.Table) :
    (Subject.object (.ofActivity a) 0).references = (Subject.activity a).references ∧
      (Subject.object (.ofActivity a) 0).fill table = (.object (.ofActivity (a.fill table)) 0, none) := by
  have h : (Subject.object (.ofActivity a) 0).Searchable := Memory.searchable_ofActivity a
  constructor
  · rw [references_eq h, references_eq (s := .activity a) trivial]
    exact congrArg (fun texts => Except.ok (distinct (texts.flatMap Reference.names))) (Memory.searched_ofActivity a)
  · rw [fill_eq_rewrite table h, rewrite, Memory.rewrite_ofActivity, Activity.fill_eq_rewrite]

end Subject

end Phrasing
