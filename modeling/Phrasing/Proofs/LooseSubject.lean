import Phrasing.Proofs.Entries
import Phrasing.Proofs.Except
import Phrasing.Proofs.Reference
import Phrasing.Subject

/-! # The places of a loose object

References are looked for in a few places of a loose object, and filled in at the same places.  The
search fails on a place that holds neither nothing nor a text, and on actions that cannot be gone
through; so it succeeds exactly on `Searchable` objects (`references_eq_ok_iff`).  On these, filling
in rewrites the texts at the places that are searched and nothing else, and it is never stopped
(`Subject.fill_loose_eq`).
-/

namespace Phrasing

/-- The attribute of an object that a part stands in. -/
def Part.attribute : Part → String
  | .text => "text"
  | .speech => "speak"
  | .actions => "suggested_actions"

/-- There is no part besides those that are looked through. -/
theorem Part.mem_all (part : Part) : part ∈ Part.all := by
  cases part <;> decide

namespace Loose

/-! ## Single attributes -/

/-- What an object has under a name, if anything, is as it should be. -/
def Holds (name : String) (P : Value → Prop) (v : Value) : Prop :=
  ∀ held, v.attribute? name = some held → P held

/-- What is found in what an object has under a name; nothing if it has nothing there. -/
def under {α : Type} (name : String) (parts : Value → List α) (v : Value) : List α :=
  (v.attribute? name).toList.flatMap parts

/-- An object with what it has under a name changed.  Nothing is added. -/
def adjust (name : String) (f : Value → Value) : Value → Value
  | .record attributes => .record (Entries.adjust name f attributes)
  | v => v

theorem attribute?_adjust (name other : String) (f : Value → Value) (v : Value) :
    (adjust name f v).attribute? other =
      if name = other then (v.attribute? other).map f else v.attribute? other := by
  cases v with
  | record attributes => exact Entries.get?_adjust name other f attributes
  | _ => simp [adjust, Value.attribute?]

theorem adjust_congr {name : String} {f g : Value → Value} {v : Value}
    (h : ∀ held, v.attribute? name = some held → f held = g held) :
    adjust name f v = adjust name g v := by
  cases v with
  | record attributes => exact congrArg Value.record (Entries.adjust_congr h)
  | _ => rfl

theorem adjust_id (name : String) (v : Value) : adjust name id v = v := by
  cases v with
  | record attributes => exact congrArg Value.record (Entries.adjust_id name attributes)
  | _ => rfl

theorem adjust_eq_self {name : String} {f : Value → Value} {v : Value}
    (h : ∀ held, v.attribute? name = some held → f held = held) : adjust name f v = v :=
  (adjust_congr (g := id) h).trans (adjust_id name v)

theorem adjust_of_none {name : String} {f : Value → Value} {v : Value}
    (h : v.attribute? name = none) : adjust name f v = v :=
  adjust_eq_self fun _ hheld => nomatch h.symm.trans hheld

theorem adjust_of_some {name : String} {f : Value → Value} {v old : Value}
    (h : v.attribute? name = some old) : adjust name f v = setAttribute name (f old) v := by
  cases v with
  | record attributes => exact congrArg Value.record (Entries.put_eq_adjust h).symm
  | _ => cases h

theorem holds_adjust_ne {name other : String} (hne : name ≠ other) (f : Value → Value)
    (P : Value → Prop) (v : Value) : Holds other P (adjust name f v) ↔ Holds other P v := by
  simp only [Holds, attribute?_adjust, hne, if_false]

/-- What is held is still as it should be if the change keeps it so. -/
theorem Holds.adjust {name : String} {P : Value → Prop} {f : Value → Value} {v : Value}
    (h : Holds name P v) (hf : ∀ held, P held → P (f held)) : Holds name P (adjust name f v) := by
  intro held hheld
  rw [attribute?_adjust, if_pos rfl] at hheld
  obtain ⟨old, hold, rfl⟩ := Option.map_eq_some_iff.mp hheld
  exact hf old (h old hold)

theorem under_adjust_ne {α : Type} {name other : String} (hne : name ≠ other) (f : Value → Value)
    (parts : Value → List α) (v : Value) :
    under other parts (adjust name f v) = under other parts v := by
  simp only [under, attribute?_adjust, hne, if_false]

theorem under_adjust_self {α : Type} {name : String} {f : Value → Value} {parts : Value → List α}
    {g : α → α} (h : ∀ held, parts (f held) = (parts held).map g) (v : Value) :
    under name parts (adjust name f v) = (under name parts v).map g := by
  simp only [under, attribute?_adjust, if_true]
  cases v.attribute? name with
  | none => rfl
  | some held => simp [h]

/-- What is found in the value held under a name is found under the name. -/
theorem mem_under {α : Type} {name : String} {parts : Value → List α} {v held : Value} {x : α}
    (h : v.attribute? name = some held) (hx : x ∈ parts held) : x ∈ under name parts v := by
  simpa [under, h] using hx

/-! ## Texts -/

/-- A value in which references can be looked for: nothing, or a text. -/
def Legible (v : Value) : Prop :=
  v.isVacant = true ∨ ∃ s, v = .text s

/-- The text that a value is, if it is one. -/
def textsIn (v : Value) : List String :=
  v.text?.toList

/-- A text rewritten; any other value stays. -/
def mapText (f : String → String) : Value → Value
  | .text s => .text (f s)
  | v => v

theorem textsIn_mapText (f : String → String) (v : Value) :
    textsIn (mapText f v) = (textsIn v).map f := by
  unfold mapText
  split
  · rfl
  · rename_i hnot
    have hnone : v.text? = none := by
      unfold Value.text?
      split
      · rename_i s
        exact absurd rfl (hnot s)
      · rfl
    simp [textsIn, hnone]

/-- Rewriting changes nothing but texts. -/
theorem mapText_congr {f g : String → String} {v : Value} (h : ∀ text ∈ textsIn v, f text = g text) :
    mapText f v = mapText g v := by
  unfold mapText
  split
  · rename_i s
    rw [h s (by simp [textsIn, Value.text?])]
  · rfl

theorem mapText_id (v : Value) : mapText id v = v := by
  unfold mapText
  split <;> rfl

theorem mapText_mapText (f g : String → String) (v : Value) :
    mapText g (mapText f v) = mapText (g ∘ f) v := by
  cases v with
  | scalar s => cases s <;> rfl
  | _ => rfl

theorem Legible.mapText {v : Value} (h : Legible v) (f : String → String) :
    Legible (mapText f v) := by
  unfold Loose.mapText
  split
  · exact .inr ⟨_, rfl⟩
  · exact h

/-- The only text that is vacant is the empty one. -/
theorem eq_empty_of_isVacant {v : Value} (h : v.isVacant = true) {text : String}
    (ht : text ∈ textsIn v) : text = "" := by
  unfold textsIn Value.text? at ht
  split at ht
  · cases Option.mem_toList.mp ht
    exact String.isEmpty_iff.mp h
  · cases ht

/-- **A place is searched exactly if it holds nothing or a text.** -/
theorem namesIn_eq_ok_iff {name : String} {v : Value} {names : List String} :
    namesIn (v.attribute? name) = .ok names ↔
      Holds name Legible v ∧ (under name textsIn v).flatMap Reference.names = names := by
  unfold Holds under
  cases v.attribute? name with
  | none => simp [namesIn]
  | some held =>
    by_cases hvacant : held.isVacant = true
    · have hnone : (textsIn held).flatMap Reference.names = [] := by
        refine List.flatMap_eq_nil_iff.mpr fun text ht => ?_
        rw [eq_empty_of_isVacant hvacant ht, Reference.names_empty]
      simp [namesIn, hvacant, Legible, hnone]
    · have hnot : held.isVacant = false := by simpa using hvacant
      constructor
      · intro h
        simp only [namesIn, hnot, Bool.false_eq_true, if_false] at h
        -- Only a text passes the search.
        split at h
        · rename_i s
          cases h
          refine ⟨fun w hw => .inr ⟨s, (Option.some.inj hw).symm⟩, ?_⟩
          simp [textsIn, Value.text?]
        · cases h
        · cases h
      · rintro ⟨hlegible, rfl⟩
        rcases hlegible held rfl with h | ⟨s, rfl⟩
        · exact absurd h hvacant
        · simp [namesIn, hnot, textsIn, Value.text?]

/-- **Filling in a place that can be searched rewrites the text there.** -/
theorem fillAttribute_eq (table : Reference.Table) {name : String} {v : Value}
    (h : Holds name Legible v) :
    fillAttribute table name v = (adjust name (mapText (Reference.fill table)) v, none) := by
  have hkept : ∀ held, v.attribute? name = some held →
      (∀ text ∈ textsIn held, Reference.fill table text = text) →
      adjust name (mapText (Reference.fill table)) v = v := by
    intro held hheld htexts
    refine adjust_eq_self fun held' hheld' => ?_
    cases hheld.symm.trans hheld'
    rw [mapText_congr (g := id) htexts, mapText_id]
  unfold fillAttribute
  cases hheld : v.attribute? name with
  | none => simp only [adjust_of_none hheld]
  | some held =>
    by_cases hvacant : held.isVacant = true
    · rw [hkept held hheld fun text ht => by
        rw [eq_empty_of_isVacant hvacant ht]
        exact Reference.fill_eq_self fun r hr => by simp at hr]
      simp [hvacant]
    · by_cases htable : table = []
      · rw [hkept held hheld fun text _ => by rw [htable, Reference.fill_nil]]
        simp [htable]
      · rcases h held hheld with hv | ⟨s, rfl⟩
        · exact absurd hv hvacant
        · have hempty : table.isEmpty = false := by simpa using htable
          simp only [hvacant, hempty, Bool.or_self, Bool.false_eq_true, if_false]
          rw [adjust_of_some hheld]
          rfl

/-! ## Suggested actions -/

/-- The items of a collection. -/
def itemsIn : Value → List Value
  | .list items | .tuple items | .set items => items
  | _ => []

/-- A collection with its items rewritten; any other value stays. -/
def mapItems (f : Value → Value) : Value → Value
  | .list items => .list (items.map f)
  | .tuple items => .tuple (items.map f)
  | .set items => .set (items.map f)
  | v => v

theorem itemsIn_mapItems (f : Value → Value) (v : Value) :
    itemsIn (mapItems f v) = (itemsIn v).map f := by
  unfold mapItems
  split
  · rfl
  · rfl
  · rfl
  · rename_i hlist htuple hset
    unfold itemsIn
    split
    · exact absurd rfl (hlist _)
    · exact absurd rfl (htuple _)
    · exact absurd rfl (hset _)
    · rfl

theorem mapItems_congr {f g : Value → Value} {v : Value} (h : ∀ item ∈ itemsIn v, f item = g item) :
    mapItems f v = mapItems g v := by
  unfold mapItems
  split
  · exact congrArg Value.list (List.map_congr_left h)
  · exact congrArg Value.tuple (List.map_congr_left h)
  · exact congrArg Value.set (List.map_congr_left h)
  · rfl

theorem mapItems_id (v : Value) : mapItems id v = v := by
  unfold mapItems
  split <;> simp

/-- What stands where actions are expected can be gone through: it is vacant, a collection, a text,
or a mapping. -/
def Iterable : Value → Prop
  | .list _ | .tuple _ | .set _ | .text _ | .bytes _ | .mapping _ => True
  | v => v.isVacant = true

theorem not_iterable {v : Value} (hvacant : ¬v.isVacant = true)
    (hlist : ∀ items, v ≠ .list items) (htuple : ∀ items, v ≠ .tuple items)
    (hset : ∀ items, v ≠ .set items) (htext : ∀ s, v ≠ .text s) (hbytes : ∀ bs, v ≠ .bytes bs)
    (hmapping : ∀ entries, v ≠ .mapping entries) : ¬Iterable v := by
  intro h
  unfold Iterable at h
  split at h
  · exact hlist _ rfl
  · exact htuple _ rfl
  · exact hset _ rfl
  · exact htext _ rfl
  · exact hbytes _ rfl
  · exact hmapping _ rfl
  · exact hvacant h

/-- There are no items in a vacant value. -/
theorem itemsIn_of_isVacant {v : Value} (h : v.isVacant = true) : itemsIn v = [] := by
  unfold itemsIn
  split <;> first | exact List.isEmpty_iff.mp h | rfl

theorem Iterable.mapItems {v : Value} (h : Iterable v) (f : Value → Value) :
    Iterable (mapItems f v) := by
  unfold Loose.mapItems
  split
  · trivial
  · trivial
  · trivial
  · exact h

/-- An action in which references can be looked for. -/
structure SearchableAction (action : Value) : Prop where
  text : Holds "text" Legible action
  displayText : Holds "display_text" Legible action

/-- The texts of an action, its display text last. -/
def searchedAction (action : Value) : List String :=
  under "text" textsIn action ++ under "display_text" textsIn action

/-- An action with its texts rewritten. -/
def rewriteAction (f : String → String) (action : Value) : Value :=
  adjust "display_text" (mapText f) (adjust "text" (mapText f) action)

theorem text_ne_display_text : "text" ≠ "display_text" := by decide

theorem searchedAction_rewriteAction (f : String → String) (action : Value) :
    searchedAction (rewriteAction f action) = (searchedAction action).map f := by
  unfold searchedAction rewriteAction
  rw [under_adjust_ne text_ne_display_text.symm, under_adjust_self (textsIn_mapText f),
    under_adjust_self (textsIn_mapText f), under_adjust_ne text_ne_display_text, List.map_append]

theorem SearchableAction.rewriteAction {action : Value} (h : SearchableAction action)
    (f : String → String) : SearchableAction (rewriteAction f action) where
  text := (holds_adjust_ne text_ne_display_text.symm _ _ _).mpr
    (h.text.adjust fun _ hheld => hheld.mapText f)
  displayText := ((holds_adjust_ne text_ne_display_text _ _ _).mpr h.displayText).adjust
    fun _ hheld => hheld.mapText f

theorem rewriteAction_congr {f g : String → String} {action : Value}
    (h : ∀ text ∈ searchedAction action, f text = g text) :
    rewriteAction f action = rewriteAction g action := by
  have htext : adjust "text" (mapText f) action = adjust "text" (mapText g) action :=
    adjust_congr fun held hheld => mapText_congr fun text ht =>
      h text (List.mem_append_left _ (mem_under hheld ht))
  unfold rewriteAction
  rw [htext]
  refine adjust_congr fun held hheld => mapText_congr fun text ht => ?_
  rw [attribute?_adjust, if_neg text_ne_display_text] at hheld
  exact h text (List.mem_append_right _ (mem_under hheld ht))

theorem rewriteAction_id (action : Value) : rewriteAction id action = action := by
  rw [rewriteAction, adjust_eq_self fun held _ => mapText_id held,
    adjust_eq_self fun held _ => mapText_id held]

theorem actionReferences_eq_ok_iff (action : Value) (names : List String) :
    actionReferences action = .ok names ↔
      SearchableAction action ∧ (searchedAction action).flatMap Reference.names = names := by
  constructor
  · intro h
    obtain ⟨first, hfirst, h⟩ := bind_eq_ok.mp h
    obtain ⟨second, hsecond, h⟩ := bind_eq_ok.mp h
    obtain ⟨htext, rfl⟩ := namesIn_eq_ok_iff.mp hfirst
    obtain ⟨hdisplay, rfl⟩ := namesIn_eq_ok_iff.mp hsecond
    refine ⟨⟨htext, hdisplay⟩, ?_⟩
    rw [searchedAction, List.flatMap_append]
    exact Except.ok.inj h
  · rintro ⟨⟨htext, hdisplay⟩, rfl⟩
    rw [searchedAction, List.flatMap_append]
    exact bind_eq_ok.mpr ⟨_, namesIn_eq_ok_iff.mpr ⟨htext, rfl⟩,
      bind_eq_ok.mpr ⟨_, namesIn_eq_ok_iff.mpr ⟨hdisplay, rfl⟩, rfl⟩⟩

theorem fillAction_eq (table : Reference.Table) {action : Value} (h : SearchableAction action) :
    fillAction table action = (rewriteAction (Reference.fill table) action, none) := by
  -- The display text is filled in second, and is then still the one that was searched.
  have hdisplay : Holds "display_text" Legible
      (adjust "text" (mapText (Reference.fill table)) action) :=
    (holds_adjust_ne text_ne_display_text _ _ _).mpr h.displayText
  rw [fillAction, fillAttribute_eq table h.text]
  exact fillAttribute_eq table hdisplay

theorem fillItems_eq (table : Reference.Table) {items : List Value}
    (h : ∀ action ∈ items, SearchableAction action) :
    fillItems table items = (items.map (rewriteAction (Reference.fill table)), none) := by
  induction items with
  | nil => rfl
  | cons action rest ih =>
    obtain ⟨haction, hrest⟩ := List.forall_mem_cons.mp h
    simp only [fillItems, fillAction_eq table haction, ih hrest, List.map_cons]

theorem fillActionItems_eq (table : Reference.Table) {found : Value} (hiterable : Iterable found)
    (hitems : ∀ action ∈ itemsIn found, SearchableAction action) :
    fillActionItems table found = (mapItems (rewriteAction (Reference.fill table)) found, none) := by
  have hfilled := fillItems_eq table hitems
  unfold fillActionItems
  by_cases hvacant : found.isVacant = true
  · rw [if_pos hvacant]
    -- There is no action in a vacant value.
    rw [mapItems_congr (g := id) (by simp [itemsIn_of_isVacant hvacant]), mapItems_id]
  · rw [if_neg hvacant]
    split
    · exact congrArg (fun e => (Value.list e.1, e.2)) hfilled
    · exact congrArg (fun e => (Value.tuple e.1, e.2)) hfilled
    · exact congrArg (fun e => (Value.set e.1, e.2)) hfilled
    · rfl
    · rfl
    · rfl
    · rename_i hlist htuple hset htext hbytes hmapping
      exact absurd hiterable (not_iterable hvacant hlist htuple hset htext hbytes hmapping)

/-- What is gone through are the items of what is there. -/
theorem items_eq_ok_iff {found : Value} {items : List Value} :
    (if found.isVacant then .ok [] else actionItems found) = .ok items ↔
      Iterable found ∧ itemsIn found = items := by
  by_cases hvacant : found.isVacant = true
  · have hiterable : Iterable found := by
      unfold Iterable
      split <;> trivial
    rw [if_pos hvacant, itemsIn_of_isVacant hvacant]
    simp [hiterable]
  · rw [if_neg hvacant]
    unfold actionItems
    split
    · simp [Iterable, itemsIn]
    · simp [Iterable, itemsIn]
    · simp [Iterable, itemsIn]
    · simp [Iterable, itemsIn]
    · simp [Iterable, itemsIn]
    · simp [Iterable, itemsIn]
    · rename_i hlist htuple hset htext hbytes hmapping
      simp only [reduceCtorEq, false_iff, not_and]
      intro hiterable
      exact absurd hiterable (not_iterable hvacant hlist htuple hset htext hbytes hmapping)

theorem actions_eq_ok_iff {v suggested : Value} {items : List Value}
    (h : v.attribute? "suggested_actions" = some suggested) :
    actions v = .ok items ↔
      Holds "actions" Iterable suggested ∧ under "actions" itemsIn suggested = items := by
  unfold actions Holds under
  rw [h, Option.bind_some]
  cases suggested.attribute? "actions" with
  | none => simp
  | some found => simpa using items_eq_ok_iff

/-- Suggestions in which references can be looked for. -/
structure SearchableSuggestions (suggested : Value) : Prop where
  iterable : Holds "actions" Iterable suggested
  actions : ∀ action ∈ under "actions" itemsIn suggested, SearchableAction action

theorem referencesIn_actions_eq_ok_iff {v suggested : Value} {names : List String}
    (h : v.attribute? "suggested_actions" = some suggested) :
    referencesIn v .actions = .ok names ↔
      SearchableSuggestions suggested ∧
        ((under "actions" itemsIn suggested).flatMap searchedAction).flatMap Reference.names =
          names := by
  have hflatten : ((under "actions" itemsIn suggested).map fun action =>
      (searchedAction action).flatMap Reference.names).flatten =
        ((under "actions" itemsIn suggested).flatMap searchedAction).flatMap Reference.names := by
    rw [List.flatMap_assoc, List.flatMap_def (l := under "actions" itemsIn suggested)]
  rw [← hflatten]
  constructor
  · intro hreferences
    obtain ⟨items, hitems, hreferences⟩ := bind_eq_ok.mp hreferences
    obtain ⟨lists, hlists, hreferences⟩ := bind_eq_ok.mp hreferences
    obtain ⟨hiterable, rfl⟩ := (actions_eq_ok_iff h).mp hitems
    obtain ⟨hactions, rfl⟩ := (mapM_eq_ok_iff actionReferences_eq_ok_iff).mp hlists
    exact ⟨⟨hiterable, hactions⟩, Except.ok.inj hreferences⟩
  · rintro ⟨⟨hiterable, hactions⟩, rfl⟩
    exact bind_eq_ok.mpr ⟨_, (actions_eq_ok_iff h).mpr ⟨hiterable, rfl⟩,
      bind_eq_ok.mpr ⟨_, (mapM_eq_ok_iff actionReferences_eq_ok_iff).mpr ⟨hactions, rfl⟩, rfl⟩⟩

/-! ## Parts -/

/-- What is held for a part can be searched. -/
def SearchablePart : Part → Value → Prop
  | .text | .speech => Legible
  | .actions => SearchableSuggestions

/-- The texts in what is held for a part. -/
def searchedPart : Part → Value → List String
  | .text | .speech => textsIn
  | .actions => fun suggested => (under "actions" itemsIn suggested).flatMap searchedAction

/-- What is held for a part, with its texts rewritten. -/
def rewritePart (f : String → String) : Part → Value → Value
  | .text | .speech => mapText f
  | .actions => adjust "actions" (mapItems (rewriteAction f))

theorem searchedPart_rewritePart (f : String → String) (part : Part) (held : Value) :
    searchedPart part (rewritePart f part held) = (searchedPart part held).map f := by
  cases part with
  | text => exact textsIn_mapText f held
  | speech => exact textsIn_mapText f held
  | actions =>
    simp only [searchedPart, rewritePart, under_adjust_self (itemsIn_mapItems _), List.flatMap_map,
      searchedAction_rewriteAction, List.map_flatMap]

theorem SearchablePart.rewritePart {part : Part} {held : Value} (h : SearchablePart part held)
    (f : String → String) : SearchablePart part (rewritePart f part held) := by
  cases part with
  | text => exact Legible.mapText h f
  | speech => exact Legible.mapText h f
  | actions =>
    refine ⟨h.iterable.adjust fun _ hfound => hfound.mapItems _, fun action haction => ?_⟩
    rw [Loose.rewritePart, under_adjust_self (itemsIn_mapItems _)] at haction
    obtain ⟨old, hold, rfl⟩ := List.mem_map.mp haction
    exact (h.actions old hold).rewriteAction f

theorem rewritePart_congr {f g : String → String} {part : Part} {held : Value}
    (h : ∀ text ∈ searchedPart part held, f text = g text) :
    rewritePart f part held = rewritePart g part held := by
  cases part with
  | text => exact mapText_congr h
  | speech => exact mapText_congr h
  | actions =>
    refine adjust_congr fun found hfound => mapItems_congr fun action ha =>
      rewriteAction_congr fun text ht => h text ?_
    exact List.mem_flatMap.mpr ⟨action, mem_under hfound ha, ht⟩

theorem rewritePart_id (part : Part) (held : Value) : rewritePart id part held = held := by
  cases part with
  | text => exact mapText_id held
  | speech => exact mapText_id held
  | actions =>
    refine adjust_eq_self fun found _ => ?_
    rw [mapItems_congr fun action _ => rewriteAction_id action]
    exact mapItems_id found

theorem referencesIn_eq_ok_iff (v : Value) (part : Part) (names : List String) :
    referencesIn v part = .ok names ↔
      Holds part.attribute (SearchablePart part) v ∧
        (under part.attribute (searchedPart part) v).flatMap Reference.names = names := by
  cases part with
  | text => exact namesIn_eq_ok_iff
  | speech => exact namesIn_eq_ok_iff
  | actions =>
    cases hsuggested : v.attribute? "suggested_actions" with
    | none =>
      simp [referencesIn, actions, Holds, under, Part.attribute, hsuggested, bind, Except.bind,
        pure, Except.pure]
    | some suggested =>
      rw [referencesIn_actions_eq_ok_iff hsuggested]
      simp [Holds, under, Part.attribute, SearchablePart, searchedPart, hsuggested]

theorem fillActions_eq (table : Reference.Table) {v : Value}
    (h : Holds "suggested_actions" SearchableSuggestions v) :
    fillActions table v =
      (adjust "suggested_actions"
        (adjust "actions" (mapItems (rewriteAction (Reference.fill table)))) v, none) := by
  unfold fillActions
  cases hsuggested : v.attribute? "suggested_actions" with
  | none => rw [adjust_of_none hsuggested]
  | some suggested =>
    cases hfound : suggested.attribute? "actions" with
    | none =>
      rw [adjust_eq_self]
      · simp only [hfound]
      · intro held hheld
        cases hsuggested.symm.trans hheld
        exact adjust_of_none hfound
    | some found =>
      rw [adjust_of_some hsuggested, adjust_of_some hfound]
      obtain ⟨hiterable, hactions⟩ := h suggested hsuggested
      simp only [hfound, fillActionItems_eq table (hiterable found hfound) fun action ha =>
        hactions action (mem_under hfound ha)]

/-- **A part that can be searched is filled in by rewriting its texts.** -/
theorem fillPart_eq (table : Reference.Table) {v : Value} {part : Part}
    (h : Holds part.attribute (SearchablePart part) v) :
    fillPart table v part =
      (adjust part.attribute (rewritePart (Reference.fill table) part) v, none) := by
  cases part with
  | text => exact fillAttribute_eq table h
  | speech => exact fillAttribute_eq table h
  | actions => exact fillActions_eq table h

/-! ## Whole objects -/

/-- An object in which references can be looked for: what it has for each part can be searched. -/
def Searchable (v : Value) : Prop :=
  ∀ part : Part, Holds part.attribute (SearchablePart part) v

/-- The texts of an object in which references are looked for, in the order they are looked
through. -/
def searched (v : Value) : List String :=
  Part.all.flatMap fun part => under part.attribute (searchedPart part) v

/-- An object with the searched texts rewritten, and nothing else. -/
def rewrite (f : String → String) (v : Value) : Value :=
  Part.all.foldl (fun v part => adjust part.attribute (rewritePart f part) v) v

/-- **References can be listed exactly in searchable objects**, and they are those of the searched
texts. -/
theorem references_eq_ok_iff {v : Value} {names : List String} :
    references v = .ok names ↔
      Searchable v ∧ distinct ((searched v).flatMap Reference.names) = names := by
  have hall : Searchable v ↔ ∀ part ∈ Part.all, Holds part.attribute (SearchablePart part) v :=
    ⟨fun h part _ => h part, fun h part => h part part.mem_all⟩
  have hnames : (Part.all.map fun part =>
      (under part.attribute (searchedPart part) v).flatMap Reference.names).flatten =
        (searched v).flatMap Reference.names := by
    rw [searched, List.flatMap_assoc, List.flatMap_def (l := Part.all)]
  rw [hall, ← hnames]
  constructor
  · intro h
    obtain ⟨lists, hlists, h⟩ := bind_eq_ok.mp h
    obtain ⟨hsearchable, rfl⟩ := (mapM_eq_ok_iff (referencesIn_eq_ok_iff v)).mp hlists
    exact ⟨hsearchable, Except.ok.inj h⟩
  · rintro ⟨hsearchable, rfl⟩
    have hlists := (mapM_eq_ok_iff (referencesIn_eq_ok_iff v)).mpr ⟨hsearchable, rfl⟩
    exact bind_eq_ok.mpr ⟨_, hlists, rfl⟩

/-- Every part is rewritten where it stands. -/
theorem attribute?_rewrite (f : String → String) (v : Value) (part : Part) :
    (rewrite f v).attribute? part.attribute =
      (v.attribute? part.attribute).map (rewritePart f part) := by
  cases part <;> simp [rewrite, Part.all, Part.attribute, attribute?_adjust]

theorem Searchable.rewrite {v : Value} (h : Searchable v) (f : String → String) :
    Searchable (rewrite f v) := by
  intro part held hheld
  rw [attribute?_rewrite] at hheld
  obtain ⟨old, hold, rfl⟩ := Option.map_eq_some_iff.mp hheld
  exact (h part old hold).rewritePart f

theorem searched_rewrite (f : String → String) (v : Value) :
    searched (rewrite f v) = (searched v).map f := by
  rw [searched, searched, List.map_flatMap]
  refine List.flatMap_congr fun part _ => ?_
  unfold under
  rw [attribute?_rewrite]
  cases v.attribute? part.attribute with
  | none => rfl
  | some held => simp [searchedPart_rewritePart]

theorem rewrite_congr {f g : String → String} {v : Value}
    (h : ∀ text ∈ searched v, f text = g text) : rewrite f v = rewrite g v := by
  -- A part may be rewritten either way as long as it is as it was when it was searched.
  have hstep : ∀ (part : Part) (w : Value),
      w.attribute? part.attribute = v.attribute? part.attribute →
      adjust part.attribute (rewritePart f part) w =
        adjust part.attribute (rewritePart g part) w := by
    intro part w hw
    refine adjust_congr fun held hheld => rewritePart_congr fun text ht => h text ?_
    exact List.mem_flatMap.mpr ⟨part, part.mem_all, mem_under (hw ▸ hheld) ht⟩
  simp only [rewrite, Part.all, List.foldl_cons, List.foldl_nil]
  rw [hstep .text v rfl, hstep .speech, hstep .actions]
  · simp [attribute?_adjust, Part.attribute]
  · simp [attribute?_adjust, Part.attribute]

theorem rewrite_id (v : Value) : rewrite id v = v := by
  have hstep : ∀ (part : Part) (w : Value), adjust part.attribute (rewritePart id part) w = w :=
    fun part _ => adjust_eq_self fun held _ => rewritePart_id part held
  simp only [rewrite, hstep, List.foldl_fixed]

end Loose

namespace Subject

/-- **Filling in a searchable object rewrites the searched texts**, and is not stopped. -/
theorem fill_loose_eq (table : Reference.Table) {v : Value} (h : Loose.Searchable v) :
    (Subject.loose v).fill table = (.loose (Loose.rewrite (Reference.fill table) v), none) := by
  have hstep : ∀ (part : Part) (w : Value),
      Loose.Holds part.attribute (Loose.SearchablePart part) w →
      Edit.andThen (.loose w, none) (fillPart table · part) =
        (.loose (Loose.adjust part.attribute (Loose.rewritePart (Reference.fill table) part) w),
          none) := by
    intro part w hw
    simp only [Edit.andThen, fillPart, Loose.fillPart_eq table hw]
  simp only [fill, Part.all, List.foldl_cons, List.foldl_nil]
  rw [hstep .text v (h .text), hstep .speech, hstep .actions]
  · rfl
  -- Each part is still as it was searched when its turn comes.
  · rw [Loose.holds_adjust_ne (by decide), Loose.holds_adjust_ne (by decide)]
    exact h .actions
  · rw [Loose.holds_adjust_ne (by decide)]
    exact h .speech

end Subject

end Phrasing
