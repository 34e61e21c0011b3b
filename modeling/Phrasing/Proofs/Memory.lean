import Mathlib.Data.List.Count
import Mathlib.Data.List.Dedup
import Mathlib.Logic.Function.Iterate
import Phrasing.Proofs.LooseSubject

/-! # The places of an object in memory

An object in memory is searched at places that are listed before anything is written, and that filling in does not
move.  A place may be listed more than once, since actions may be shared; it is then filled in as often as it is
listed (`fill_object_eq`), so that what a phrase brings along is filled in as well.  Filling in is stopped exactly if a
listed place refuses a text that is to become another one (`fillPlaces_not_stopped_iff`).
-/

namespace Phrasing

theorem Edit.foldl_stopped {α β : Type} (next : β → α → Edit α) (bs : List β) (a : α) (mishap : Mishap) :
    bs.foldl (fun e b => Edit.andThen e (next b)) (a, some mishap) = (a, some mishap) := by
  induction bs with
  | nil => rfl
  | cons b bs ih => exact ih

/-! ## What is held -/

namespace Held

/-- What is held can be searched: nothing, or a text. -/
def Legible (held : Held) : Prop :=
  held.isVacant = true ∨ ∃ s, held = .value (.text s)

/-- The text that is held, if it is one. -/
def textsIn : Held → List String
  | .value v => Loose.textsIn v
  | _ => []

/-- A text rewritten; anything else stays. -/
def mapText (f : String → String) : Held → Held
  | .value v => .value (Loose.mapText f v)
  | held => held

theorem textsIn_mapText (f : String → String) (held : Held) :
    textsIn (mapText f held) = (textsIn held).map f := by
  cases held with
  | value v => exact Loose.textsIn_mapText f v
  | object id => rfl
  | items typeName members => rfl

theorem mapText_congr {f g : String → String} {held : Held} (h : ∀ text ∈ textsIn held, f text = g text) :
    mapText f held = mapText g held := by
  cases held with
  | value v => exact congrArg Held.value (Loose.mapText_congr h)
  | object id => rfl
  | items typeName members => rfl

theorem mapText_id (held : Held) : mapText id held = held := by
  cases held with
  | value v => exact congrArg Held.value (Loose.mapText_id v)
  | object id => rfl
  | items typeName members => rfl

theorem mapText_mapText (f g : String → String) (held : Held) :
    mapText g (mapText f held) = mapText (g ∘ f) held := by
  cases held with
  | value v => exact congrArg Held.value (Loose.mapText_mapText f g v)
  | object id => rfl
  | items typeName members => rfl

theorem Legible.mapText {held : Held} (h : Legible held) (f : String → String) : Legible (mapText f held) := by
  cases held with
  | value v =>
    have hlegible : Loose.Legible v := h.imp id fun ⟨s, hs⟩ => ⟨s, Held.value.inj hs⟩
    exact (hlegible.mapText f).imp id fun ⟨s, hs⟩ => ⟨s, congrArg Held.value hs⟩
  | object id => exact h
  | items typeName members => exact h

/-- The only text that is vacant is the empty one. -/
theorem eq_empty_of_isVacant {held : Held} (h : held.isVacant = true) {text : String}
    (ht : text ∈ textsIn held) : text = "" := by
  cases held with
  | value v => exact Loose.eq_empty_of_isVacant h ht
  | object id => cases ht
  | items typeName members => cases ht

end Held

namespace Memory

variable {m : Memory} {root : Nat} {p : Place} {ps : List Place} {f : String → String} {table : Reference.Table}

/-! ## Single places -/

/-- What is held at a place, if anything, can be searched. -/
def LegibleAt (m : Memory) (p : Place) : Prop :=
  ∀ held, m.held? p = some held → held.Legible

/-- The text at a place, if there is one. -/
def textsAt (m : Memory) (p : Place) : List String :=
  (m.held? p).toList.flatMap Held.textsIn

theorem mem_textsAt {text : String} : text ∈ m.textsAt p ↔ ∃ held, m.held? p = some held ∧ text ∈ held.textsIn := by
  simp [textsAt]

theorem textsAt_of_text {s : String} (h : m.held? p = some (.value (.text s))) : m.textsAt p = [s] := by
  rw [textsAt, h]
  rfl

/-- The only text at a vacant place is the empty one. -/
theorem eq_empty_of_vacant (h : ∀ held, m.held? p = some held → held.isVacant = true) {text : String}
    (ht : text ∈ m.textsAt p) : text = "" := by
  obtain ⟨held, hheld, ht⟩ := mem_textsAt.mp ht
  exact Held.eq_empty_of_isVacant (h held hheld) ht

/-- What comes of looking at a place. -/
inductive Found (m : Memory) (p : Place) : Except Mishap (Option String) → Prop where
  | text {s : String} (h : m.held? p = some (.value (.text s))) : Found m p (.ok (some s))
  | vacant (h : ∀ held, m.held? p = some held → held.isVacant = true) : Found m p (.ok none)
  | astray {held : Held} {mishap : Mishap} (h : m.held? p = some held) (hnot : ¬ held.Legible) :
    Found m p (.error mishap)

theorem found (m : Memory) (p : Place) : Found m p (m.textAt p) := by
  unfold textAt
  split
  · rename_i hnone
    exact .vacant fun held hheld => by cases hnone.symm.trans hheld
  · rename_i held hsome
    by_cases hvacant : held.isVacant = true
    · rw [if_pos hvacant]
      refine .vacant fun held' hheld' => ?_
      cases hsome.symm.trans hheld'
      exact hvacant
    · rw [if_neg hvacant]
      -- Only a text passes the search.
      split
      · exact .text hsome
      · refine .astray hsome ?_
        rintro (h | ⟨s, hs⟩)
        · exact hvacant h
        · cases hs
      · rename_i hnot _
        refine .astray hsome ?_
        rintro (h | ⟨s, hs⟩)
        · exact hvacant h
        · exact hnot s hs

/-- **A place is searched exactly if it holds nothing or a text.** -/
theorem namesAt_eq_ok_iff (p : Place) (names : List String) :
    m.namesAt p = .ok names ↔ m.LegibleAt p ∧ (m.textsAt p).flatMap Reference.names = names := by
  unfold namesAt
  cases hfound : m.textAt p with
  | error mishap =>
    have h := m.found p
    rw [hfound] at h
    cases h with
    | astray hheld hnot => exact iff_of_false (fun h => by cases h) fun h => hnot (h.1 _ hheld)
  | ok text =>
    have h := m.found p
    rw [hfound] at h
    cases h with
    | @text s hheld =>
      have hlegible : m.LegibleAt p := fun held hheld' => .inr ⟨s, Option.some.inj (hheld'.symm.trans hheld)⟩
      rw [and_iff_right hlegible, textsAt_of_text hheld, List.flatMap_singleton]
      exact ⟨Except.ok.inj, congrArg Except.ok⟩
    | vacant hvacant =>
      have hlegible : m.LegibleAt p := fun held hheld => .inl (hvacant held hheld)
      have hnone : (m.textsAt p).flatMap Reference.names = [] := by
        refine List.flatMap_eq_nil_iff.mpr fun text ht => ?_
        rw [eq_empty_of_vacant hvacant ht, Reference.names_empty]
      rw [and_iff_right hlegible, hnone]
      exact ⟨Except.ok.inj, congrArg Except.ok⟩

/-! ## Rewriting -/

/-- Memory with what is held changed, place by place. -/
def mapHeld (change : Place → Held → Held) (m : Memory) : Memory :=
  { m with attribute? := fun p => (m.attribute? p).map fun a => { a with held := change p a.held } }

/-- Memory with the texts at some places rewritten, as often as each is listed. -/
def rewriteEach (f : String → String) (ps : List Place) (m : Memory) : Memory :=
  m.mapHeld fun p => Held.mapText f^[ps.count p]

theorem held?_mapHeld (change : Place → Held → Held) (p : Place) :
    (m.mapHeld change).held? p = (m.held? p).map (change p) := by
  simp only [held?, mapHeld, Option.map_map]
  rfl

theorem mapHeld_congr {change change' : Place → Held → Held}
    (h : ∀ p held, m.held? p = some held → change p held = change' p held) :
    m.mapHeld change = m.mapHeld change' := by
  unfold mapHeld
  refine congrArg (Memory.mk m.typeName) (funext fun p => Option.map_congr fun a ha => ?_)
  rw [h p a.held (by rw [held?, ha]; rfl)]

theorem mapHeld_mapHeld (change change' : Place → Held → Held) :
    (m.mapHeld change).mapHeld change' = m.mapHeld fun p => change' p ∘ change p := by
  unfold mapHeld
  simp only [Option.map_map]
  rfl

theorem mapHeld_id : m.mapHeld (fun _ => id) = m := by
  unfold mapHeld
  simp only [id, Option.map_id']

theorem textsAt_rewriteEach (f : String → String) (ps : List Place) (p : Place) :
    (m.rewriteEach f ps).textsAt p = (m.textsAt p).map f^[ps.count p] := by
  unfold textsAt rewriteEach
  rw [held?_mapHeld]
  cases m.held? p with
  | none => rfl
  | some held => simp [Held.textsIn_mapText]

theorem LegibleAt.rewriteEach (h : m.LegibleAt p) (f : String → String) (ps : List Place) :
    (m.rewriteEach f ps).LegibleAt p := by
  intro held hheld
  rw [Memory.rewriteEach, held?_mapHeld] at hheld
  obtain ⟨old, hold, rfl⟩ := Option.map_eq_some_iff.mp hheld
  exact (h old hold).mapText _

theorem rewriteEach_congr {g : String → String} {qs : List Place}
    (h : ∀ p, ∀ text ∈ m.textsAt p, f^[ps.count p] text = g^[qs.count p] text) :
    m.rewriteEach f ps = m.rewriteEach g qs :=
  mapHeld_congr fun p _ hheld => Held.mapText_congr fun text ht => h p text (mem_textsAt.mpr ⟨_, hheld, ht⟩)

theorem rewriteEach_nil : m.rewriteEach f [] = m :=
  (mapHeld_congr fun _ held _ => Held.mapText_id held).trans mapHeld_id

/-- A text that is rewritten to itself stays, however often that is done. -/
theorem rewriteEach_eq_self (h : ∀ p ∈ ps, ∀ text ∈ m.textsAt p, f text = text) : m.rewriteEach f ps = m := by
  have hnone : m.rewriteEach f ps = m.rewriteEach f [] := by
    refine rewriteEach_congr fun p text ht => ?_
    by_cases hp : p ∈ ps
    · exact Function.iterate_fixed (h p hp text ht) _
    · rw [List.count_eq_zero_of_not_mem hp]
      rfl
  exact hnone.trans rewriteEach_nil

theorem rewriteEach_rewriteEach (f : String → String) (ps qs : List Place) :
    (m.rewriteEach f ps).rewriteEach f qs = m.rewriteEach f (ps ++ qs) := by
  unfold rewriteEach
  rw [mapHeld_mapHeld]
  refine mapHeld_congr fun p held _ => ?_
  rw [Function.comp_apply, Held.mapText_mapText, List.count_append, Nat.add_comm, Function.iterate_add]

/-! ## Refusals -/

/-- A place refuses to be written to. -/
def Refuses (m : Memory) (p : Place) (mishap : Mishap) : Prop :=
  (m.attribute? p).bind (·.refusal) = some mishap

/-- A place takes what is filled in there: unless its text stays as it is, it does not refuse. -/
def Takes (table : Reference.Table) (m : Memory) (p : Place) : Prop :=
  ∀ mishap, m.Refuses p mishap → ∀ text ∈ m.textsAt p, Reference.fill table text = text

theorem refuses_rewriteEach {mishap : Mishap} :
    (m.rewriteEach f ps).Refuses p mishap ↔ m.Refuses p mishap := by
  unfold Refuses rewriteEach mapHeld
  cases hattribute : m.attribute? p with
  | none => simp [hattribute]
  | some a => simp [hattribute]

theorem takes_of_not_refuses (h : ∀ mishap, ¬ m.Refuses p mishap) : m.Takes table p :=
  fun mishap hrefuses => absurd hrefuses (h mishap)

/-- A place that takes what is filled in there still does after places that do have been filled in. -/
theorem takes_rewriteEach_iff (h : ∀ q ∈ ps, m.Takes table q) :
    (m.rewriteEach (Reference.fill table) ps).Takes table p ↔ m.Takes table p := by
  unfold Takes
  refine forall_congr' fun mishap => ?_
  rw [refuses_rewriteEach, textsAt_rewriteEach]
  refine forall_congr' fun hrefuses => ?_
  by_cases hp : p ∈ ps
  · -- It refuses, so its text stays as it is.
    have hfixed := h p hp mishap hrefuses
    refine iff_of_true (fun text ht => ?_) hfixed
    obtain ⟨old, hold, rfl⟩ := List.mem_map.mp ht
    rw [Function.iterate_fixed (hfixed old hold)]
    exact hfixed old hold
  · rw [List.count_eq_zero_of_not_mem hp, Function.iterate_zero, List.map_id]

/-! ## Filling in -/

theorem write_eq {new : Held} (h : ∀ mishap, ¬ m.Refuses p mishap) :
    m.write p new = (m.mapHeld fun q held => if q = p then new else held, none) := by
  have hnone : (m.attribute? p).bind (·.refusal) = none := Option.eq_none_iff_forall_ne_some.mpr h
  unfold write
  rw [hnone]
  refine congrArg (·, none) (congrArg (Memory.mk m.typeName) (funext fun q => ?_))
  by_cases hq : q = p
  · simp only [if_pos hq]
  · simp only [if_neg hq]
    exact Option.map_id'.symm

/-- Writing to a place that holds a text rewrites that one, and nothing else. -/
theorem write_text {s : String} (hheld : m.held? p = some (.value (.text s)))
    (h : ∀ mishap, ¬ m.Refuses p mishap) :
    m.write p (.value (.text (f s))) = (m.rewriteEach f [p], none) := by
  rw [write_eq h]
  refine congrArg (·, none) (mapHeld_congr fun q held hq => ?_)
  by_cases hqp : q = p
  · subst hqp
    cases hheld.symm.trans hq
    rw [if_pos rfl, List.count_singleton_self]
    rfl
  · rw [if_neg hqp, List.count_eq_zero_of_not_mem fun hmem => hqp (List.mem_singleton.mp hmem)]
    exact (Held.mapText_id held).symm

/-- A place whose texts stay as they are takes what is filled in there, and filling in leaves everything. -/
theorem takes_of_fixed (h : ∀ text ∈ m.textsAt p, Reference.fill table text = text) :
    m.Takes table p ∧ ((m, none) : Edit Memory) = (m.rewriteEach (Reference.fill table) [p], none) := by
  refine ⟨fun _ _ => h, congrArg (·, none) (rewriteEach_eq_self fun q hq => ?_).symm⟩
  cases List.mem_singleton.mp hq
  exact h

/-- What comes of filling in a place: the text there is rewritten, or the place refuses that. -/
theorem fillPlace_cases (table : Reference.Table) (h : m.LegibleAt p) :
    (m.Takes table p ∧ fillPlace table m p = (m.rewriteEach (Reference.fill table) [p], none)) ∨
      ∃ mishap, m.Refuses p mishap ∧ (∃ text ∈ m.textsAt p, Reference.fill table text ≠ text) ∧
        fillPlace table m p = (m, some mishap) := by
  unfold fillPlace
  by_cases hempty : table.isEmpty = true
  · rw [if_pos hempty]
    refine .inl (takes_of_fixed fun text _ => ?_)
    rw [List.isEmpty_iff.mp hempty, Reference.fill_nil]
  rw [if_neg hempty]
  have hfound := m.found p
  cases htext : m.textAt p with
  | error mishap =>
    rw [htext] at hfound
    cases hfound with
    | astray hheld hnot => exact absurd (h _ hheld) hnot
  | ok found =>
    rw [htext] at hfound
    cases hfound with
    | vacant hvacant =>
      refine .inl (takes_of_fixed fun text ht => ?_)
      rw [eq_empty_of_vacant hvacant ht]
      exact Reference.fill_eq_self fun r hr => by simp at hr
    | @text s hheld =>
      have htexts := textsAt_of_text hheld
      dsimp only
      by_cases hsame : Reference.fill table s = s
      · rw [if_pos hsame]
        refine .inl (takes_of_fixed ?_)
        rw [htexts]
        exact List.forall_mem_singleton.mpr hsame
      rw [if_neg hsame]
      cases hrefusal : (m.attribute? p).bind (·.refusal) with
      | some mishap =>
        refine .inr ⟨mishap, hrefusal, ⟨s, by rw [htexts]; exact List.mem_singleton_self s, hsame⟩, ?_⟩
        rw [write, hrefusal]
      | none =>
        have hnot : ∀ mishap, ¬ m.Refuses p mishap := Option.eq_none_iff_forall_ne_some.mp hrefusal
        exact .inl ⟨takes_of_not_refuses hnot, write_text hheld hnot⟩

theorem fillPlaces_cons (table : Reference.Table) (m : Memory) (p : Place) (ps : List Place) :
    fillPlaces table m (p :: ps) = Edit.andThen (fillPlace table m p) (fillPlaces table · ps) := by
  unfold fillPlaces
  rw [List.foldl_cons]
  show ps.foldl _ (fillPlace table m p) = _
  cases h : fillPlace table m p with
  | mk m' stopped =>
    cases stopped with
    | none => rfl
    | some mishap => exact Edit.foldl_stopped (fun p m => fillPlace table m p) ps m' mishap

theorem fillPlaces_append (table : Reference.Table) (m : Memory) (ps qs : List Place) :
    fillPlaces table m (ps ++ qs) = Edit.andThen (fillPlaces table m ps) (fillPlaces table · qs) := by
  unfold fillPlaces
  rw [List.foldl_append]
  generalize ps.foldl (fun e p => Edit.andThen e (fillPlace table · p)) (m, none) = e
  obtain ⟨m', stopped⟩ := e
  cases stopped with
  | none => rfl
  | some mishap => exact Edit.foldl_stopped (fun p m => fillPlace table m p) qs m' mishap

/-- **What comes of filling in places one after another**: each is filled in as often as it is listed, or one of them
refuses. -/
theorem fillPlaces_cases (table : Reference.Table) (h : ∀ p ∈ ps, m.LegibleAt p) :
    ((∀ p ∈ ps, m.Takes table p) ∧
        fillPlaces table m ps = (m.rewriteEach (Reference.fill table) ps, none)) ∨
      ∃ mishap, (fillPlaces table m ps).2 = some mishap ∧
        ∃ p ∈ ps, m.Refuses p mishap ∧ ∃ text ∈ m.textsAt p, Reference.fill table text ≠ text := by
  induction ps generalizing m with
  | nil =>
    refine .inl ⟨fun _ hp => absurd hp List.not_mem_nil, congrArg (·, none) ?_⟩
    exact rewriteEach_nil.symm
  | cons p ps ih =>
    obtain ⟨hp, hps⟩ := List.forall_mem_cons.mp h
    rw [fillPlaces_cons]
    rcases fillPlace_cases table hp with ⟨htakes, hfill⟩ | ⟨mishap, hrefuses, hchanges, hfill⟩
    · -- The other places are met as the first one leaves them.
      have hone : ∀ q ∈ [p], m.Takes table q := List.forall_mem_singleton.mpr htakes
      rw [hfill]
      show (_ ∧ fillPlaces table _ ps = _) ∨ ∃ mishap, (fillPlaces table _ ps).2 = some mishap ∧ _
      rcases ih fun q hq => (hps q hq).rewriteEach _ _ with ⟨hrest, heq⟩ | ⟨mishap, hstop, q, hq, hrefuses, hchanges⟩
      · refine .inl ⟨List.forall_mem_cons.mpr ⟨htakes, fun q hq => (takes_rewriteEach_iff hone).mp (hrest q hq)⟩, ?_⟩
        rw [heq, rewriteEach_rewriteEach]
        rfl
      · refine .inr ⟨mishap, hstop, q, List.mem_cons_of_mem _ hq, refuses_rewriteEach.mp hrefuses, ?_⟩
        by_contra hnone
        have htakes' : m.Takes table q := fun _ _ text ht => by
          by_contra hne
          exact hnone ⟨text, ht, hne⟩
        obtain ⟨text, ht, hne⟩ := hchanges
        exact hne ((takes_rewriteEach_iff hone).mpr htakes' mishap hrefuses text ht)
    · rw [hfill]
      exact .inr ⟨mishap, rfl, p, List.mem_cons_self, hrefuses, hchanges⟩

/-- **Filling in is not stopped exactly if every place takes what is filled in there.** -/
theorem fillPlaces_not_stopped_iff (h : ∀ p ∈ ps, m.LegibleAt p) :
    (fillPlaces table m ps).2 = none ↔ ∀ p ∈ ps, m.Takes table p := by
  rcases fillPlaces_cases table h with ⟨htakes, heq⟩ | ⟨mishap, hstop, p, hp, hrefuses, text, ht, hne⟩
  · rw [heq]
    exact iff_of_true rfl htakes
  · rw [hstop]
    exact iff_of_false (fun h => by cases h) fun htakes => hne (htakes p hp mishap hrefuses text ht)

/-! ## Whole objects -/

/-- The places of an object, in the order they are visited. -/
def places (m : Memory) (root : Nat) : Except Mishap (List Place) :=
  (Part.all.mapM (m.placesIn root)).map List.flatten

/-- The texts of an object in which references are looked for, in the order they are looked through. -/
def searched (m : Memory) (root : Nat) : List String :=
  ((m.places root).toOption.getD []).flatMap m.textsAt

/-- The places of an object are those of its parts. -/
theorem places_eq_ok_iff :
    m.places root = .ok ps ↔
      ∃ lists : Part → List Place, (∀ part, m.placesIn root part = .ok (lists part)) ∧ Part.all.flatMap lists = ps := by
  have hplaces {lists : Part → List Place} (h : ∀ part, m.placesIn root part = .ok (lists part)) :
      m.places root = .ok (Part.all.flatMap lists) := by
    refine map_eq_ok.mpr ⟨Part.all.map lists, ?_, List.flatMap_def.symm⟩
    refine (mapM_eq_ok_iff (P := fun _ => True) fun part list => ?_).mpr ⟨fun _ _ => trivial, rfl⟩
    rw [h, true_and]
    exact ⟨Except.ok.inj, congrArg Except.ok⟩
  constructor
  · intro h
    obtain ⟨found, hfound, _⟩ := map_eq_ok.mp h
    choose lists hlists using fun part : Part => exists_of_mapM_eq_ok hfound part part.mem_all
    exact ⟨lists, hlists, Except.ok.inj ((hplaces hlists).symm.trans h)⟩
  · rintro ⟨lists, hlists, rfl⟩
    exact hplaces hlists

theorem searched_eq (h : m.places root = .ok ps) : m.searched root = ps.flatMap m.textsAt := by
  rw [searched, h]
  rfl

theorem referencesIn_eq_ok_iff {part : Part} (h : m.placesIn root part = .ok ps) (names : List String) :
    m.referencesIn root part = .ok names ↔
      (∀ p ∈ ps, m.LegibleAt p) ∧ (ps.flatMap m.textsAt).flatMap Reference.names = names := by
  have hflatten : (ps.map fun p => (m.textsAt p).flatMap Reference.names).flatten =
      (ps.flatMap m.textsAt).flatMap Reference.names := by
    rw [List.flatMap_assoc, List.flatMap_def (l := ps)]
  unfold referencesIn
  rw [h, ← hflatten]
  show (ps.mapM m.namesAt >>= fun names => pure names.flatten) = _ ↔ _
  constructor
  · intro hnames
    obtain ⟨lists, hlists, hnames⟩ := bind_eq_ok.mp hnames
    obtain ⟨hlegible, rfl⟩ := (mapM_eq_ok_iff namesAt_eq_ok_iff).mp hlists
    exact ⟨hlegible, Except.ok.inj hnames⟩
  · rintro ⟨hlegible, rfl⟩
    exact bind_eq_ok.mpr ⟨_, (mapM_eq_ok_iff namesAt_eq_ok_iff).mpr ⟨hlegible, rfl⟩, rfl⟩

/-- **References can be listed exactly if there is a list of places that can all be searched**, and they are those of
the texts there. -/
theorem references_eq_ok_iff {names : List String} :
    m.references root = .ok names ↔ ∃ ps, m.places root = .ok ps ∧ (∀ p ∈ ps, m.LegibleAt p) ∧
      distinct ((ps.flatMap m.textsAt).flatMap Reference.names) = names := by
  have hparts {lists : Part → List Place} (hlists : ∀ part, m.placesIn root part = .ok (lists part)) :
      m.references root = .ok names ↔ (∀ p ∈ Part.all.flatMap lists, m.LegibleAt p) ∧
        distinct (((Part.all.flatMap lists).flatMap m.textsAt).flatMap Reference.names) = names := by
    have hnames : (Part.all.map fun part => ((lists part).flatMap m.textsAt).flatMap Reference.names).flatten =
        ((Part.all.flatMap lists).flatMap m.textsAt).flatMap Reference.names := by
      rw [List.flatMap_assoc, List.flatMap_assoc, List.flatMap_def (l := Part.all)]
      simp only [List.flatMap_assoc]
    have hmapM {found : List (List String)} : Part.all.mapM (m.referencesIn root) = .ok found ↔
        (∀ part ∈ Part.all, ∀ p ∈ lists part, m.LegibleAt p) ∧
          Part.all.map (fun part => ((lists part).flatMap m.textsAt).flatMap Reference.names) = found :=
      mapM_eq_ok_iff fun part names => referencesIn_eq_ok_iff (hlists part) names
    rw [List.forall_mem_flatMap, ← hnames]
    constructor
    · intro h
      obtain ⟨found, hfound, h⟩ := bind_eq_ok.mp h
      obtain ⟨hlegible, rfl⟩ := hmapM.mp hfound
      exact ⟨hlegible, Except.ok.inj h⟩
    · rintro ⟨hlegible, rfl⟩
      exact bind_eq_ok.mpr ⟨_, hmapM.mpr ⟨hlegible, rfl⟩, rfl⟩
  constructor
  · intro h
    obtain ⟨found, hfound, _⟩ := bind_eq_ok.mp h
    have hin (part : Part) : ∃ list, m.placesIn root part = .ok list := by
      obtain ⟨names, hnames⟩ := exists_of_mapM_eq_ok hfound part part.mem_all
      exact (bind_eq_ok.mp hnames).imp fun _ => And.left
    choose lists hlists using hin
    exact ⟨_, places_eq_ok_iff.mpr ⟨lists, hlists, rfl⟩, (hparts hlists).mp h⟩
  · rintro ⟨ps, hps, hlegible, hnames⟩
    obtain ⟨lists, hlists, rfl⟩ := places_eq_ok_iff.mp hps
    exact (hparts hlists).mpr ⟨hlegible, hnames⟩

/-- A text has no members with places of their own, whatever it is rewritten to. -/
theorem members_rewriteEach (f g : String → String) (ps : List Place) (found : Option Held) :
    (m.rewriteEach f ps).members (found.map (Held.mapText g)) = m.members found := by
  cases found with
  | none => rfl
  | some held =>
    cases held with
    | object id => rfl
    | items typeName found => rfl
    | value v =>
      cases v with
      | scalar s =>
        cases s with
        | text s =>
          have hnone (s : String) : m.members (some (.value (.text s))) = .ok [] := ite_self _
          exact (hnone (g s)).trans (hnone s).symm
        | _ => rfl
      | _ => rfl

/-- Where texts are rewritten, nothing moves. -/
theorem placesIn_rewriteEach (f : String → String) (ps : List Place) (part : Part) :
    (m.rewriteEach f ps).placesIn root part = m.placesIn root part := by
  cases part with
  | text => rfl
  | speech => rfl
  | actions =>
    have hactions : (m.rewriteEach f ps).actions root = m.actions root := by
      have hheld (id : Nat) (name : String) : (m.rewriteEach f ps).held? ⟨id, name⟩ =
          (m.held? ⟨id, name⟩).map (Held.mapText f^[ps.count ⟨id, name⟩]) := held?_mapHeld _ _
      unfold actions
      rw [hheld]
      cases m.held? ⟨root, "suggested_actions"⟩ with
      | none => rfl
      | some held =>
        cases held with
        | value v => rfl
        | items typeName found => rfl
        | object suggested =>
          simp only [Option.map_some, Held.mapText]
          rw [hheld, members_rewriteEach]
    rw [placesIn, placesIn, hactions]

/-- The texts of an object can be rewritten each by itself: its places can be listed and searched, none of them is
listed twice, and none refuses to be written to. -/
def Searchable (m : Memory) (root : Nat) : Prop :=
  ∃ ps, m.places root = .ok ps ∧ ps.Nodup ∧ ∀ p ∈ ps, m.LegibleAt p ∧ ∀ mishap, ¬ m.Refuses p mishap

/-- An object with each of the searched texts rewritten once, and nothing else. -/
def rewrite (f : String → String) (m : Memory) (root : Nat) : Memory :=
  m.rewriteEach f ((m.places root).toOption.getD []).dedup

theorem places_rewriteEach (f : String → String) (ps : List Place) :
    (m.rewriteEach f ps).places root = m.places root := by
  have hparts : (m.rewriteEach f ps).placesIn root = m.placesIn root :=
    funext (placesIn_rewriteEach f ps)
  rw [places, hparts, places]

theorem rewrite_eq (hplaces : m.places root = .ok ps) (hnodup : ps.Nodup) :
    m.rewrite f root = m.rewriteEach f ps := by
  unfold rewrite
  rw [hplaces, Except.toOption, Option.getD_some, hnodup.dedup]

theorem searched_rewrite (f : String → String) (m : Memory) (root : Nat) :
    (m.rewrite f root).searched root = (m.searched root).map f := by
  unfold searched rewrite
  rw [places_rewriteEach, List.map_flatMap]
  refine List.flatMap_congr fun p hp => ?_
  rw [textsAt_rewriteEach, List.count_eq_one_of_mem (List.nodup_dedup _) (List.mem_dedup.mpr hp),
    Function.iterate_one]

theorem Searchable.rewrite (h : m.Searchable root) (f : String → String) :
    (m.rewrite f root).Searchable root := by
  obtain ⟨ps, hplaces, hnodup, hps⟩ := h
  refine ⟨ps, (places_rewriteEach _ _).trans hplaces, hnodup, fun p hp => ?_⟩
  obtain ⟨hlegible, hwritable⟩ := hps p hp
  exact ⟨hlegible.rewriteEach _ _, fun mishap hrefuses => hwritable mishap (refuses_rewriteEach.mp hrefuses)⟩

theorem rewrite_congr {g : String → String} (h : ∀ text ∈ m.searched root, f text = g text) :
    m.rewrite f root = m.rewrite g root := by
  refine rewriteEach_congr fun p text ht => ?_
  by_cases hp : p ∈ (m.places root).toOption.getD []
  · rw [List.count_eq_one_of_mem (List.nodup_dedup _) (List.mem_dedup.mpr hp)]
    exact h text (List.mem_flatMap.mpr ⟨p, hp, ht⟩)
  · rw [List.count_eq_zero_of_not_mem fun hmem => hp (List.mem_dedup.mp hmem)]
    rfl

theorem rewrite_id (m : Memory) (root : Nat) : m.rewrite id root = m :=
  rewriteEach_eq_self fun _ _ _ _ => rfl

end Memory

namespace Subject

open Memory

variable {m : Memory} {root : Nat} {ps : List Place} {table : Reference.Table}

/-- The parts of an object are filled in one after another, as their places are. -/
theorem foldl_fillPart_object (parts : List Part) {lists : Part → List Place}
    (hlists : ∀ part, m.placesIn root part = .ok (lists part))
    (hlegible : ∀ p ∈ parts.flatMap lists, m.LegibleAt p) :
    parts.foldl (fun e part => Edit.andThen e (fillPart table · part)) (.object m root, none) =
      (.object (fillPlaces table m (parts.flatMap lists)).1 root, (fillPlaces table m (parts.flatMap lists)).2) := by
  induction parts generalizing m with
  | nil => rfl
  | cons part parts ih =>
    rw [List.flatMap_cons] at hlegible ⊢
    obtain ⟨hpart, hparts⟩ := List.forall_mem_append.mp hlegible
    have hfill : fillPart table (.object m root) part =
        (.object (fillPlaces table m (lists part)).1 root, (fillPlaces table m (lists part)).2) := by
      show (Subject.object (Memory.fillPart table m root part).1 root, (Memory.fillPart table m root part).2) = _
      rw [Memory.fillPart, hlists]
    rw [List.foldl_cons, fillPlaces_append]
    show parts.foldl _ (fillPart table (.object m root) part) = _
    rw [hfill]
    rcases fillPlaces_cases table hpart with ⟨_, heq⟩ | ⟨mishap, hstop, _⟩
    · -- The places of the other parts stay where they are.
      rw [heq]
      exact ih (fun other => (placesIn_rewriteEach _ _ other).trans (hlists other))
        fun p hp => (hparts p hp).rewriteEach _ _
    · obtain ⟨m', hm'⟩ : ∃ m', fillPlaces table m (lists part) = (m', some mishap) := ⟨_, Prod.ext rfl hstop⟩
      rw [hm']
      exact Edit.foldl_stopped (fun part s => fillPart table s part) parts _ mishap

/-- An object whose places can all be searched is filled in place by place. -/
theorem fill_object (hplaces : m.places root = .ok ps) (hlegible : ∀ p ∈ ps, m.LegibleAt p) :
    (Subject.object m root).fill table = (.object (fillPlaces table m ps).1 root, (fillPlaces table m ps).2) := by
  obtain ⟨lists, hlists, rfl⟩ := places_eq_ok_iff.mp hplaces
  exact foldl_fillPart_object Part.all hlists hlegible

/-- **If no place refuses what is filled in, every text is filled in as often as its place is listed**, and nothing
else is written. -/
theorem fill_object_eq (hplaces : m.places root = .ok ps) (hlegible : ∀ p ∈ ps, m.LegibleAt p)
    (htakes : ∀ p ∈ ps, m.Takes table p) :
    (Subject.object m root).fill table = (.object (m.rewriteEach (Reference.fill table) ps) root, none) := by
  rw [fill_object hplaces hlegible]
  rcases fillPlaces_cases table hlegible with ⟨_, heq⟩ | ⟨mishap, hstop, _⟩
  · rw [heq]
  · cases hstop.symm.trans ((fillPlaces_not_stopped_iff hlegible).mpr htakes)

end Subject

end Phrasing
