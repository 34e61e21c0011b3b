import Phrasing.Proofs.Memory

/-! # References are listed and filled in at the same places

A subject is searched, and written to, at the same places: text, speech, and the text and display text of every
suggested action.  So the references that are listed are exactly those that filling in can replace: entries of the
table under other names make no difference, a place changes only for the sake of a reference that was listed, and
nothing but the texts at these places is written.  An object in memory is different in two ways: a place that an action
shares with another one is filled in for each of them, and a place may refuse what is filled in (`filled_where_searched`).
-/

namespace Phrasing.Subject

/-- The texts of a subject in which references are looked for, in the order they are looked
through. -/
def searched : Subject → List String
  | .activity a => a.searched
  | .loose v => Loose.searched v
  | .object m root => m.searched root

/-- A subject in which references can be looked for.  The texts of an object in memory are then at places of their
own, which can be written to. -/
def Searchable : Subject → Prop
  | .activity _ => True
  | .loose v => Loose.Searchable v
  | .object m root => m.Searchable root

/-- A subject with the searched texts rewritten, and nothing else. -/
def rewrite (f : String → String) : Subject → Subject
  | .activity a => .activity (a.rewrite f)
  | .loose v => .loose (Loose.rewrite f v)
  | .object m root => .object (m.rewrite f root) root

/-- The references of a searchable subject are those of its searched texts. -/
theorem references_eq {s : Subject} (h : s.Searchable) :
    s.references = .ok (distinct (s.searched.flatMap Reference.names)) := by
  cases s with
  | activity a => exact congrArg Except.ok (Activity.references_eq a)
  | loose v => exact Loose.references_eq_ok_iff.mpr ⟨h, rfl⟩
  | object m root =>
    obtain ⟨ps, hplaces, _, hps⟩ := h
    refine Memory.references_eq_ok_iff.mpr ⟨ps, hplaces, fun p hp => (hps p hp).1, ?_⟩
    rw [searched, Memory.searched_eq hplaces]

/-- Filling in a searchable subject rewrites its searched texts. -/
theorem fill_eq_rewrite (table : Reference.Table) {s : Subject} (h : s.Searchable) :
    s.fill table = (s.rewrite (Reference.fill table), none) := by
  cases s with
  | activity a => rfl
  | loose v => exact fill_loose_eq table h
  | object m root =>
    obtain ⟨ps, hplaces, hnodup, hps⟩ := h
    have htakes : ∀ p ∈ ps, m.Takes table p := fun p hp => Memory.takes_of_not_refuses (hps p hp).2
    rw [fill_object_eq hplaces (fun p hp => (hps p hp).1) htakes, rewrite, Memory.rewrite_eq hplaces hnodup]

theorem searched_rewrite (f : String → String) (s : Subject) :
    (s.rewrite f).searched = s.searched.map f := by
  cases s with
  | activity a => exact Activity.searched_rewrite f a
  | loose v => exact Loose.searched_rewrite f v
  | object m root => exact Memory.searched_rewrite f m root

/-- A subject can still be searched when its texts are rewritten. -/
theorem Searchable.rewrite {s : Subject} (h : s.Searchable) (f : String → String) :
    (s.rewrite f).Searchable := by
  cases s with
  | activity a => trivial
  | loose v => exact Loose.Searchable.rewrite h f
  | object m root => exact Memory.Searchable.rewrite h f

theorem rewrite_congr {f g : String → String} {s : Subject}
    (h : ∀ text ∈ s.searched, f text = g text) : s.rewrite f = s.rewrite g := by
  cases s with
  | activity a => exact congrArg Subject.activity (Activity.rewrite_congr h)
  | loose v => exact congrArg Subject.loose (Loose.rewrite_congr h)
  | object m root => exact congrArg (Subject.object · root) (Memory.rewrite_congr h)

/-- A subject is as it was if every searched text is. -/
theorem rewrite_eq_self {f : String → String} {s : Subject} (h : ∀ text ∈ s.searched, f text = text) :
    s.rewrite f = s := by
  rw [rewrite_congr (g := id) h]
  cases s with
  | activity a => exact congrArg Subject.activity (Activity.rewrite_id a)
  | loose v => exact congrArg Subject.loose (Loose.rewrite_id v)
  | object m root => exact congrArg (Subject.object · root) (Memory.rewrite_id m root)

/-- The references that are listed are those of the searched texts, once each. -/
theorem references_eq_distinct {s : Subject} {names : List String} (h : s.references = .ok names) :
    names = distinct (s.searched.flatMap Reference.names) := by
  cases s with
  | activity a => exact (Except.ok.inj h).symm.trans (Activity.references_eq a)
  | loose v => exact (Loose.references_eq_ok_iff.mp h).2.symm
  | object m root =>
    obtain ⟨ps, hplaces, _, hnames⟩ := Memory.references_eq_ok_iff.mp h
    rw [searched, Memory.searched_eq hplaces, hnames]

theorem nodup_references {s : Subject} {names : List String} (h : s.references = .ok names) : names.Nodup := by
  rw [references_eq_distinct h]
  exact nodup_distinct _

/-- A reference of a subject stands in one of the texts that are searched. -/
theorem mem_references {s : Subject} {names : List String} (h : s.references = .ok names) {name : String} :
    name ∈ names ↔ ∃ text ∈ s.searched, name ∈ Reference.names text := by
  rw [references_eq_distinct h, mem_distinct, List.mem_flatMap]

/-! ## Refusals -/

/-- A place of a subject refuses a text that is filled in from a table.  Only those of an object in memory can. -/
inductive Refuses (table : Reference.Table) (mishap : Mishap) : Subject → Prop where
  | place {m : Memory} {root : Nat} {ps : List Place} {p : Place} {text : String} (hplaces : m.places root = .ok ps)
    (hp : p ∈ ps) (hrefuses : m.Refuses p mishap) (ht : text ∈ m.textsAt p) (hne : Reference.fill table text ≠ text) :
    Refuses table mishap (.object m root)

/-- The attributes of a subject can be written to. -/
def Settable : Subject → Prop
  | .activity _ | .loose _ => True
  | .object m _ => ∀ p mishap, ¬ m.Refuses p mishap

theorem Settable.not_refuses {s : Subject} (h : s.Settable) (table : Reference.Table) (mishap : Mishap) :
    ¬ s.Refuses table mishap := by
  intro hrefuses
  cases hrefuses with
  | place _ _ hrefuses => exact h _ _ hrefuses

/-- Filling in a subject is stopped by a refusal only. -/
theorem refuses_of_fill_stopped {s : Subject} {names : List String} {table : Reference.Table} {mishap : Mishap}
    (h : s.references = .ok names) (hstop : (s.fill table).2 = some mishap) : s.Refuses table mishap := by
  cases s with
  | activity a => cases hstop
  | loose v =>
    rw [fill_loose_eq table (Loose.references_eq_ok_iff.mp h).1] at hstop
    cases hstop
  | object m root =>
    obtain ⟨ps, hplaces, hlegible, _⟩ := Memory.references_eq_ok_iff.mp h
    rw [fill_object hplaces hlegible] at hstop
    rcases Memory.fillPlaces_cases table hlegible with
      ⟨_, heq⟩ | ⟨mishap', hstop', p, hp, hrefuses, text, ht, hne⟩
    · rw [heq] at hstop
      cases hstop
    · cases hstop'.symm.trans hstop
      exact .place hplaces hp hrefuses ht hne

/-- **Once its references could be listed, a subject can be filled in to the end exactly if it does not refuse.** -/
theorem fill_not_stopped_iff {s : Subject} {names : List String} {table : Reference.Table}
    (h : s.references = .ok names) : (s.fill table).2 = none ↔ ∀ mishap, ¬ s.Refuses table mishap := by
  constructor
  · intro hfill mishap hrefuses
    cases hrefuses with
    | place hplaces hp hrefuses ht hne =>
      obtain ⟨ps, hplaces', hlegible, _⟩ := Memory.references_eq_ok_iff.mp h
      cases hplaces.symm.trans hplaces'
      rw [fill_object hplaces hlegible] at hfill
      exact hne ((Memory.fillPlaces_not_stopped_iff hlegible).mp hfill _ hp _ hrefuses _ ht)
  · intro hnone
    refine Option.eq_none_iff_forall_ne_some.mpr fun mishap hstop => ?_
    exact hnone mishap (refuses_of_fill_stopped h hstop)

/-! ## What filling in leaves -/

/-- A subject whose references were filled in from a table: every text that is searched was filled in, as often as its
place is listed if the subject is an object in memory, and all the rest stayed. -/
inductive FilledFrom (table : Reference.Table) : Subject → Subject → Prop where
  | activity (a : Activity) : FilledFrom table (.activity a) (.activity { a with
      text := a.text.map (Reference.fill table)
      speak := a.speak.map (Reference.fill table)
      suggestedActions := a.suggestedActions.map fun s =>
        { s with
          actions := s.actions.map fun c =>
            { c with
              text := c.text.map (Reference.fill table)
              displayText := c.displayText.map (Reference.fill table) } } })
  | loose (v : Value) : FilledFrom table (.loose v) (.loose (Loose.rewrite (Reference.fill table) v))
  | object {m : Memory} {root : Nat} {ps : List Place} (hplaces : m.places root = .ok ps) :
    FilledFrom table (.object m root) (.object (m.rewriteEach (Reference.fill table) ps) root)

/-- The places of a subject all differ.  Those of an activity and of a loose object do. -/
def Unshared : Subject → Prop
  | .activity _ | .loose _ => True
  | .object m root => ∀ ps, m.places root = .ok ps → ps.Nodup

/-- Filling in that is not stopped leaves the subject filled in. -/
theorem filledFrom_of_fill {s : Subject} {names : List String} {table : Reference.Table} (h : s.references = .ok names)
    (hfill : (s.fill table).2 = none) : s.FilledFrom table (s.fill table).1 := by
  cases s with
  | activity a => exact .activity a
  | loose v =>
    rw [fill_loose_eq table (Loose.references_eq_ok_iff.mp h).1]
    exact .loose v
  | object m root =>
    obtain ⟨ps, hplaces, hlegible, _⟩ := Memory.references_eq_ok_iff.mp h
    rw [fill_object hplaces hlegible] at hfill
    rw [fill_object_eq hplaces hlegible ((Memory.fillPlaces_not_stopped_iff hlegible).mp hfill)]
    exact .object hplaces

/-- From an empty table, nothing is filled in. -/
theorem fill_nil {s : Subject} {names : List String} (h : s.references = .ok names) : s.fill [] = (s, none) := by
  cases s with
  | activity a => exact congrArg (Subject.activity ·, none) (Activity.fill_nil a)
  | loose v =>
    have hkept := rewrite_eq_self (s := .loose v) fun text _ => Reference.fill_nil text
    rw [fill_loose_eq [] (Loose.references_eq_ok_iff.mp h).1]
    exact congrArg (·, none) hkept
  | object m root =>
    obtain ⟨ps, hplaces, hlegible, _⟩ := Memory.references_eq_ok_iff.mp h
    rw [fill_object_eq hplaces hlegible fun _ _ _ _ text _ => Reference.fill_nil text,
      Memory.rewriteEach_eq_self fun _ _ text _ => Reference.fill_nil text]

/-- A subject whose places all differ is filled in once at each. -/
theorem FilledFrom.eq_rewrite {s s' : Subject} {table : Reference.Table} (h : s.FilledFrom table s')
    (hunshared : s.Unshared) : s' = s.rewrite (Reference.fill table) := by
  cases h with
  | activity a => rfl
  | loose v => rfl
  | object hplaces => exact congrArg (Subject.object · _) (Memory.rewrite_eq hplaces (hunshared _ hplaces)).symm

/-- The references of a subject are these names, and they are all that filling it in goes by: the
names are listed once each, in the order in which they are first seen; every searched text is filled
in from the table and all else is kept; a text changes only if one of the names in it has a phrase
of its own, and the subject only if a text does; and the part of the table under these names does
the same as the whole. -/
structure FilledWhereSearched (s : Subject) (table : Reference.Table) (names : List String) :
    Prop where
  listed : s.references = .ok names
  nodup : names.Nodup
  mem : ∀ r, r ∈ names ↔ ∃ text ∈ s.searched, r ∈ Reference.names text
  ordered : names.Pairwise fun r r' =>
    (s.searched.flatMap Reference.names).idxOf r < (s.searched.flatMap Reference.names).idxOf r'
  rewritten : s.fill table = (s.rewrite (Reference.fill table), none)
  replaced : (s.fill table).1.searched = s.searched.map (Reference.fill table)
  changed : ∀ text ∈ s.searched, Reference.fill table text ≠ text →
    ∃ r ∈ names, r ∈ Reference.names text ∧
      ∃ phrase, table.get? r = some phrase ∧ phrase ≠ "[" ++ r ++ "]"
  kept : (∀ text ∈ s.searched, Reference.fill table text = text) → s.fill table = (s, none)
  restricted : s.fill (Entries.only names table) = s.fill table

/-- What stays of this for an object some of whose places are shared or refuse to be written to.  The references are
listed in the same way.  A place is filled in as often as it is listed, if none refuses what is filled in; what a phrase
brings along is then filled in as well where a place is listed again.  Otherwise one that refuses stops it all. -/
structure FilledWhereVisited (m : Memory) (root : Nat) (table : Reference.Table) (ps : List Place)
    (names : List String) : Prop where
  visited : m.places root = .ok ps
  nodup : names.Nodup
  mem : ∀ r, r ∈ names ↔ ∃ p ∈ ps, ∃ text ∈ m.textsAt p, r ∈ Reference.names text
  ordered : names.Pairwise fun r r' =>
    ((ps.flatMap m.textsAt).flatMap Reference.names).idxOf r < ((ps.flatMap m.textsAt).flatMap Reference.names).idxOf r'
  rewritten : (∀ p ∈ ps, m.Takes table p) →
    (Subject.object m root).fill table = (.object (m.rewriteEach (Reference.fill table) ps) root, none)
  texts : ∀ p, (m.rewriteEach (Reference.fill table) ps).textsAt p =
    (m.textsAt p).map (Reference.fill table)^[ps.count p]
  changed : ∀ p, (m.rewriteEach (Reference.fill table) ps).textsAt p ≠ m.textsAt p →
    ∃ r ∈ names, (∃ text ∈ m.textsAt p, r ∈ Reference.names text) ∧
      ∃ phrase, table.get? r = some phrase ∧ phrase ≠ "[" ++ r ++ "]"
  refused : (¬ ∀ p ∈ ps, m.Takes table p) → ∃ mishap,
    ((Subject.object m root).fill table).2 = some mishap ∧ (Subject.object m root).Refuses table mishap

/-- An object whose references can be listed is filled in where it is visited. -/
theorem filled_where_visited {m : Memory} {root : Nat} {names : List String}
    (h : (Subject.object m root).references = .ok names) (table : Reference.Table) :
    ∃ ps, FilledWhereVisited m root table ps names := by
  obtain ⟨ps, hplaces, hlegible, rfl⟩ := Memory.references_eq_ok_iff.mp h
  have hmem : ∀ r, r ∈ distinct ((ps.flatMap m.textsAt).flatMap Reference.names) ↔
      ∃ p ∈ ps, ∃ text ∈ m.textsAt p, r ∈ Reference.names text := by
    intro r
    rw [mem_distinct, List.flatMap_assoc]
    simp only [List.mem_flatMap]
  refine ⟨ps, ?_⟩
  constructor
  case visited => exact hplaces
  case nodup => exact nodup_distinct _
  case mem => exact hmem
  case ordered => exact pairwise_distinct _
  case rewritten => exact fill_object_eq hplaces hlegible
  case texts => exact Memory.textsAt_rewriteEach _ _
  case changed =>
    intro p hne
    rw [Memory.textsAt_rewriteEach] at hne
    obtain ⟨text, ht, hchanges⟩ : ∃ text ∈ m.textsAt p, (Reference.fill table)^[ps.count p] text ≠ text := by
      by_contra hnone
      push Not at hnone
      exact hne ((List.map_congr_left (g := id) hnone).trans (List.map_id _))
    have hp : p ∈ ps := by
      by_contra hp
      rw [List.count_eq_zero_of_not_mem hp] at hchanges
      exact hchanges rfl
    -- A text that is filled in to itself stays, however often that is done.
    have hfirst : Reference.fill table text ≠ text := fun hsame => hchanges (Function.iterate_fixed hsame _)
    obtain ⟨r, hr, hphrase⟩ := Reference.exists_of_fill_ne hfirst
    exact ⟨r, (hmem r).mpr ⟨p, hp, text, ht, hr⟩, ⟨text, ht, hr⟩, hphrase⟩
  case refused =>
    intro hnot
    cases hstop : ((Subject.object m root).fill table).2 with
    | some mishap => exact ⟨mishap, rfl, refuses_of_fill_stopped h hstop⟩
    | none =>
      rw [fill_object hplaces hlegible] at hstop
      exact absurd ((Memory.fillPlaces_not_stopped_iff hlegible).mp hstop) hnot

/-- A searchable subject is filled in where it is searched. -/
theorem filled_where_found {s : Subject} (h : s.Searchable) (table : Reference.Table) :
    ∃ names, FilledWhereSearched s table names := by
  have hmem : ∀ r, r ∈ distinct (s.searched.flatMap Reference.names) ↔
      ∃ text ∈ s.searched, r ∈ Reference.names text := by
    intro r
    rw [mem_distinct, List.mem_flatMap]
  refine ⟨distinct (s.searched.flatMap Reference.names), ?_⟩
  constructor
  case listed => exact references_eq h
  case nodup => exact nodup_distinct _
  case mem => exact hmem
  case ordered => exact pairwise_distinct _
  case rewritten => exact fill_eq_rewrite table h
  case replaced => rw [fill_eq_rewrite table h, searched_rewrite]
  case changed =>
    intro text htext hne
    obtain ⟨r, hr, hphrase⟩ := Reference.exists_of_fill_ne hne
    exact ⟨r, (hmem r).mpr ⟨text, htext, hr⟩, hr, hphrase⟩
  case kept =>
    intro hsame
    rw [fill_eq_rewrite table h, rewrite_eq_self hsame]
  case restricted =>
    rw [fill_eq_rewrite _ h, fill_eq_rewrite _ h]
    -- No searched text holds a name that was left out.
    rw [rewrite_congr fun text htext => Reference.fill_congr fun r hr =>
      Entries.get?_only ((hmem r).mpr ⟨text, htext, hr⟩) table]

/-- An object without a speech, with no text, and with an action that lacks a display text beside
one that lacks a text. -/
def billboard : Subject :=
  .loose (.record [("text", .null), ("id", .int 7),
    ("suggested_actions", .record [("actions", .list [.record [("text", .text "[open] [later]")],
      .null, .record [("display_text", .text "[later]!"), ("text", .null)]])])])

/-- An object that suggests the same action twice. -/
def repeated : Memory where
  typeName _ := "Card"
  attribute? p :=
    match p.id, p.name with
    | 0, "suggested_actions" => some ⟨.object 1, none⟩
    | 1, "actions" => some ⟨.items "list" [.object 2, .object 2], none⟩
    | 2, "text" => some ⟨.value (.text "[open]"), none⟩
    | _, _ => none

/-- A shared action whose phrase brings along another reference comes to the phrase of that. -/
example : ((Subject.object repeated 0).fill [("open", "[later]"), ("later", "Later")]).1.searched =
    ["Later", "Later"] := by
  decide +kernel

end Phrasing.Subject
