import Mathlib.Data.List.Basic
import Phrasing.Activity.References

/-! # Where references stand

A text is cut into pieces without loss (`source_pieces`), so filling it in from an empty table
leaves it as it is, and a table matters only through the names that the text holds (`fill_congr`).
The references of an activity are those of the texts that are searched, each one once and in the
order in which they are first seen, and filling an activity in changes these texts and nothing else
(`fill_eq_rewrite`).
-/

namespace Phrasing

namespace Reference

/-- A cut takes the name, the closing bracket and what follows apart. -/
theorem eq_of_cut? {rest name tail : List Char} (h : cut? rest = some (name, tail)) :
    rest = name ++ ']' :: tail := by
  unfold cut? at h
  split at h
  · rename_i hname htail
    cases h
    rw [← hname, ← htail, List.takeWhile_append_dropWhile]
  · cases h

/-- **What is cut off** is what stands before the first bracket, if this is a closing one and something
stands before it. -/
theorem cut?_eq_some_iff {rest name tail : List Char} :
    cut? rest = some (name, tail) ↔
      rest = name ++ ']' :: tail ∧ name ≠ [] ∧ ∀ c ∈ name, isBracket c = false := by
  constructor
  · intro h
    refine ⟨eq_of_cut? h, ?_⟩
    unfold cut? at h
    split at h
    · rename_i c name' _ hname _
      cases h
      refine ⟨List.cons_ne_nil _ _, fun c hc => ?_⟩
      rw [← hname] at hc
      simpa using List.all_eq_true.mp List.all_takeWhile c hc
    · cases h
  · rintro ⟨rfl, hne, hplain⟩
    obtain ⟨c, name, rfl⟩ := List.exists_cons_of_ne_nil hne
    have hall : ∀ c' ∈ c :: name, (!isBracket c') = true := by
      intro c' hc'
      rw [hplain c' hc']
      rfl
    have htake : (c :: name ++ ']' :: tail).takeWhile (!isBracket ·) = c :: name := by
      rw [List.takeWhile_append_of_pos hall, List.takeWhile_cons_of_neg (by decide),
        List.append_nil]
    have hdrop : (c :: name ++ ']' :: tail).dropWhile (!isBracket ·) = ']' :: tail := by
      rw [List.dropWhile_append_of_pos hall, List.dropWhile_cons_of_neg (by decide)]
    unfold cut?
    rw [htake, hdrop]
    rfl

/-- No name holds a bracket. -/
theorem not_isBracket_of_mem_pieces {cs name : List Char} (h : Piece.reference name ∈ pieces cs) :
    ∀ c ∈ name, isBracket c = false := by
  fun_induction pieces cs with
  | case1 => cases h
  | case2 rest name' tail hcut ih =>
    rcases List.mem_cons.mp h with hname | h
    · cases hname
      exact (cut?_eq_some_iff.mp hcut).2.2
    · exact ih h
  | case3 rest _ ih => exact ih (by simpa using h)
  | case4 c rest _ ih => exact ih (by simpa using h)

/-- Where something is cut off behind an opening bracket, it is a reference. -/
theorem pieces_of_cut? {rest name tail : List Char} (h : cut? rest = some (name, tail)) :
    pieces ('[' :: rest) = .reference name :: pieces tail := by
  rw [pieces]
  split
  · rename_i h'
    cases h.symm.trans h'
    rfl
  · rename_i h'
    cases h.symm.trans h'

/-- Any character but an opening bracket stands for itself. -/
theorem pieces_cons {c : Char} {rest : List Char} (h : c ≠ '[') :
    pieces (c :: rest) = .char c :: pieces rest := by
  rw [pieces]
  exact h

/-- **The pieces of a text make up the text.** -/
theorem source_pieces (cs : List Char) : (pieces cs).flatMap Piece.source = cs := by
  fun_induction pieces cs with
  | case1 => rfl
  | case2 rest name tail h ih =>
    rw [List.flatMap_cons, ih, eq_of_cut? h]
    simp [Piece.source]
  | case3 rest h ih => rw [List.flatMap_cons, ih]; rfl
  | case4 c rest hc ih => rw [List.flatMap_cons, ih]; rfl

@[simp] theorem names_empty : names "" = [] := by
  simp [names, pieces]

/-- A reference that is cut from a text is one of its names. -/
theorem mem_names {name : List Char} {text : String}
    (h : Piece.reference name ∈ pieces text.toList) : String.ofList name ∈ names text :=
  List.mem_filterMap.mpr ⟨_, h, rfl⟩

/-- **A table matters only through the names that a text holds.** -/
theorem fill_congr {table table' : Table} {text : String}
    (h : ∀ r ∈ names text, table.get? r = table'.get? r) : fill table text = fill table' text := by
  have hpieces : ∀ p ∈ pieces text.toList, fillPiece table p = fillPiece table' p := by
    intro p hp
    cases p with
    | char c => rfl
    | reference name => simp only [fillPiece, h _ (mem_names hp)]
  rw [fill, fill, List.flatMap_congr hpieces]

/-- A text stays as it is if the table puts every reference it knows back in place. -/
theorem fill_eq_self {table : Table} {text : String}
    (h : ∀ r ∈ names text, ∀ phrase, table.get? r = some phrase → phrase = "[" ++ r ++ "]") :
    fill table text = text := by
  have hpieces : ∀ p ∈ pieces text.toList, fillPiece table p = p.source := by
    intro p hp
    cases p with
    | char c => rfl
    | reference name =>
      cases hget : table.get? (String.ofList name) with
      | none => simp only [fillPiece, hget]
      | some phrase =>
        simp only [fillPiece, hget, h _ (mem_names hp) phrase hget, Piece.source,
          String.toList_append, String.toList_ofList]
        rfl
  rw [fill, List.flatMap_congr hpieces, source_pieces, String.ofList_toList]

/-- A text that changes held a reference for which the table has something else. -/
theorem exists_of_fill_ne {table : Table} {text : String} (h : fill table text ≠ text) :
    ∃ r ∈ names text, ∃ phrase, table.get? r = some phrase ∧ phrase ≠ "[" ++ r ++ "]" := by
  by_contra hnone
  refine h (fill_eq_self fun r hr phrase hget => ?_)
  by_contra hne
  exact hnone ⟨r, hr, phrase, hget, hne⟩

/-- An empty table fills in nothing. -/
theorem fill_nil (text : String) : fill [] text = text :=
  fill_eq_self fun _ _ _ hget => nomatch hget

theorem namesIn_eq (text : Option String) : namesIn text = text.toList.flatMap names := by
  cases text <;> simp [namesIn]

end Reference

/-! ## Lists without repeats -/

theorem mem_distinct {s : String} {names : List String} : s ∈ distinct names ↔ s ∈ names := by
  induction names with
  | nil => exact Iff.rfl
  | cons t names ih =>
    rw [distinct, List.mem_cons, List.mem_filter, ih, List.mem_cons]
    by_cases hs : s = t <;> simp [hs]

theorem nodup_distinct (names : List String) : (distinct names).Nodup := by
  induction names with
  | nil => exact List.nodup_nil
  | cons t names ih =>
    rw [distinct, List.nodup_cons]
    exact ⟨fun h => by simpa using (List.mem_filter.mp h).2, ih.filter _⟩

/-- **The names stand in the order of their first occurrences.** -/
theorem pairwise_distinct (names : List String) :
    (distinct names).Pairwise fun s t => names.idxOf s < names.idxOf t := by
  induction names with
  | nil => exact List.Pairwise.nil
  | cons first names ih =>
    rw [distinct, List.pairwise_cons]
    constructor
    · intro t ht
      have hne : first ≠ t := by
        rintro rfl
        simpa using (List.mem_filter.mp ht).2
      rw [List.idxOf_cons_self, List.idxOf_cons_ne _ hne]
      exact Nat.succ_pos _
    · -- None of the later names is the first, so all their places are moved by one.
      refine List.Pairwise.imp_of_mem ?_ (ih.filter _)
      intro s t hs ht hlt
      have hne : ∀ u ∈ (distinct names).filter (· ≠ first), first ≠ u := by
        rintro u hu rfl
        simpa using (List.mem_filter.mp hu).2
      rw [List.idxOf_cons_ne _ (hne s hs), List.idxOf_cons_ne _ (hne t ht)]
      exact Nat.succ_lt_succ hlt

/-! ## The references of an activity -/

namespace Activity

/-- The texts of an activity in which references are looked for, in the order they are looked
through: its text, its speech, and of every action the text and the display text. -/
def searched (a : Activity) : List String :=
  a.text.toList ++ a.speak.toList ++ a.actions.flatMap fun c =>
    c.text.toList ++ c.displayText.toList

theorem references_eq (a : Activity) :
    a.references = distinct (a.searched.flatMap Reference.names) := by
  have hactions : (fun c : CardAction => c.references) =
      fun c => (c.text.toList ++ c.displayText.toList).flatMap Reference.names := by
    funext c
    rw [CardAction.references, Reference.namesIn_eq, Reference.namesIn_eq, List.flatMap_append]
  unfold references searched
  simp only [Part.all, List.flatMap_cons, List.flatMap_nil, List.append_nil, referencesIn,
    Reference.namesIn_eq, hactions, List.flatMap_append, List.flatMap_assoc, List.append_assoc]

/-- A reference of an activity stands in one of the texts that are searched. -/
theorem mem_references {a : Activity} {name : String} :
    name ∈ a.references ↔ ∃ text ∈ a.searched, name ∈ Reference.names text := by
  rw [references_eq, mem_distinct, List.mem_flatMap]

theorem nodup_references (a : Activity) : a.references.Nodup := nodup_distinct _

/-- An activity with the searched texts rewritten, and nothing else. -/
def rewrite (f : String → String) (a : Activity) : Activity :=
  { a with
    text := a.text.map f
    speak := a.speak.map f
    suggestedActions := a.suggestedActions.map fun s =>
      { s with
        actions := s.actions.map fun c =>
          { c with
            text := c.text.map f
            displayText := c.displayText.map f } } }

/-- **Filling in rewrites the searched texts and nothing else.** -/
theorem fill_eq_rewrite (table : Reference.Table) (a : Activity) :
    a.fill table = a.rewrite (Reference.fill table) := rfl

theorem actions_rewrite (f : String → String) (a : Activity) :
    (a.rewrite f).actions =
      a.actions.map fun c => { c with text := c.text.map f, displayText := c.displayText.map f } := by
  unfold actions rewrite
  cases a.suggestedActions <;> rfl

/-- The texts that are searched are the ones that are rewritten. -/
theorem searched_rewrite (f : String → String) (a : Activity) :
    (a.rewrite f).searched = a.searched.map f := by
  have htext : (a.rewrite f).text = a.text.map f := rfl
  have hspeak : (a.rewrite f).speak = a.speak.map f := rfl
  simp only [searched, htext, hspeak, actions_rewrite, List.flatMap_map, List.map_append,
    List.map_flatMap, Option.toList_map]

theorem rewrite_congr {f g : String → String} {a : Activity}
    (h : ∀ text ∈ a.searched, f text = g text) : a.rewrite f = a.rewrite g := by
  have htext : a.text.map f = a.text.map g :=
    Option.map_congr fun text ht => h text (by simp [searched, ht])
  have hspeak : a.speak.map f = a.speak.map g :=
    Option.map_congr fun text ht => h text (by simp [searched, ht])
  have hactions : ∀ c ∈ a.actions,
      ({ c with text := c.text.map f, displayText := c.displayText.map f } : CardAction) =
        { c with text := c.text.map g, displayText := c.displayText.map g } := by
    intro c hc
    have hsearched : ∀ text ∈ c.text.toList ++ c.displayText.toList, f text = g text := by
      intro text ht
      refine h text (List.mem_append_right _ (List.mem_flatMap.mpr ⟨c, hc, ht⟩))
    have hc₁ : c.text.map f = c.text.map g :=
      Option.map_congr fun text ht => hsearched text (by simp [ht])
    have hc₂ : c.displayText.map f = c.displayText.map g :=
      Option.map_congr fun text ht => hsearched text (by simp [ht])
    rw [hc₁, hc₂]
  unfold rewrite
  rw [htext, hspeak]
  cases hsuggested : a.suggestedActions with
  | none => rfl
  | some s =>
    simp only [actions, hsuggested, Option.map_some, Option.getD_some] at hactions
    rw [Option.map_some, Option.map_some, List.map_congr_left hactions]

theorem rewrite_id (a : Activity) : a.rewrite id = a := by
  obtain ⟨_, text, speak, _, suggested, _⟩ := a
  simp only [rewrite, Option.map_id, id, List.map_id']
  cases suggested <;> rfl

theorem fill_nil (a : Activity) : a.fill [] = a := by
  have htext : Reference.fill [] = id := funext Reference.fill_nil
  rw [fill_eq_rewrite, htext, rewrite_id]

end Activity

end Phrasing
