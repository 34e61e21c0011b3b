import Mathlib.Data.List.Perm.Subperm
import Phrasing.Proofs.Entries
import Phrasing.Resolver

/-! # The table that responses make

For distinct references, the table holds the text of every response that reports a template, under
the reference that was asked for (`get?_tableOf`), whatever template is reported.  The references
that it does not know are those whose response lacks a template or a text, in their order
(`missingFrom_tableOf`).
-/

namespace Phrasing.Resolver

/-- The entry that the response for a reference makes. -/
def entered? (pair : String × GenerationResponse) : Option (String × String) :=
  if pair.2.isResolved then pair.2.displayText.map (pair.1, ·) else none

theorem isSome_entered? (pair : String × GenerationResponse) :
    (entered? pair).isSome = pair.2.isResolved := by
  unfold entered? GenerationResponse.isResolved
  cases pair.2.displayText <;> cases pair.2.template.isNull <;> rfl

theorem fst_of_entered? {pair : String × GenerationResponse} {e : String × String}
    (h : entered? pair = some e) : e.1 = pair.1 := by
  unfold entered? at h
  split at h
  · obtain ⟨text, _, rfl⟩ := Option.map_eq_some_iff.mp h
    rfl
  · cases h

/-- A response is entered exactly by its entry. -/
theorem enter_fst (table : Reference.Table) (reference : String) (response : GenerationResponse) :
    (enter table reference response).1 =
      match entered? (reference, response) with
      | some (r, text) => table.put r text
      | none => table := by
  unfold enter entered?
  cases response.isResolved <;> cases response.displayText <;> rfl

/-- The table is written entry by entry. -/
theorem tableOf_fst (pairs : List (String × GenerationResponse)) :
    (tableOf pairs).1 = Entries.ofPairs (pairs.filterMap entered?) := by
  have hgeneral : ∀ made : Reference.Table × List Notice,
      (pairs.foldl enterNext made).1 =
        (pairs.filterMap entered?).foldl (fun entries e => Entries.put e.1 e.2 entries) made.1 := by
    induction pairs with
    | nil => exact fun _ => rfl
    | cons pair rest ih =>
      intro made
      have hstep : (enterNext made pair).1 =
          ((entered? pair).map fun e => Entries.put e.1 e.2 made.1).getD made.1 := by
        rw [enterNext, enter_fst]
        cases entered? pair <;> rfl
      rw [List.foldl_cons, ih, hstep, List.filterMap_cons]
      cases entered? pair <;> rfl
  exact hgeneral ([], [])

/-- The keys of the entries are references that were asked for, in their order. -/
theorem keys_entries_sublist (pairs : List (String × GenerationResponse)) :
    ((pairs.filterMap entered?).map Prod.fst).Sublist (pairs.map Prod.fst) := by
  induction pairs with
  | nil => exact List.Sublist.refl _
  | cons pair rest ih =>
    rw [List.filterMap_cons]
    cases he : entered? pair with
    | none => exact ih.cons _
    | some e =>
      rw [List.map_cons, List.map_cons, fst_of_entered? he]
      exact ih.cons_cons _

/-- The table has no more entries than there are responses. -/
theorem length_tableOf_le (pairs : List (String × GenerationResponse)) :
    (tableOf pairs).1.length ≤ pairs.length := by
  have hkeys : List.Subperm (tableOf pairs).1.keys ((pairs.filterMap entered?).map Prod.fst) := by
    rw [tableOf_fst]
    exact (Entries.nodup_keys_ofPairs _).subperm fun _ => Entries.mem_keys_ofPairs
  have hle := hkeys.length_le
  rw [Entries.keys, List.length_map, List.length_map] at hle
  exact Nat.le_trans hle (List.length_filterMap_le _ _)

section Distinct

variable {pairs : List (String × GenerationResponse)} (hd : (pairs.map Prod.fst).Nodup)

include hd

/-- Under distinct references, the entries are the table. -/
theorem tableOf_eq : (tableOf pairs).1 = pairs.filterMap entered? := by
  rw [tableOf_fst]
  exact Entries.ofPairs_of_nodup ((keys_entries_sublist pairs).nodup hd)

/-- The table knows a reference by what its response was entered with. -/
theorem get?_tableOf {pair : String × GenerationResponse} (h : pair ∈ pairs) :
    (tableOf pairs).1.get? pair.1 = (entered? pair).map Prod.snd := by
  rw [tableOf_eq hd]
  induction pairs with
  | nil => cases h
  | cons first rest ih =>
    obtain ⟨hfirst, hrest⟩ := List.nodup_cons.mp hd
    rw [List.filterMap_cons]
    rcases List.mem_cons.mp h with rfl | hmem
    · -- No later pair has the same reference, so the first one alone decides.
      cases he : entered? pair with
      | none =>
        refine Entries.get?_eq_none_iff.mpr fun hkey => hfirst ?_
        exact (keys_entries_sublist rest).subset hkey
      | some e =>
        obtain ⟨key, text⟩ := e
        cases fst_of_entered? he
        rw [Entries.get?_cons, if_pos rfl]
        rfl
    · have hne : first.1 ≠ pair.1 := fun heq => hfirst (heq ▸ List.mem_map.mpr ⟨pair, hmem, rfl⟩)
      cases he : entered? first with
      | none => exact ih hrest hmem
      | some e =>
        obtain ⟨key, text⟩ := e
        cases fst_of_entered? he
        rw [Entries.get?_cons, if_neg hne]
        exact ih hrest hmem

/-- **The table holds** the texts of the resolved responses under the references asked for. -/
theorem get?_tableOf_eq_some {name phrase : String} :
    (tableOf pairs).1.get? name = some phrase ↔
      ∃ response, (name, response) ∈ pairs ∧ response.isResolved = true ∧
        response.displayText = some phrase := by
  constructor
  · intro h
    rw [tableOf_eq hd] at h
    obtain ⟨⟨reference, response⟩, hmem, he⟩ := List.mem_filterMap.mp (Entries.mem_of_get? h)
    cases fst_of_entered? he
    unfold entered? at he
    split at he
    · rename_i hresolved
      obtain ⟨text, htext, htexts⟩ := Option.map_eq_some_iff.mp he
      cases htexts
      exact ⟨response, hmem, hresolved, htext⟩
    · cases he
  · rintro ⟨response, hmem, hresolved, htext⟩
    rw [get?_tableOf hd hmem, entered?, if_pos hresolved, htext]
    rfl

/-- **The references that stay unresolved** are those whose response lacks a template or a text. -/
theorem missingFrom_tableOf :
    missingFrom (tableOf pairs).1 (pairs.map Prod.fst) =
      (pairs.filter fun pair => !pair.2.isResolved).map Prod.fst := by
  have hget : ∀ pair ∈ pairs, ((tableOf pairs).1.get? pair.1).isNone = !pair.2.isResolved := by
    intro pair hpair
    rw [get?_tableOf hd hpair, Option.isNone_map, ← isSome_entered?]
    cases entered? pair <;> rfl
  rw [missingFrom, List.filter_map]
  exact congrArg _ (List.filter_congr hget)

end Distinct

end Phrasing.Resolver
