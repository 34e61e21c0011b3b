import Mathlib.Data.List.Infix
import Phrasing.FileTree

/-! # Entries of directories

Every path is spelled from a root and the names that it goes through, and is known by them
(`pathNames_spellPath`).  So the path of an entry is that of its directory with one name more: it is in
its one spelling if the directory is (`usualPath_entryPath`), and however the directory is spelled, the entry
lies in it and has its name there (`parent_settled_entry`, `baseName_settled_entry`).
-/

namespace Phrasing

namespace Text

/-! ## Segments -/

theorem pathSegments_ne_nil (cs : List Char) : pathSegments cs ≠ [] := by
  unfold pathSegments
  split
  · exact List.cons_ne_nil _ _
  · exact List.cons_ne_nil _ _
  · split
    · exact List.cons_ne_nil _ _
    · exact List.cons_ne_nil _ _

theorem pathSegments_slash (cs : List Char) : pathSegments ('/' :: cs) = [] :: pathSegments cs := rfl

/-- A character other than a slash goes to the first segment. -/
theorem pathSegments_cons {c : Char} (h : c ≠ '/') {cs part : List Char} {parts : List (List Char)}
    (hcs : pathSegments cs = part :: parts) : pathSegments (c :: cs) = (c :: part) :: parts := by
  rw [pathSegments.eq_def]
  split
  · rename_i heq
    cases heq
  · rename_i heq
    exact absurd (List.cons.inj heq).1 h
  · rename_i heq
    obtain ⟨rfl, rfl⟩ := List.cons.inj heq
    rw [hcs]

theorem pathSegments_append (cs ds : List Char) :
    pathSegments (cs ++ '/' :: ds) = pathSegments cs ++ pathSegments ds := by
  induction cs with
  | nil => rfl
  | cons c cs ih =>
    by_cases hc : c = '/'
    · subst hc
      rw [List.cons_append, pathSegments_slash, pathSegments_slash, ih, List.cons_append]
    · obtain ⟨part, parts, hparts⟩ := List.exists_cons_of_ne_nil (pathSegments_ne_nil cs)
      rw [hparts] at ih
      rw [List.cons_append, pathSegments_cons hc ih, pathSegments_cons hc hparts]
      rfl

theorem pathSegments_of_notMem {cs : List Char} (h : '/' ∉ cs) : pathSegments cs = [cs] := by
  induction cs with
  | nil => rfl
  | cons c cs ih =>
    have hc : c ≠ '/' := fun heq => h (heq ▸ List.mem_cons_self)
    exact pathSegments_cons hc (ih fun hmem => h (List.mem_cons_of_mem _ hmem))

theorem notMem_of_mem_pathSegments {cs part : List Char} (h : part ∈ pathSegments cs) : '/' ∉ part := by
  induction cs generalizing part with
  | nil =>
    rw [List.mem_singleton.mp h]
    exact List.not_mem_nil
  | cons c cs ih =>
    by_cases hc : c = '/'
    · subst hc
      rcases List.mem_cons.mp h with rfl | h
      · exact List.not_mem_nil
      · exact ih h
    · obtain ⟨first, parts, hparts⟩ := List.exists_cons_of_ne_nil (pathSegments_ne_nil cs)
      rw [pathSegments_cons hc hparts] at h
      rcases List.mem_cons.mp h with rfl | h
      · intro hmem
        rcases List.mem_cons.mp hmem with heq | hmem
        · exact hc heq.symm
        · exact ih (hparts ▸ List.mem_cons_self) hmem
      · exact ih (hparts ▸ List.mem_cons_of_mem _ h)

/-! ## Names -/

/-- A name that an entry of a directory can have, or the way up. -/
structure IsName (name : List Char) : Prop where
  ne_nil : name ≠ []
  ne_dot : name ≠ ['.']
  noSlash : '/' ∉ name

theorem isName_of_mem_pathNames {cs name : List Char} (h : name ∈ pathNames cs) : IsName name := by
  obtain ⟨hmem, hname⟩ := List.mem_filter.mp h
  obtain ⟨hnil, hdot⟩ := of_decide_eq_true hname
  exact ⟨hnil, hdot, notMem_of_mem_pathSegments hmem⟩

theorem filter_isName {names : List (List Char)} (h : ∀ name ∈ names, IsName name) :
    (names.filter fun part => part ≠ [] ∧ part ≠ ['.']) = names :=
  List.filter_eq_self.mpr fun name hname => decide_eq_true ⟨(h name hname).ne_nil, (h name hname).ne_dot⟩

theorem pathNames_append (cs ds : List Char) :
    pathNames (cs ++ '/' :: ds) = pathNames cs ++ pathNames ds := by
  unfold pathNames
  rw [pathSegments_append, List.filter_append]

theorem IsName.pathNames_eq {name : List Char} (h : IsName name) : pathNames name = [name] := by
  unfold pathNames
  rw [pathSegments_of_notMem h.noSlash]
  exact filter_isName fun _ hmem => List.mem_singleton.mp hmem ▸ h

/-- The roots that a path can start with. -/
def roots : List (List Char) := [[], ['/'], ['/', '/']]

theorem pathRoot_mem_roots (cs : List Char) : pathRoot cs ∈ roots := by
  unfold pathRoot
  split
  · decide
  · decide
  · decide

/-- A path has a root exactly if it starts with a slash. -/
theorem pathRoot_ne_nil_iff {cs : List Char} : pathRoot cs ≠ [] ↔ cs.head? = some '/' := by
  by_cases hhead : cs.head? = some '/'
  · refine iff_of_true ?_ hhead
    obtain ⟨rest, rfl⟩ := List.head?_eq_some_iff.mp hhead
    have hlength : (('/' :: rest).takeWhile (· == '/')).length ≠ 0 := by
      rw [List.takeWhile_cons_of_pos rfl]
      exact Nat.succ_ne_zero _
    unfold pathRoot
    split
    · rename_i hzero
      exact absurd hzero hlength
    · exact List.cons_ne_nil _ _
    · exact List.cons_ne_nil _ _
  · refine iff_of_false ?_ hhead
    have hnone : cs.takeWhile (· == '/') = [] := by
      cases cs with
      | nil => rfl
      | cons c cs =>
        refine List.takeWhile_cons_of_neg ?_
        simpa using hhead
    unfold pathRoot
    rw [hnone]
    exact fun h => h rfl

section Spelling

variable {root : List Char} {names : List (List Char)}

theorem pathNames_intercalate (h : ∀ name ∈ names, IsName name) :
    pathNames (List.intercalate ['/'] names) = names := by
  induction names with
  | nil => rfl
  | cons name names ih =>
    obtain ⟨hname, hnames⟩ := List.forall_mem_cons.mp h
    cases names with
    | nil =>
      rw [List.intercalate_singleton]
      exact hname.pathNames_eq
    | cons next names =>
      rw [List.intercalate_cons_cons, List.append_assoc, List.singleton_append, pathNames_append,
        ih hnames, hname.pathNames_eq]
      rfl

theorem intercalate_ne_nil (h : ∀ name ∈ names, IsName name) (hne : names ≠ []) :
    List.intercalate ['/'] names ≠ [] := by
  intro hnil
  have hnames := pathNames_intercalate h
  rw [hnil] at hnames
  exact hne hnames.symm

/-- With names the root stands before them. -/
theorem spellPath_of_ne_nil (h : ∀ name ∈ names, IsName name) (hne : names ≠ []) :
    spellPath root names = root ++ List.intercalate ['/'] names := by
  unfold spellPath
  split
  · rename_i hnil
    exact absurd (List.append_eq_nil_iff.mp hnil).2 (intercalate_ne_nil h hne)
  · rfl

theorem pathNames_root (hroot : root ∈ roots) (cs : List Char) : pathNames (root ++ cs) = pathNames cs := by
  simp only [roots, List.mem_cons, List.not_mem_nil, or_false] at hroot
  rcases hroot with rfl | rfl | rfl
  · rfl
  · rfl
  · rfl

/-- **A path is known by its names.** -/
theorem pathNames_spellPath (hroot : root ∈ roots) (h : ∀ name ∈ names, IsName name) :
    pathNames (spellPath root names) = names := by
  by_cases hne : names = []
  · subst hne
    simp only [roots, List.mem_cons, List.not_mem_nil, or_false] at hroot
    rcases hroot with rfl | rfl | rfl
    · rfl
    · rfl
    · rfl
  · rw [spellPath_of_ne_nil h hne, pathNames_root hroot, pathNames_intercalate h]

/-- What stands behind the root does not start with a slash. -/
theorem head?_intercalate (h : ∀ name ∈ names, IsName name) :
    (List.intercalate ['/'] names).head? ≠ some '/' := by
  cases names with
  | nil =>
    intro hhead
    cases hhead
  | cons name names =>
    have hname := h name List.mem_cons_self
    obtain ⟨c, rest, hc⟩ := List.exists_cons_of_ne_nil hname.ne_nil
    have hslash : c ≠ '/' := by
      rintro rfl
      exact hname.noSlash (hc ▸ List.mem_cons_self)
    have hhead : (List.intercalate ['/'] (name :: names)).head? = some c := by
      cases names with
      | nil =>
        rw [List.intercalate_singleton, hc]
        rfl
      | cons next names =>
        rw [List.intercalate_cons_cons, hc]
        rfl
    rw [hhead]
    exact fun heq => hslash (Option.some.inj heq)

/-- A path is known by its root. -/
theorem pathRoot_spellPath (hroot : root ∈ roots) (h : ∀ name ∈ names, IsName name) :
    pathRoot (spellPath root names) = root := by
  have hnone : ∀ cs : List Char, cs.head? ≠ some '/' → cs.takeWhile (· == '/') = [] := by
    intro cs hcs
    cases cs with
    | nil => rfl
    | cons c cs =>
      refine List.takeWhile_cons_of_neg ?_
      simpa using hcs
  simp only [roots, List.mem_cons, List.not_mem_nil, or_false] at hroot
  by_cases hne : names = []
  · subst hne
    rcases hroot with rfl | rfl | rfl
    · rfl
    · rfl
    · rfl
  · have htake := hnone _ (head?_intercalate h)
    rw [spellPath_of_ne_nil h hne]
    rcases hroot with rfl | rfl | rfl
    · unfold pathRoot
      rw [List.nil_append, htake]
      rfl
    · unfold pathRoot
      rw [List.singleton_append, List.takeWhile_cons_of_pos rfl, htake]
      rfl
    · unfold pathRoot
      rw [List.cons_append, List.singleton_append, List.takeWhile_cons_of_pos rfl,
        List.takeWhile_cons_of_pos rfl, htake]
      rfl

/-- A path in its one spelling stays as it is. -/
theorem usualPathChars_spellPath (hroot : root ∈ roots) (h : ∀ name ∈ names, IsName name) :
    usualPathChars (spellPath root names) = spellPath root names := by
  unfold usualPathChars
  rw [pathRoot_spellPath hroot h, pathNames_spellPath hroot h]

theorem intercalate_concat (hne : names ≠ []) (name : List Char) :
    List.intercalate ['/'] (names ++ [name]) = List.intercalate ['/'] names ++ ['/'] ++ name := by
  induction names with
  | nil => exact absurd rfl hne
  | cons first names ih =>
    cases names with
    | nil => rw [List.singleton_append, List.intercalate_cons_cons, List.intercalate_singleton,
        List.intercalate_singleton]
    | cons next names =>
      have hrest := ih (List.cons_ne_nil _ _)
      rw [List.cons_append] at hrest
      rw [List.cons_append, List.cons_append, List.intercalate_cons_cons, List.intercalate_cons_cons,
        hrest]
      simp only [List.append_assoc]

theorem forall_isName_concat (h : ∀ name ∈ names, IsName name) {name : List Char} (hname : IsName name) :
    ∀ n ∈ names ++ [name], IsName n := by
  intro n hn
  rcases List.mem_append.mp hn with hn | hn
  · exact h n hn
  · exact List.mem_singleton.mp hn ▸ hname

/-- With one name more, a path goes on behind a slash, unless it has no names yet. -/
theorem spellPath_concat (h : ∀ name ∈ names, IsName name) {name : List Char} (hname : IsName name) :
    spellPath root (names ++ [name]) =
      (if names = [] then root else spellPath root names ++ ['/']) ++ name := by
  rw [spellPath_of_ne_nil (forall_isName_concat h hname) (by simp)]
  by_cases hne : names = []
  · subst hne
    rw [if_pos rfl, List.nil_append, List.intercalate_singleton]
  · rw [if_neg hne, spellPath_of_ne_nil h hne, intercalate_concat hne name]
    simp only [List.append_assoc]

end Spelling

/-- The spelling of a directory ends in a slash exactly if it is a root. -/
theorem endsWith_slash_iff {root : List Char} {names : List (List Char)} (hroot : root ∈ roots)
    (h : ∀ name ∈ names, IsName name) :
    (String.ofList (spellPath root names)).endsWith "/" = true ↔ names = [] ∧ root ≠ [] := by
  have hends : (String.ofList (spellPath root names)).endsWith "/" = true ↔
      ['/'] <:+ spellPath root names := by
    rw [String.endsWith_eq_endsWith_toSlice, String.Slice.endsWith_string_iff, String.copy_toSlice]
    show ['/'] <:+ (String.ofList (spellPath root names)).toList ↔ _
    rw [String.toList_ofList]
  rw [hends]
  constructor
  · rintro ⟨before, hbefore⟩
    rcases List.eq_nil_or_concat names with rfl | ⟨init, last, rfl⟩
    · refine ⟨rfl, ?_⟩
      rintro rfl
      have hdot : (before ++ ['/']).getLast? = (spellPath [] []).getLast? := congrArg _ hbefore
      rw [List.getLast?_concat] at hdot
      cases hdot
    · have hlast := h last (by simp)
      have hinit : ∀ name ∈ init, IsName name := fun name hname => h name (by simp [hname])
      rw [List.concat_eq_append, spellPath_concat hinit hlast] at hbefore
      have hslash := congrArg List.getLast? hbefore
      rw [List.getLast?_concat, List.getLast?_append_of_ne_nil _ hlast.ne_nil] at hslash
      exact absurd (List.mem_of_getLast? hslash.symm) hlast.noSlash
  · rintro ⟨rfl, hne⟩
    simp only [roots, List.mem_cons, List.not_mem_nil, or_false] at hroot
    rcases hroot with rfl | rfl | rfl
    · exact absurd rfl hne
    · exact ⟨[], rfl⟩
    · exact ⟨['/'], rfl⟩

/-- The path of an entry is that of its directory with one name more. -/
theorem entryPath_spellPath {root : List Char} {names : List (List Char)} (hroot : root ∈ roots)
    (h : ∀ name ∈ names, IsName name) {name : List Char} (hname : IsName name) :
    entryPath (String.ofList (spellPath root names)) (String.ofList name) =
      String.ofList (spellPath root (names ++ [name])) := by
  rw [spellPath_concat h hname]
  unfold entryPath
  split
  · rename_i hdot
    have hspelled : spellPath root names = ['.'] := by
      have hlist := congrArg String.toList hdot
      rwa [String.toList_ofList] at hlist
    have hnames := pathNames_spellPath hroot h
    have hroot' := pathRoot_spellPath hroot h
    rw [hspelled] at hnames hroot'
    have hnil : names = [] := hnames.symm
    have hnone : root = [] := hroot'.symm
    rw [if_pos hnil, hnone, List.nil_append]
  · rename_i hdot
    split
    · rename_i hslash
      obtain ⟨rfl, hne⟩ := (endsWith_slash_iff hroot h).mp hslash
      rw [if_pos rfl, String.ofList_append]
      refine congrArg (String.ofList · ++ _) ?_
      simp only [roots, List.mem_cons, List.not_mem_nil, or_false] at hroot
      rcases hroot with rfl | rfl | rfl
      · exact absurd rfl hne
      · rfl
      · rfl
    · rename_i hslash
      have hne : names ≠ [] := by
        rintro rfl
        by_cases hnone : root = []
        · subst hnone
          exact hdot rfl
        · exact hslash ((endsWith_slash_iff hroot h).mpr ⟨rfl, hnone⟩)
      rw [if_neg hne, String.ofList_append, String.ofList_append]

/-- A directory and the names that it goes through. -/
theorem usualPath_eq (directory : String) :
    usualPath directory =
      String.ofList (spellPath (pathRoot directory.toList) (pathNames directory.toList)) := rfl

/-- **The path of an entry is in its one spelling.** -/
theorem usualPath_entryPath (directory : String) {name : List Char} (hname : IsName name) :
    usualPath (entryPath (usualPath directory) (String.ofList name)) =
      entryPath (usualPath directory) (String.ofList name) := by
  have hroot := pathRoot_mem_roots directory.toList
  have hnames : ∀ n ∈ pathNames directory.toList ++ [name], IsName n :=
    forall_isName_concat (fun _ => isName_of_mem_pathNames) hname
  rw [usualPath_eq directory, entryPath_spellPath hroot (fun _ => isName_of_mem_pathNames) hname]
  unfold usualPath
  rw [String.toList_ofList, usualPathChars_spellPath hroot hnames]

end Text

namespace FileTree

open Text

/-! ## The directory of an entry -/

section Places

variable {root : List Char} {names : List (List Char)} {name : List Char}

/-- The name at the end of a path is the last that it goes through. -/
theorem baseName_spellPath (hroot : root ∈ roots) (h : ∀ n ∈ names, IsName n) (hname : IsName name) :
    baseName (String.ofList (spellPath root (names ++ [name]))) = String.ofList name := by
  have hkept : ∀ c ∈ name.reverse, (decide (c ≠ '/')) = true := by
    intro c hc
    refine decide_eq_true ?_
    rintro rfl
    exact hname.noSlash (List.mem_reverse.mp hc)
  have hstop : ∀ cs : List Char, (cs = [] ∨ ∃ tail, cs = '/' :: tail) →
      (name.reverse ++ cs).takeWhile (fun c => decide (c ≠ '/')) = name.reverse := by
    intro cs hcs
    rw [List.takeWhile_append_of_pos hkept]
    rcases hcs with rfl | ⟨tail, rfl⟩
    · exact List.append_nil _
    · exact List.append_nil _
  unfold baseName
  rw [String.toList_ofList, spellPath_concat h hname, List.reverse_append, hstop, List.reverse_reverse]
  split
  · simp only [roots, List.mem_cons, List.not_mem_nil, or_false] at hroot
    rcases hroot with rfl | rfl | rfl
    · exact .inl rfl
    · exact .inr ⟨_, rfl⟩
    · exact .inr ⟨_, rfl⟩
  · rw [List.reverse_append]
    exact .inr ⟨_, rfl⟩

/-- The directory that a path lies in goes through the names before the last; two slashes make the same
root as one. -/
theorem parent_spellPath (hroot : root ∈ roots) (h : ∀ n ∈ names, IsName n) (hname : IsName name) :
    parent (String.ofList (spellPath root (names ++ [name]))) =
      String.ofList (spellPath (if names = [] then root.take 1 else root) names) := by
  have hkept : ∀ c ∈ name.reverse, (decide (c ≠ '/')) = true := by
    intro c hc
    refine decide_eq_true ?_
    rintro rfl
    exact hname.noSlash (List.mem_reverse.mp hc)
  unfold parent
  rw [String.toList_ofList, spellPath_concat h hname, List.reverse_append,
    List.dropWhile_append_of_pos hkept]
  by_cases hne : names = []
  · subst hne
    rw [if_pos rfl, if_pos rfl]
    simp only [roots, List.mem_cons, List.not_mem_nil, or_false] at hroot
    rcases hroot with rfl | rfl | rfl
    · rfl
    · rfl
    · rfl
  · rw [if_neg hne, if_neg hne, List.reverse_append]
    have hspelled : (spellPath root names).reverse ≠ [] := by
      rw [spellPath_of_ne_nil h hne, List.reverse_ne_nil_iff]
      exact fun hnil => intercalate_ne_nil h hne (List.append_eq_nil_iff.mp hnil).2
    have hdrop : (['/'].reverse ++ (spellPath root names).reverse).dropWhile
        (fun c => decide (c ≠ '/')) = '/' :: (spellPath root names).reverse := rfl
    rw [hdrop]
    split
    · rename_i heq
      cases heq
    · rename_i heq
      exact absurd (List.cons.inj heq).2 hspelled
    · rename_i heq
      rw [← (List.cons.inj heq).2, List.reverse_reverse]

end Places

/-- A name that does not lead up stays at the end. -/
theorem settle_concat (rooted : Bool) {name : List Char} (hup : name ≠ ['.', '.'])
    (kept names : List (List Char)) :
    settle rooted kept (names ++ [name]) = settle rooted kept names ++ [name] := by
  induction names generalizing kept with
  | nil =>
    rw [List.nil_append, settle.eq_def]
    dsimp only
    rw [if_neg hup]
    exact List.reverse_cons
  | cons first names ih =>
    rw [List.cons_append, settle.eq_def, settle.eq_def rooted kept (first :: names)]
    dsimp only
    split
    · cases kept with
      | nil => exact ih _
      | cons last below => exact ih _
    · exact ih _

/-- No new names come up. -/
theorem mem_of_mem_settle {rooted : Bool} {kept names : List (List Char)} {n : List Char}
    (h : n ∈ settle rooted kept names) : n ∈ kept ∨ n ∈ names := by
  induction names generalizing kept with
  | nil =>
    have hkept : n ∈ kept.reverse := h
    exact .inl (List.mem_reverse.mp hkept)
  | cons first names ih =>
    rw [settle.eq_def] at h
    dsimp only at h
    have hfirst : ∀ {kept'}, n ∈ settle rooted kept' names →
        (∀ m ∈ kept', m ∈ kept ∨ m = first) → n ∈ kept ∨ n ∈ first :: names := by
      intro kept' hmem hkept'
      rcases ih hmem with hn | hn
      · rcases hkept' n hn with hn | rfl
        · exact .inl hn
        · exact .inr List.mem_cons_self
      · exact .inr (List.mem_cons_of_mem _ hn)
    split at h
    · cases kept with
      | nil =>
        refine hfirst h fun m hm => .inr ?_
        cases rooted with
        | true => cases hm
        | false => exact List.mem_singleton.mp hm
      | cons last below =>
        refine hfirst h fun m hm => ?_
        split at hm
        · exact (List.mem_cons.mp hm).symm
        · exact .inl (List.mem_cons_of_mem _ hm)
    · exact hfirst h fun m hm => (List.mem_cons.mp hm).symm

/-- **The place of an entry** goes through the names of the place of its directory and its own, however
the directory is spelled. -/
theorem settled_entryPath (directory : String) {name : List Char} (hname : IsName name)
    (hup : name ≠ ['.', '.']) :
    ∃ root names, root ∈ roots ∧ root.length ≤ 1 ∧ (∀ n ∈ names, IsName n) ∧
      settled (usualPath directory) = String.ofList (spellPath root names) ∧
      settled (entryPath (usualPath directory) (String.ofList name)) =
        String.ofList (spellPath root (names ++ [name])) := by
  have hroot := pathRoot_mem_roots directory.toList
  rw [usualPath_eq, entryPath_spellPath hroot (fun _ => isName_of_mem_pathNames) hname]
  have hdirectory : ∀ n ∈ pathNames directory.toList, IsName n := fun _ => isName_of_mem_pathNames
  generalize pathRoot directory.toList = root at hroot ⊢
  generalize pathNames directory.toList = names at hdirectory ⊢
  have hall : ∀ n ∈ names ++ [name], IsName n := forall_isName_concat hdirectory hname
  have hsettled : ∀ {ns}, (∀ n ∈ ns, IsName n) → settled (String.ofList (spellPath root ns)) =
      String.ofList (spellPath (if root ≠ [] then ['/'] else [])
        (settle (decide (root ≠ [])) [] ns)) := by
    intro ns hns
    have hrooted : decide ((spellPath root ns).head? = some '/') = decide (root ≠ []) := by
      refine decide_eq_decide.mpr ?_
      rw [← pathRoot_ne_nil_iff, pathRoot_spellPath hroot hns]
    unfold settled
    dsimp only
    rw [String.toList_ofList, hrooted, pathNames_spellPath hroot hns]
    simp only [decide_eq_true_eq]
  refine ⟨_, settle (decide (root ≠ [])) [] names, ?_, ?_, ?_, hsettled hdirectory, ?_⟩
  · split
    · decide
    · decide
  · split
    · decide
    · decide
  · intro n hn
    exact (mem_of_mem_settle hn).elim (fun h => absurd h List.not_mem_nil) (hdirectory n)
  · rw [hsettled hall, settle_concat _ hup]

/-- **An entry lies in its directory**, however the directory is spelled. -/
theorem parent_settled_entry (directory : String) {name : List Char} (hname : IsName name)
    (hup : name ≠ ['.', '.']) :
    parent (settled (entryPath (usualPath directory) (String.ofList name))) =
      settled (usualPath directory) := by
  obtain ⟨root, names, hroot, hlength, hnames, hdirectory, hentry⟩ :=
    settled_entryPath directory hname hup
  rw [hentry, hdirectory, parent_spellPath hroot hnames hname, List.take_of_length_le hlength, ite_self]

/-- **An entry has its name**, however its directory is spelled. -/
theorem baseName_settled_entry (directory : String) {name : List Char} (hname : IsName name)
    (hup : name ≠ ['.', '.']) :
    baseName (settled (entryPath (usualPath directory) (String.ofList name))) = String.ofList name := by
  obtain ⟨root, names, hroot, _, hnames, _, hentry⟩ := settled_entryPath directory hname hup
  rw [hentry, baseName_spellPath hroot hnames hname]

/-- The place of an entry is not where a program stands or above. -/
theorem isAbove_settled_entry (directory : String) {name : List Char} (hname : IsName name)
    (hup : name ≠ ['.', '.']) :
    isAbove (settled (entryPath (usualPath directory) (String.ofList name))) = false := by
  obtain ⟨root, names, hroot, _, hnames, _, hentry⟩ := settled_entryPath directory hname hup
  have hbase := baseName_settled_entry directory hname hup
  have hspelled := pathNames_spellPath hroot (forall_isName_concat hnames hname)
  rw [hentry] at hbase ⊢
  unfold isAbove
  simp only [Bool.or_eq_false_iff, decide_eq_false_iff_not]
  refine ⟨⟨?_, ?_⟩, ?_⟩
  · intro hdot
    rw [hdot] at hbase
    have hlist := congrArg String.toList hbase
    rw [String.toList_ofList] at hlist
    exact hname.ne_dot hlist.symm
  · intro hslash
    rw [hslash] at hbase
    have hlist := congrArg String.toList hbase
    rw [String.toList_ofList] at hlist
    exact hname.ne_nil hlist.symm
  · refine List.all_eq_false.mpr ⟨name, ?_, by simpa using hup⟩
    rw [String.toList_ofList]
    have hmem : name ∈ pathNames (spellPath root (names ++ [name])) := by
      rw [hspelled]
      exact List.mem_append_right _ (List.mem_singleton.mpr rfl)
    exact (List.mem_filter.mp hmem).1

end FileTree

end Phrasing
