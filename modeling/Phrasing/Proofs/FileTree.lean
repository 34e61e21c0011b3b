import Phrasing.Proofs.Entries
import Phrasing.Proofs.Except
import Phrasing.Proofs.FilePath

/-! # Directories of files

A directory that can be reached holds files: each of them can be reached and read, and their names are
those of the directory.  `Holds.append` is the one step that changes what a directory holds: a file under
a new name is written to it, and everything that could be reached before still can be.
-/

namespace Phrasing

namespace FileTree

open Text

/-! ## Ways -/

/-- The places on the way to a path, which is the last of them. -/
def ways (path : String) : List String :=
  ancestors path.length path ++ [path]

theorem length_parent_lt {path : String} (hdot : parent path ≠ ".") (hslash : parent path ≠ "/") :
    (parent path).length < path.length := by
  have hlength : (path.toList.reverse.dropWhile fun c => decide (c ≠ '/')).length ≤ path.length := by
    rw [← String.length_toList, ← @List.length_reverse _ path.toList]
    exact (List.dropWhile_suffix _).length_le
  unfold parent at hdot hslash ⊢
  split at hdot
  · exact absurd rfl hdot
  · rename_i heq
    rw [heq] at hslash
    exact absurd rfl hslash
  · rename_i heq
    rw [heq] at hlength
    rw [← String.length_toList, String.toList_ofList, List.length_reverse]
    exact hlength

/-- A path has no more directories on the way than characters. -/
theorem ancestors_eq {depth : Nat} {path : String} (h : path.length ≤ depth) :
    ancestors depth path = ancestors path.length path := by
  induction hlength : path.length using Nat.strongRecOn generalizing depth path with
  | ind n ih =>
    subst hlength
    have hempty : ∀ p : String, p.length = 0 → ∀ d, ancestors d p = [] := by
      intro p hp d
      have hnil : p.toList = [] := List.eq_nil_of_length_eq_zero (String.length_toList ▸ hp)
      have hparent : parent p = "." := by
        unfold parent
        rw [hnil]
        rfl
      cases d with
      | zero => rfl
      | succ d =>
        unfold ancestors
        exact if_pos (.inl hparent)
    cases hpath : path.length with
    | zero => rw [hempty path hpath, hempty path hpath]
    | succ n =>
      obtain ⟨depth, rfl⟩ : ∃ d, depth = d + 1 := ⟨depth - 1, by omega⟩
      unfold ancestors
      dsimp only
      by_cases hstop : parent path = "." ∨ parent path = "/"
      · rw [if_pos hstop, if_pos hstop]
      · rw [if_neg hstop, if_neg hstop]
        have hshort := length_parent_lt (fun h => hstop (.inl h)) (fun h => hstop (.inr h))
        have hdepth := @ih (parent path).length hshort depth (parent path) (by omega) rfl
        have hn := @ih (parent path).length hshort n (parent path) (by omega) rfl
        rw [hdepth, hn]

/-- **The ways to an entry** are those to its directory and the entry, or the entry alone. -/
theorem ways_entryPath (directory : String) {name : List Char} (hname : IsName name) :
    ∃ before, ways (entryPath (usualPath directory) (String.ofList name)) =
        before ++ [entryPath (usualPath directory) (String.ofList name)] ∧
      (before = [] ∨ before = ways (usualPath directory)) := by
  have hroot := pathRoot_mem_roots directory.toList
  have hnames : ∀ n ∈ pathNames directory.toList, IsName n := fun _ => isName_of_mem_pathNames
  rw [usualPath_eq, entryPath_spellPath hroot hnames hname]
  generalize pathRoot directory.toList = root at hroot ⊢
  generalize pathNames directory.toList = names at hnames ⊢
  have hparent := parent_spellPath hroot hnames hname
  refine ⟨_, rfl, ?_⟩
  generalize hentry : String.ofList (spellPath root (names ++ [name])) = entry at hparent ⊢
  by_cases hne : names = []
  · -- The entry stands right under a root, where the ways begin.
    subst hne
    have hstop : parent entry = "." ∨ parent entry = "/" := by
      rw [hparent, if_pos rfl]
      simp only [roots, List.mem_cons, List.not_mem_nil, or_false] at hroot
      rcases hroot with rfl | rfl | rfl
      · exact .inl rfl
      · exact .inr rfl
      · exact .inr rfl
    cases entry.length with
    | zero => exact .inl rfl
    | succ n =>
      unfold ancestors
      exact .inl (if_pos hstop)
  · rw [if_neg hne] at hparent
    have hspelled := pathNames_spellPath hroot hnames
    -- A path that is spelled from names is none of those at which the ways begin, which have none.
    have hnamed : ∀ s : String, pathNames s.toList = [] → String.ofList (spellPath root names) ≠ s := by
      rintro s hs rfl
      rw [String.toList_ofList, hspelled] at hs
      exact hne hs
    have hgoes : ¬ (parent entry = "." ∨ parent entry = "/") := by
      rw [hparent]
      rintro (hstop | hstop)
      · exact hnamed "." (by decide) hstop
      · exact hnamed "/" (by decide) hstop
    have hshort := length_parent_lt (fun h => hgoes (.inl h)) (fun h => hgoes (.inr h))
    obtain ⟨n, hn⟩ : ∃ n, entry.length = n + 1 := ⟨entry.length - 1, by omega⟩
    refine .inr ?_
    rw [hn]
    unfold ancestors
    dsimp only
    rw [if_neg hgoes, ancestors_eq (by omega), hparent]
    rfl

/-! ## Following ways -/

section Following

variable {tree later : FileTree} {path other : String} {node found : FileNode}
  {places : List String} {place : String}

/-- From a directory the way goes on to the next place. -/
theorem follow_directory_cons :
    follow tree path .directory (place :: places) =
      if mostNameBytes < (baseName place).utf8ByteSize then tooLong path
      else match tree.find? place with
        | none => noEntry path
        | some next => follow tree path next places := rfl

/-- One place of a way. -/
theorem follow_cons_eq_ok_iff :
    follow tree path node (place :: places) = .ok found ↔
      node = .directory ∧ (baseName place).utf8ByteSize ≤ mostNameBytes ∧
        ∃ next, tree.find? place = some next ∧ follow tree path next places = .ok found := by
  cases node with
  | file bytes =>
    constructor
    · intro h
      cases h
    · rintro ⟨hdirectory, -⟩
      cases hdirectory
  | directory =>
    rw [follow_directory_cons]
    split
    · rename_i hlong
      constructor
      · intro h
        cases h
      · exact fun h => absurd h.2.1 (Nat.not_le.mpr hlong)
    · rename_i hshort
      cases tree.find? place with
      | none =>
        constructor
        · intro h
          cases h
        · rintro ⟨-, -, _, hnext, -⟩
          cases hnext
      | some next =>
        constructor
        · exact fun h => ⟨rfl, Nat.not_lt.mp hshort, next, rfl, h⟩
        · rintro ⟨_, _, _, heq, h⟩
          cases heq
          exact h

/-- Where a way leads does not depend on what it is followed for. -/
theorem follow_for (h : follow tree path node places = .ok found) :
    follow tree other node places = .ok found := by
  induction places generalizing node with
  | nil => exact h
  | cons place places ih =>
    obtain ⟨hnode, hshort, next, hnext, hrest⟩ := follow_cons_eq_ok_iff.mp h
    exact follow_cons_eq_ok_iff.mpr ⟨hnode, hshort, next, hnext, ih hrest⟩

/-- A way to a directory goes on to any entry that is found there under a name that is not too long. -/
theorem follow_concat (h : follow tree path node places = .ok .directory)
    (hshort : (baseName place).utf8ByteSize ≤ mostNameBytes) (hfind : tree.find? place = some found) :
    follow tree path node (places ++ [place]) = .ok found := by
  induction places generalizing node with
  | nil =>
    cases h
    exact follow_cons_eq_ok_iff.mpr ⟨rfl, hshort, found, hfind, rfl⟩
  | cons first places ih =>
    obtain ⟨hnode, hfirst, next, hnext, hrest⟩ := follow_cons_eq_ok_iff.mp h
    exact follow_cons_eq_ok_iff.mpr ⟨hnode, hfirst, next, hnext, ih hrest⟩

/-- A way stays where everything that was found still is. -/
theorem follow_mono (hkept : ∀ p n, tree.find? p = some n → later.find? p = some n)
    (h : follow tree path node places = .ok found) : follow later path node places = .ok found := by
  induction places generalizing node with
  | nil => exact h
  | cons place places ih =>
    obtain ⟨hnode, hshort, next, hnext, hrest⟩ := follow_cons_eq_ok_iff.mp h
    exact follow_cons_eq_ok_iff.mpr ⟨hnode, hshort, next, hkept place next hnext, ih hrest⟩

theorem reach_mono (hkept : ∀ p n, tree.find? p = some n → later.find? p = some n)
    (h : tree.reach path = .ok found) : later.reach path = .ok found := by
  obtain ⟨_, hpath, hway⟩ := bind_eq_ok.mp h
  exact bind_eq_ok.mpr ⟨_, hpath, follow_mono hkept hway⟩

end Following

/-! ## Entries -/

section Entering

variable {tree : FileTree} {directory : String} {name : List Char}

theorem baseName_entryPath (directory : String) (hname : IsName name) :
    baseName (entryPath (usualPath directory) (String.ofList name)) = String.ofList name := by
  have hroot := pathRoot_mem_roots directory.toList
  have hnames : ∀ n ∈ pathNames directory.toList, IsName n := fun _ => isName_of_mem_pathNames
  rw [usualPath_eq, entryPath_spellPath hroot hnames hname, baseName_spellPath hroot hnames hname]

theorem usualPath_usualPath (directory : String) : usualPath (usualPath directory) = usualPath directory := by
  have hroot := pathRoot_mem_roots directory.toList
  have hnames : ∀ n ∈ pathNames directory.toList, IsName n := fun _ => isName_of_mem_pathNames
  rw [usualPath_eq directory]
  unfold usualPath
  rw [String.toList_ofList, usualPathChars_spellPath hroot hnames]

/-- The path of an entry is its name behind what leads to the directory. -/
theorem exists_lead (directory : String) :
    ∃ lead, (lead = [] ∨ ∃ before, lead = before ++ ['/']) ∧
      ∀ name, IsName name →
        (entryPath (usualPath directory) (String.ofList name)).toList = lead ++ name := by
  have hroot := pathRoot_mem_roots directory.toList
  have hnames : ∀ n ∈ pathNames directory.toList, IsName n := fun _ => isName_of_mem_pathNames
  have hlist : ∀ name, IsName name →
      (entryPath (usualPath directory) (String.ofList name)).toList =
        (if pathNames directory.toList = [] then pathRoot directory.toList
          else spellPath (pathRoot directory.toList) (pathNames directory.toList) ++ ['/']) ++ name := by
    intro name hname
    rw [usualPath_eq, entryPath_spellPath hroot hnames hname, String.toList_ofList,
      spellPath_concat hnames hname]
  refine ⟨_, ?_, hlist⟩
  split
  · simp only [roots, List.mem_cons, List.not_mem_nil, or_false] at hroot
    rcases hroot with hroot | hroot | hroot
    · exact .inl hroot
    · exact .inr ⟨[], hroot⟩
    · exact .inr ⟨['/'], hroot⟩
  · exact .inr ⟨_, rfl⟩

/-- When the segments of a path can be names. -/
theorem checkNames_eq_ok_iff {path : String} :
    checkNames path = .ok () ↔ '\x00' ∉ path.toList ∧ path.utf8ByteSize ≤ mostPathBytes ∧
      ∀ part ∈ pathSegments path.toList, (String.ofList part).utf8ByteSize ≤ mostNameBytes := by
  have hpath : checkPath path = .ok () ↔ '\x00' ∉ path.toList ∧ path.utf8ByteSize ≤ mostPathBytes := by
    unfold checkPath
    split
    · rename_i hnull
      exact iff_of_false (fun h => nomatch h) fun h => h.1 (List.contains_iff_mem.mp hnull)
    · rename_i hnull
      have hnull' : '\x00' ∉ path.toList := fun h => hnull (List.contains_iff_mem.mpr h)
      split
      · rename_i hlong
        exact iff_of_false (fun h => nomatch h) fun h => absurd h.2 (Nat.not_le.mpr hlong)
      · rename_i hshort
        exact iff_of_true rfl ⟨hnull', Nat.not_lt.mp hshort⟩
  have hnames : ((pathSegments path.toList).any fun name =>
      decide (mostNameBytes < (String.ofList name).utf8ByteSize)) = false ↔
        ∀ part ∈ pathSegments path.toList, (String.ofList part).utf8ByteSize ≤ mostNameBytes := by
    simp only [List.any_eq_false, decide_eq_true_eq, Nat.not_lt]
  rw [← and_assoc, ← hpath, ← hnames]
  constructor
  · intro h
    obtain ⟨_, hchecked, hrest⟩ := bind_eq_ok.mp h
    refine ⟨hchecked, ?_⟩
    split at hrest
    · cases hrest
    · rename_i hnone
      exact Bool.eq_false_iff.mpr hnone
  · rintro ⟨hchecked, hnone⟩
    refine bind_eq_ok.mpr ⟨(), hchecked, ?_⟩
    rw [hnone]
    rfl

theorem pathSegments_lead {lead : List Char} (hlead : lead = [] ∨ ∃ before, lead = before ++ ['/'])
    (hname : IsName name) : ∃ before, pathSegments (lead ++ name) = before ++ [name] ∧
      ∀ other, IsName other → pathSegments (lead ++ other) = before ++ [other] := by
  rcases hlead with rfl | ⟨before, rfl⟩
  · exact ⟨[], pathSegments_of_notMem hname.noSlash, fun _ h => pathSegments_of_notMem h.noSlash⟩
  · have hsegments : ∀ other, IsName other →
        pathSegments (before ++ ['/'] ++ other) = pathSegments before ++ [other] := by
      intro other hother
      rw [List.append_assoc, List.singleton_append, pathSegments_append,
        pathSegments_of_notMem hother.noSlash]
    exact ⟨_, hsegments name hname, hsegments⟩

/-- A name in a path that can be one is not too long. -/
theorem size_le_of_checkNames (hname : IsName name)
    (h : checkNames (entryPath (usualPath directory) (String.ofList name)) = .ok ()) :
    (String.ofList name).utf8ByteSize ≤ mostNameBytes := by
  obtain ⟨lead, hlead, hpath⟩ := exists_lead directory
  obtain ⟨before, hsegments, _⟩ := pathSegments_lead hlead hname
  obtain ⟨_, _, hlengths⟩ := checkNames_eq_ok_iff.mp h
  rw [hpath name hname, hsegments] at hlengths
  exact hlengths name (List.mem_append_right _ (List.mem_singleton.mpr rfl))

/-- Where a name can stand, another one of its size can. -/
theorem checkNames_of_size {other : List Char} (hname : IsName name) (hother : IsName other)
    (hsize : (String.ofList other).utf8ByteSize = (String.ofList name).utf8ByteSize)
    (hnull : '\x00' ∉ other)
    (h : checkNames (entryPath (usualPath directory) (String.ofList name)) = .ok ()) :
    checkNames (entryPath (usualPath directory) (String.ofList other)) = .ok () := by
  obtain ⟨lead, hlead, hpath⟩ := exists_lead directory
  obtain ⟨before, hsegments, hsegments'⟩ := pathSegments_lead hlead hname
  have hbytes : ∀ n, IsName n → (entryPath (usualPath directory) (String.ofList n)).utf8ByteSize =
      (String.ofList lead).utf8ByteSize + (String.ofList n).utf8ByteSize := by
    intro n hn
    rw [← String.ofList_toList (s := entryPath (usualPath directory) (String.ofList n)), hpath n hn,
      String.ofList_append, String.utf8ByteSize_append]
  obtain ⟨hnulls, htotal, hlengths⟩ := checkNames_eq_ok_iff.mp h
  rw [hpath name hname] at hnulls hlengths
  rw [hbytes name hname] at htotal
  refine checkNames_eq_ok_iff.mpr ⟨?_, ?_, ?_⟩
  · rw [hpath other hother]
    intro hmem
    rcases List.mem_append.mp hmem with hmem | hmem
    · exact hnulls (List.mem_append_left _ hmem)
    · exact hnull hmem
  · rw [hbytes other hother, hsize]
    exact htotal
  · rw [hpath other hother, hsegments' other hother]
    rw [hsegments] at hlengths
    intro part hpart
    rcases List.mem_append.mp hpart with hpart | hpart
    · exact hlengths part (List.mem_append_left _ hpart)
    · rw [List.mem_singleton.mp hpart, hsize]
      exact hlengths name (List.mem_append_right _ (List.mem_singleton.mpr rfl))

/-- **What is found in a directory that can be reached can be reached**, unless its path is too long. -/
theorem reach_entryPath {found : FileNode} (hname : IsName name)
    (hdirectory : tree.reach (usualPath directory) = .ok .directory)
    (hchecked : checkNames (entryPath (usualPath directory) (String.ofList name)) = .ok ())
    (hfind : tree.find? (entryPath (usualPath directory) (String.ofList name)) = some found) :
    tree.reach (entryPath (usualPath directory) (String.ofList name)) = .ok found := by
  obtain ⟨_, hpath, _⟩ := bind_eq_ok.mp hchecked
  obtain ⟨_, _, hway⟩ := bind_eq_ok.mp hdirectory
  have hway' : tree.follow (usualPath directory) .directory (ways (usualPath directory)) =
      .ok .directory := by
    have husual := usualPath_usualPath directory
    rw [husual] at hway
    exact hway
  have hshort := size_le_of_checkNames hname hchecked
  rw [← baseName_entryPath directory hname] at hshort
  refine bind_eq_ok.mpr ⟨(), hpath, ?_⟩
  rw [usualPath_entryPath directory hname]
  obtain ⟨before, hways, hbefore⟩ := ways_entryPath directory hname
  show tree.follow _ .directory (ways _) = _
  rw [hways]
  refine follow_concat ?_ hshort hfind
  rcases hbefore with hbefore | hbefore
  · rw [hbefore]
    rfl
  · rw [hbefore]
    exact follow_for hway'

end Entering

/-! ## What a directory holds -/

/-- A name that the file of a directory can have. -/
structure IsFileName (name : String) : Prop where
  isName : IsName name.toList
  ne_up : name.toList ≠ ['.', '.']

/-- A directory can be reached and holds these files and nothing else. -/
structure Holds (tree : FileTree) (directory : String) (files : List (String × List UInt8)) : Prop where
  reached : tree.reach (usualPath directory) = .ok .directory
  names : tree.names (usualPath directory) = files.map Prod.fst
  found : ∀ f ∈ files, tree.find? (entryPath (usualPath directory) f.1) = some (.file f.2)

section Writing

variable {tree : FileTree} {directory name : String} {files : List (String × List UInt8)}

/-- What is found is found still once another node stands in a place that was free. -/
theorem find?_put_of_free {place : String} (hfree : Entries.get? place tree = none) {node : FileNode}
    {path : String} {found : FileNode} (hfind : tree.find? path = some found) :
    find? (Entries.put place node tree) path = some found := by
  unfold find? at hfind ⊢
  dsimp only at hfind ⊢
  split at hfind
  · rename_i habove
    rw [if_pos habove]
    exact hfind
  · rename_i habove
    have hne : place ≠ settled path := by
      rintro heq
      rw [heq] at hfree
      cases hfree.symm.trans hfind
    rw [if_neg habove, Entries.get?_put_ne hne]
    exact hfind

/-- The place of a file that a directory does not hold is free. -/
theorem Holds.get?_eq_none (h : Holds tree directory files) (hname : IsFileName name)
    (hfresh : name ∉ files.map Prod.fst) :
    Entries.get? (settled (entryPath (usualPath directory) name)) tree = none := by
  refine Entries.get?_eq_none_iff.mpr fun hmem => hfresh ?_
  have hparent := parent_settled_entry directory hname.isName hname.ne_up
  have hbase := baseName_settled_entry directory hname.isName hname.ne_up
  rw [String.ofList_toList] at hparent hbase
  rw [← h.names, ← hbase]
  exact List.mem_map_of_mem (List.mem_filter.mpr ⟨hmem, decide_eq_true hparent⟩)

/-- **A file is written to a directory** under a new name. -/
theorem Holds.append (h : Holds tree directory files) (hname : IsFileName name)
    (hfresh : name ∉ files.map Prod.fst) (bytes : List UInt8) :
    Holds (tree.append (entryPath (usualPath directory) name) bytes) directory
      (files ++ [(name, bytes)]) := by
  have hparent := parent_settled_entry directory hname.isName hname.ne_up
  have hbase := baseName_settled_entry directory hname.isName hname.ne_up
  have habove := isAbove_settled_entry directory hname.isName hname.ne_up
  have hnone := h.get?_eq_none hname hfresh
  rw [String.ofList_toList] at hparent hbase habove
  generalize hplace : settled (entryPath (usualPath directory) name) = place at *
  have hlater : tree.append (entryPath (usualPath directory) name) bytes =
      Entries.put place (.file bytes) tree := by
    have hfind : tree.find? (entryPath (usualPath directory) name) = none := by
      unfold find?
      dsimp only
      rw [hplace, habove]
      exact hnone
    unfold FileTree.append
    rw [hfind, hplace]
    rfl
  rw [hlater]
  have hkept := fun p n => @find?_put_of_free tree place hnone (.file bytes) p n
  refine ⟨reach_mono hkept h.reached, ?_, ?_⟩
  · have hkeys : (Entries.put place (.file bytes) tree).keys = tree.keys ++ [place] := by
      rw [Entries.put_of_not_mem _ (Entries.get?_eq_none_iff.mp hnone)]
      exact List.map_append
    have hnames : (tree.keys.filter fun path => decide (parent path = settled (usualPath directory))).map
        baseName = files.map Prod.fst := h.names
    have hlast : ([place].filter fun path => decide (parent path = settled (usualPath directory))).map
        baseName = [name] := by
      rw [List.filter_singleton, decide_eq_true hparent, cond_true, List.map_singleton, hbase]
    unfold FileTree.names
    rw [hkeys, List.filter_append, List.map_append, hnames, hlast, List.map_append]
    rfl
  · intro f hf
    rcases List.mem_append.mp hf with hf | hf
    · exact hkept _ _ (h.found f hf)
    · rw [List.mem_singleton.mp hf]
      unfold find?
      dsimp only
      rw [hplace, habove, Entries.get?_put, if_pos rfl]
      rfl

end Writing

end FileTree

end Phrasing
