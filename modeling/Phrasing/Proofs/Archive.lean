import Mathlib.Data.String.Basic
import Phrasing.Proofs.FileTree
import Phrasing.Proofs.Summaries

/-! # What an archive tells

Calls that record in one directory leave a file each, unless their arguments cannot be used
(`holds_after`: one call adds one file, and so many calls add theirs in turn).  `archive_tells` reads the
directory back: the journals come in descending order of their names, each is loaded with all of its
lines and sums its call up, and the failed calls that the archive reports are those that failed, in the
same order.
-/

namespace Phrasing

open Journal Text

variable {σ : Type}

namespace Journal

/-- What is sorted by distinct names, the last one first, stands in strictly descending order of them. -/
theorem descends_mergeSort {α : Type} {name : α → String} {as : List α} (h : (as.map name).Nodup) :
    (as.mergeSort fun a b => decide (name b ≤ name a)).Pairwise fun a b => name b < name a := by
  have hsorted : (as.mergeSort fun a b => decide (name b ≤ name a)).Pairwise
      fun a b => decide (name b ≤ name a) = true := by
    refine List.pairwise_mergeSort ?_ ?_ _
    · intro a b c hab hbc
      exact decide_eq_true ((of_decide_eq_true hbc).trans (of_decide_eq_true hab))
    · intro a b
      rw [Bool.or_eq_true, decide_eq_true_eq, decide_eq_true_eq]
      exact le_total _ _
  have hnames : ((as.mergeSort fun a b => decide (name b ≤ name a)).map name).Nodup :=
    ((List.mergeSort_perm _ _).map name).nodup_iff.mpr h
  refine List.Pairwise.imp₂ ?_ hsorted (List.pairwise_map.mp hnames)
  intro a b hle hne
  exact lt_of_le_of_ne (of_decide_eq_true hle) (Ne.symm hne)

/-- The paths of the journals in a directory that can be reached. -/
theorem journalPaths_of_reach {tree : FileTree} {directory : String}
    (h : tree.reach (usualPath directory) = .ok .directory) :
    journalPaths tree directory =
      (((tree.names (usualPath directory)).filter isJournalName).mergeSort fun a b => decide (b ≤ a)).map
        (entryPath (usualPath directory)) := by
  unfold journalPaths
  dsimp only
  rw [h]

/-- One journal of a report: it is reported, before the others, if it tells a failure. -/
theorem failedAmong_cons {tree : FileTree} {path : String} {rest : List String} {entries : List Value}
    {s : Summary} (hload : load tree path = (.ok entries, [])) (hsummary : summary entries = .ok s) :
    failedAmong tree (path :: rest) =
      if s.status = .failed then ((failedAmong tree rest).1.map ((path, s) :: ·), (failedAmong tree rest).2)
      else failedAmong tree rest := by
  have hsummed : (Except.ok entries).bind summary = .ok s := hsummary
  rw [failedAmong, hload]
  dsimp only
  rw [hsummed]
  dsimp only
  split
  · rfl
  · rfl

end Journal

/-- A call as it is made: by a resolver, to a service that is in some state, at some time, with its
arguments. -/
structure Attempt (σ : Type) where
  service : Service σ
  resolver : Resolver
  callId : String
  /-- The time of the call, as the name of its journal has it. -/
  stamp : String
  activity : Option Activity
  entities : Value
  session : Session σ

namespace Attempt

/-- What the call leaves behind. -/
def outcome (c : Attempt σ) : Resolver.Outcome σ :=
  Resolver.resolve c.service c.resolver c.callId (c.activity.map .activity) c.entities c.session

/-- The arguments of the call can be used. -/
def passes (c : Attempt σ) : Bool :=
  (Resolver.checkArguments (c.activity.map .activity) c.entities).toBool

/-- The call ends in a fault, and was not made to stop. -/
def fails (c : Attempt σ) : Bool :=
  match c.outcome.result with
  | .ok _ => false
  | .error fault => !fault.isInterruption

/-- The name of the journal of the call. -/
def fileName (c : Attempt σ) : String :=
  c.stamp ++ "_" ++ c.callId ++ ".jsonl"

/-- The path of the journal of the call in a directory. -/
def path (directory : String) (c : Attempt σ) : String :=
  entryPath (usualPath directory) c.fileName

/-- A tree after the call: the journal is saved, if the call leaves one. -/
def save (directory : String) (tree : FileTree) (c : Attempt σ) : FileTree :=
  match c.outcome.journal with
  | some w => w.saveIn directory c.stamp tree
  | none => tree

/-- A tree after calls. -/
def after (directory : String) (tree : FileTree) (calls : List (Attempt σ)) : FileTree :=
  calls.foldl (save directory) tree

/-- A time in the name of a journal: the digits of the day and those of the time of day. -/
structure IsStamp (stamp : String) : Prop where
  length_eq : stamp.toList.length = 15
  plain : ∀ c ∈ stamp.toList, c.isDigit = true ∨ c = '_'

theorem IsStamp.of_all {stamp : String} (hlength : stamp.toList.length = 15)
    (hplain : (stamp.toList.all fun c => c.isDigit || c == '_') = true) : IsStamp stamp := by
  refine ⟨hlength, fun c hc => ?_⟩
  have hc := List.all_eq_true.mp hplain c hc
  rwa [Bool.or_eq_true, beq_iff_eq] at hc

/-- A call records in a directory. -/
structure Records (directory : String) (c : Attempt σ) : Prop where
  logged : c.resolver.options.logDir = some directory
  /-- The journal can be started. -/
  starts : ∃ w, Writer.startIn directory c.callId c.resolver.endpoint.app = .ok w
  stamped : IsStamp c.stamp
  /-- The call is not stopped by it. -/
  goes : ∀ m, ¬ c.resolver.StopsAtJournal c.callId c.entities c.activity m

theorem fails_iff {c : Attempt σ} :
    c.fails = true ↔ ∃ fault, c.outcome.result = .error fault ∧ fault.isInterruption = false := by
  unfold fails
  cases c.outcome.result with
  | ok done => simp
  | error fault => simp

/-- The arguments that can be used are an activity and entities. -/
theorem passes_iff {c : Attempt σ} :
    c.passes = true ↔ ∃ a entries, c.activity = some a ∧ c.entities.Gives entries := by
  unfold passes
  cases hactivity : c.activity with
  | none =>
    refine iff_of_false ?_ fun ⟨_, _, h, _⟩ => nomatch h
    exact fun h => nomatch h
  | some a =>
    by_cases hgives : ∃ entries, c.entities.Gives entries
    · obtain ⟨entries, hgives⟩ := hgives
      rw [Option.map_some, Resolver.checkArguments_of_gives hgives]
      exact iff_of_true rfl ⟨a, entries, rfl, hgives⟩
    · rw [Option.map_some, Resolver.checkArguments_of_not_gives hgives]
      refine iff_of_false (fun h => nomatch h) ?_
      rintro ⟨_, entries, _, h⟩
      exact hgives ⟨entries, h⟩

theorem outcome_of_not_passes {c : Attempt σ} (h : c.passes = false) : c.outcome.journal = none := by
  unfold passes at h
  unfold outcome
  cases hchecked : Resolver.checkArguments (c.activity.map .activity) c.entities with
  | ok s =>
    rw [hchecked] at h
    cases h
  | error fault => rw [Resolver.resolve_unchecked hchecked]

/-! ## Names -/

section Names

variable {c d : Attempt σ}

theorem toList_fileName (c : Attempt σ) :
    c.fileName.toList = c.stamp.toList ++ '_' :: c.callId.toList ++ ".jsonl".toList := by
  unfold fileName
  simp only [String.toList_append, List.append_assoc]
  rfl

/-- Calls with distinct names have journals with distinct names. -/
theorem callId_eq_of_fileName (hc : IsStamp c.stamp) (hd : IsStamp d.stamp)
    (h : c.fileName = d.fileName) : c.callId = d.callId := by
  have hlist := congrArg String.toList h
  rw [toList_fileName, toList_fileName, List.append_assoc, List.append_assoc] at hlist
  obtain ⟨_, hrest⟩ := List.append_inj hlist (hc.length_eq.trans hd.length_eq.symm)
  have hcall := (List.append_inj_left' hrest rfl)
  exact String.toList_inj.mp (List.cons.inj hcall).2

theorem isJournalName_fileName (c : Attempt σ) : isJournalName c.fileName = true := by
  unfold isJournalName
  rw [toList_fileName]
  exact List.isSuffixOf_iff_suffix.mpr ⟨_, rfl⟩

end Names

/-! ## One call -/

section Saving

variable {c : Attempt σ} {directory : String} {tree : FileTree}
  {files : List (String × List UInt8)}

/-- The bytes of the journal that a call leaves. -/
def bytes (c : Attempt σ) : List UInt8 :=
  (c.outcome.journal.map Writer.bytes).getD []

theorem notMem_stamp {stamp : String} (h : IsStamp stamp) {ch : Char} (hdigit : ch.isDigit = false)
    (hne : ch ≠ '_') : ch ∉ stamp.toList := by
  intro hmem
  rcases h.plain ch hmem with hch | hch
  · exact Bool.false_ne_true (hdigit.symm.trans hch)
  · exact hne hch

/-- What it takes to start a journal. -/
theorem startIn_spec {callId : String} {scenario : Value} {w : Writer}
    (h : Writer.startIn directory callId scenario = .ok w) :
    FileTree.checkNames (entryPath (usualPath directory)
        ("00000000_000000" ++ "_" ++ callId ++ ".jsonl")) = .ok () ∧ '/' ∉ callId.toList := by
  obtain ⟨_, _, h⟩ := bind_eq_ok.mp h
  obtain ⟨_, hnames, h⟩ := bind_eq_ok.mp h
  refine ⟨hnames, fun hmem => ?_⟩
  rw [if_pos (List.contains_iff_mem.mpr hmem)] at h
  cases h

theorem Records.isFileName (h : c.Records directory) : FileTree.IsFileName c.fileName := by
  obtain ⟨w, hw⟩ := h.starts
  obtain ⟨_, hslash⟩ := startIn_spec hw
  have hstamp := notMem_stamp h.stamped (by decide : '/'.isDigit = false) (by decide)
  have hlong : 2 < c.fileName.toList.length := by
    rw [toList_fileName, List.length_append, List.length_append, h.stamped.length_eq]
    omega
  refine ⟨⟨?_, ?_, ?_⟩, ?_⟩
  · intro hnil
    rw [hnil] at hlong
    exact absurd hlong (by decide)
  · intro hdot
    rw [hdot] at hlong
    exact absurd hlong (by decide)
  · rw [toList_fileName]
    intro hmem
    rcases List.mem_append.mp hmem with hmem | hmem
    · rcases List.mem_append.mp hmem with hmem | hmem
      · exact hstamp hmem
      · rcases List.mem_cons.mp hmem with hmem | hmem
        · exact absurd hmem (by decide)
        · exact hslash hmem
    · exact absurd hmem (by decide)
  · intro hup
    rw [hup] at hlong
    exact absurd hlong (by decide)

theorem utf8ByteSize_stamp {stamp : String} (h : IsStamp stamp) : stamp.utf8ByteSize = 15 := by
  have hascii : AllAscii stamp.toList := by
    intro ch hch
    rcases h.plain ch hch with hdigit | rfl
    · simp only [Char.isDigit, ge_iff_le, Bool.and_eq_true, decide_eq_true_eq,
        UInt32.le_iff_toNat_le] at hdigit
      exact Nat.lt_of_le_of_lt hdigit.2 (by decide)
    · decide
  have hsize := utf8ByteSize_of_allAscii hascii
  rwa [String.ofList_toList, h.length_eq] at hsize

/-- The path of the journal can be one: every time takes as much space as any other. -/
theorem Records.checkNames (h : c.Records directory) :
    FileTree.checkNames (c.path directory) = .ok () := by
  obtain ⟨w, hw⟩ := h.starts
  obtain ⟨hnames, _⟩ := startIn_spec hw
  -- The journal was started under a name with zeros for the time.
  let early : Attempt σ := { c with stamp := "00000000_000000" }
  have hstamped : IsStamp "00000000_000000" := .of_all (by decide) (by decide)
  have hearly : early.Records directory :=
    ⟨h.logged, h.starts, hstamped, h.goes⟩
  have hchecked : FileTree.checkNames (entryPath (usualPath directory)
      (String.ofList early.fileName.toList)) = .ok () := by
    rw [String.ofList_toList]
    exact hnames
  have hsize : (String.ofList c.fileName.toList).utf8ByteSize =
      (String.ofList early.fileName.toList).utf8ByteSize := by
    have hlength : early.stamp.utf8ByteSize = 15 := utf8ByteSize_stamp hstamped
    rw [String.ofList_toList, String.ofList_toList]
    unfold fileName
    simp only [String.utf8ByteSize_append, utf8ByteSize_stamp h.stamped, hlength]
    rfl
  have hnull : '\x00' ∉ c.fileName.toList := by
    obtain ⟨lead, _, hlead⟩ := FileTree.exists_lead directory
    have hclean := (FileTree.checkNames_eq_ok_iff.mp hchecked).1
    rw [hlead _ hearly.isFileName.isName] at hclean
    rw [toList_fileName]
    intro hmem
    rcases List.mem_append.mp hmem with hmem | hmem
    · rcases List.mem_append.mp hmem with hmem | hmem
      · exact notMem_stamp h.stamped (by decide) (by decide) hmem
      · refine hclean (List.mem_append_right _ ?_)
        rw [toList_fileName]
        exact List.mem_append_left _ (List.mem_append_right _ hmem)
    · exact absurd hmem (by decide)
  have hpath := FileTree.checkNames_of_size hearly.isFileName.isName h.isFileName.isName hsize hnull hchecked
  rwa [String.ofList_toList] at hpath

/-- **The journal of a call that can be made** tells the chronicle of the call and how it ended, and all its entries
can be written. -/
theorem Records.exists_journal (h : c.Records directory) {a : Activity} (hactivity : c.activity = some a)
    (hgives : ∃ entries, c.entities.Gives entries) :
    ∃ w told, c.outcome.journal = some w ∧ w.callId = c.callId ∧
      Resolver.Chronicle c.service c.resolver c.entities c.session a c.outcome.result told ∧
      w.entries = Resolver.entriesOf c.callId c.resolver.endpoint.app
        (told ++ Event.endOf c.outcome.result) ∧
      ∀ e ∈ w.entries, e.check = .ok () := by
  obtain ⟨w, hw⟩ := h.starts
  have hstart : c.resolver.startJournal c.callId = .ok (some w) := by
    unfold Resolver.startJournal
    rw [h.logged]
    show (Writer.startIn directory c.callId c.resolver.endpoint.app).map some = _
    rw [hw]
    rfl
  have houtcome : c.outcome = Resolver.resolve c.service c.resolver c.callId (some (.activity a))
      c.entities c.session := by
    unfold outcome
    rw [hactivity]
    rfl
  obtain ⟨told, hchronicle, hjournal, hheld⟩ :=
    Resolver.exists_chronicle c.service c.session a hgives hstart (hactivity ▸ h.goes)
  rw [← houtcome] at hchronicle hjournal hheld
  refine ⟨_, told, hjournal, rfl, hchronicle, rfl, fun e he => ?_⟩
  obtain ⟨event, hevent, rfl⟩ := List.mem_map.mp he
  exact hheld event hevent

/-- **A call that can be made adds its journal to the directory.** -/
theorem Records.holds_save (h : c.Records directory) (hpasses : c.passes = true)
    (hfresh : c.fileName ∉ files.map Prod.fst) (hholds : tree.Holds directory files) :
    FileTree.Holds (save directory tree c) directory (files ++ [(c.fileName, c.bytes)]) := by
  obtain ⟨a, entries, hactivity, hgives⟩ := passes_iff.mp hpasses
  obtain ⟨w, told, hjournal, hcall, _⟩ := h.exists_journal hactivity ⟨entries, hgives⟩
  have hname : w.fileName c.stamp = c.fileName := by
    unfold Writer.fileName
    rw [hcall]
    rfl
  have hsave : save directory tree c = tree.append (entryPath (usualPath directory) c.fileName) c.bytes := by
    unfold save bytes
    rw [hjournal]
    show w.saveIn directory c.stamp tree = _
    unfold Writer.saveIn
    rw [hname]
    rfl
  rw [hsave]
  exact hholds.append h.isFileName hfresh c.bytes

end Saving

/-! ## Many calls -/

section Runs

variable {directory : String} {tree : FileTree} {files : List (String × List UInt8)}
  {calls : List (Attempt σ)}

/-- The journals that calls leave. -/
def journals (calls : List (Attempt σ)) : List (String × List UInt8) :=
  (calls.filter passes).map fun c => (c.fileName, c.bytes)

/-- **Calls add their journals to the directory**, each that can be made one. -/
theorem holds_after (hrecords : ∀ c ∈ calls, c.Records directory)
    (hdistinct : (files.map Prod.fst ++ calls.map fileName).Nodup) (hholds : tree.Holds directory files) :
    FileTree.Holds (after directory tree calls) directory (files ++ journals calls) := by
  induction calls generalizing tree files with
  | nil =>
    have hnone : files ++ journals ([] : List (Attempt σ)) = files := List.append_nil files
    rw [hnone]
    exact hholds
  | cons c calls ih =>
    obtain ⟨hc, hcalls⟩ := List.forall_mem_cons.mp hrecords
    rw [List.map_cons] at hdistinct
    cases hpasses : c.passes with
    | false =>
      have hsave : save directory tree c = tree := by
        unfold save
        rw [outcome_of_not_passes hpasses]
      have hjournals : journals (c :: calls) = journals calls := by
        unfold journals
        rw [List.filter_cons_of_neg (by rw [hpasses]; exact Bool.false_ne_true)]
      have hrest : (files.map Prod.fst ++ calls.map fileName).Nodup :=
        List.Nodup.sublist ((List.sublist_cons_self _ _).append_left _) hdistinct
      show FileTree.Holds (after directory (save directory tree c) calls) directory _
      rw [hsave, hjournals]
      exact ih hcalls hrest hholds
    | true =>
      have hfresh : c.fileName ∉ files.map Prod.fst := fun hmem =>
        (List.nodup_append.mp hdistinct).2.2 _ hmem _ List.mem_cons_self rfl
      have hjournals : files ++ journals (c :: calls) =
          files ++ [(c.fileName, c.bytes)] ++ journals calls := by
        unfold journals
        rw [List.filter_cons_of_pos hpasses, List.map_cons, List.append_assoc]
        rfl
      have hrest : ((files ++ [(c.fileName, c.bytes)]).map Prod.fst ++ calls.map fileName).Nodup := by
        rw [List.map_append, List.append_assoc]
        exact hdistinct
      rw [hjournals]
      exact ih hcalls hrest (hc.holds_save hpasses hfresh hholds)

/-- The journals of calls with distinct names have distinct names. -/
theorem nodup_fileNames (hrecords : ∀ c ∈ calls, c.Records directory)
    (hdistinct : (calls.map callId).Nodup) : (calls.map fileName).Nodup := by
  refine List.pairwise_map.mpr ?_
  have hpairs := List.pairwise_map.mp hdistinct
  refine List.Pairwise.imp_of_mem (fun hc hd hne hname => hne ?_) hpairs
  exact callId_eq_of_fileName (hrecords _ hc).stamped (hrecords _ hd).stamped hname

/-- Calls with journals, the one with the latest name first. -/
def latestFirst (calls : List (Attempt σ)) : List (Attempt σ) :=
  (calls.filter passes).mergeSort fun c d => decide (d.fileName ≤ c.fileName)

theorem latestFirst_perm (calls : List (Attempt σ)) : (latestFirst calls).Perm (calls.filter passes) :=
  List.mergeSort_perm _ _

theorem latestFirst_descends (hrecords : ∀ c ∈ calls, c.Records directory)
    (hdistinct : (calls.map callId).Nodup) :
    (latestFirst calls).Pairwise fun c d => d.fileName < c.fileName := by
  refine descends_mergeSort (List.Nodup.sublist ?_ (nodup_fileNames hrecords hdistinct))
  exact List.filter_sublist.map fileName

/-- **The journals that are found are those of the calls that could be made**, the latest first. -/
theorem journalPaths_after (hholds : FileTree.Holds (after directory tree calls) directory (journals calls)) :
    journalPaths (after directory tree calls) directory = (latestFirst calls).map (path directory) := by
  have hnames : (after directory tree calls).names (usualPath directory) =
      (calls.filter passes).map fileName := by
    rw [hholds.names]
    unfold journals
    rw [List.map_map]
    rfl
  have hall : ((calls.filter passes).map fileName).filter isJournalName =
      (calls.filter passes).map fileName := by
    refine List.filter_eq_self.mpr fun name hname => ?_
    obtain ⟨c, _, rfl⟩ := List.mem_map.mp hname
    exact isJournalName_fileName c
  have hsorted : ((calls.filter passes).map fileName).mergeSort (fun a b => decide (b ≤ a)) =
      (latestFirst calls).map fileName := by
    refine (@List.map_mergeSort _ _ (fun c d : Attempt σ => decide (d.fileName ≤ c.fileName))
      (fun a b => decide (b ≤ a)) fileName _ ?_).symm
    exact fun _ _ _ _ => rfl
  rw [journalPaths_of_reach hholds.reached, hnames, hall, hsorted, List.map_map]
  rfl

/-- A call is told by its journal in a tree and by a summary of that. -/
structure ToldBy (tree : FileTree) (directory : String) (c : Attempt σ) (s : Summary) : Prop where
  /-- Every line of the journal is loaded, in its order and with its number, and the entries come to the
  summary. -/
  loaded : ∃ w, c.outcome.journal = some w ∧
    load tree (c.path directory) = (.ok w.readBack, []) ∧
    w.readBack.map (·.getD lineField) = (List.range' 1 w.entries.length).map (fun n : Nat => .int n) ∧
    summary w.readBack = .ok s
  /-- The summary sums the call up. -/
  sumsUp : ∃ a entries, c.activity = some a ∧ c.entities.Gives entries ∧
    Resolver.SumsUp c.service c.resolver c.entities c.session a entries c.outcome.result s

/-- **A call whose journal is in a tree is told by it.** -/
theorem Records.exists_toldBy {c : Attempt σ} (h : c.Records directory) (hpasses : c.passes = true)
    (hreach : tree.reach (c.path directory) = .ok (.file c.bytes)) :
    ∃ s, ToldBy tree directory c s := by
  obtain ⟨a, entries, hactivity, hgives⟩ := passes_iff.mp hpasses
  obtain ⟨w, told, hjournal, _, hchronicle, hentries, hrecordable⟩ :=
    h.exists_journal hactivity ⟨entries, hgives⟩
  have hbytes : c.bytes = w.bytes := by
    unfold bytes
    rw [hjournal]
    rfl
  rw [hbytes] at hreach
  obtain ⟨s, hsummary, hsums⟩ := hchronicle.sumsUp _ _ hentries hgives
  exact ⟨s, ⟨w, hjournal, load_eq hreach hrecordable, w.numbers_readBack, hsummary⟩,
    a, entries, hactivity, hgives, hsums⟩

/-- The summary of a call says that it failed exactly if it did. -/
theorem ToldBy.failed_iff {c : Attempt σ} {s : Summary} (h : ToldBy tree directory c s) :
    s.status = .failed ↔ c.fails = true := by
  obtain ⟨a, entries, _, _, hsums⟩ := h.sumsUp
  rw [hsums.failed_iff, fails_iff]

/-- **The failures reported among calls that are told** are those of the calls that failed, in their
order. -/
theorem failedAmong_paths (htold : ∀ c ∈ calls, ∃ s, ToldBy tree directory c s) :
    ∃ reported, failedAmong tree (calls.map (path directory)) = (.ok reported, []) ∧
      List.Forall₂ (fun c entry => entry.1 = c.path directory ∧ ToldBy tree directory c entry.2)
        (calls.filter fails) reported := by
  induction calls with
  | nil => exact ⟨[], rfl, .nil⟩
  | cons c calls ih =>
    obtain ⟨⟨s, hc⟩, hcalls⟩ := List.forall_mem_cons.mp htold
    obtain ⟨reported, hreported, hmatch⟩ := ih hcalls
    obtain ⟨w, _, hload, _, hsummary⟩ := hc.loaded
    rw [List.map_cons, failedAmong_cons hload hsummary, hreported]
    cases hfails : c.fails with
    | false =>
      have hstatus : ¬ s.status = .failed := fun h =>
        Bool.false_ne_true (hfails.symm.trans (hc.failed_iff.mp h))
      rw [if_neg hstatus, List.filter_cons_of_neg (by rw [hfails]; decide)]
      exact ⟨reported, rfl, hmatch⟩
    | true =>
      rw [if_pos (hc.failed_iff.mpr hfails), List.filter_cons_of_pos hfails]
      exact ⟨_, rfl, .cons ⟨rfl, hc⟩ hmatch⟩

end Runs

/-! ## Greetings -/

/-- A greeting in a lobby that keeps journals. -/
def greeting (callId stamp : String) (activity : Option Activity) (entities : Value) : Attempt Unit where
  service := Resolver.greeter
  resolver := Resolver.attentive
  callId := callId
  stamp := stamp
  activity := activity
  entities := entities
  session := .start ()

/-- A greeting records if its journal can be started and holds the names of the guests. -/
theorem greeting_records {callId stamp : String} {activity : Option Activity} {entities : Value}
    (hpath : FileTree.checkNames (entryPath (usualPath "logs")
      ("00000000_000000" ++ "_" ++ callId ++ ".jsonl")) = .ok ())
    (hslash : callId.toList.contains '/' = false) (hstamp : IsStamp stamp)
    (hactivity : ∀ a, activity = some a → a = Resolver.greeted)
    (hstart : Entry.check ⟨callId, .text "app",
      Resolver.attentive.recordedStart entities (.activity Resolver.greeted)⟩ = .ok ())
    (hlist : Entry.check ⟨callId, .text "app",
      Resolver.recordedReferences Resolver.greeted.references⟩ = .ok ()) :
    (greeting callId stamp activity entities).Records "logs" where
  logged := rfl
  starts := ⟨_, Writer.startIn_of_checkNames (by decide +kernel) hpath hslash⟩
  stamped := hstamp
  goes := by
    intro m hstops
    cases activity with
    | none => cases hstops
    | some a =>
      cases hactivity a rfl
      have hstarted : Resolver.attentive.startJournal callId =
          .ok (some (.telling callId (.text "app") [])) :=
        bind_eq_ok.mpr ⟨_, Writer.startIn_of_checkNames (by decide +kernel) hpath hslash, rfl⟩
      exact Resolver.not_stopsAtJournal_of_checks hstarted hstart hlist m hstops

/-- A greeting, one of a guest without a wire form, and one of nobody. -/
def greetings : List (Attempt Unit) :=
  [greeting "a" "20240101_080000" (some Resolver.greeted) .null,
    greeting "b" "20240101_090000" (some Resolver.greeted) (.object [("guest", .list [])]),
    greeting "c" "20240101_100000" none .null]

/-- The greeting of nobody leaves no journal; the other two are told in the opposite order. -/
theorem latestFirst_greetings :
    latestFirst greetings =
      [greeting "b" "20240101_090000" (some Resolver.greeted) (.object [("guest", .list [])]),
        greeting "a" "20240101_080000" (some Resolver.greeted) .null] := by
  have hpasses : greetings.filter passes =
      [greeting "a" "20240101_080000" (some Resolver.greeted) .null,
        greeting "b" "20240101_090000" (some Resolver.greeted) (.object [("guest", .list [])])] := by
    unfold greetings
    rw [List.filter_cons_of_pos (by decide +kernel), List.filter_cons_of_pos (by decide +kernel),
      List.filter_cons_of_neg (by decide +kernel), List.filter_nil]
  unfold latestFirst
  rw [hpasses]
  have hlater : decide ((greeting "b" "20240101_090000" (some Resolver.greeted)
      (.object [("guest", .list [])])).fileName ≤
      (greeting "a" "20240101_080000" (some Resolver.greeted) .null).fileName) = false := by
    decide +kernel
  simp [List.mergeSort, List.MergeSort.Internal.splitInTwo, hlater]

/-- An empty directory for journals. -/
def emptyLogs : FileTree :=
  FileTree.add "logs" .directory []

/-- A greeting whose journal cannot hold its locale. -/
def datedGreeting : Attempt Unit :=
  { greeting "a" "20240101_080000" (some Resolver.greeted) .null with resolver := Resolver.dated }

/-- A greeting of someone who is told to stop. -/
def silencedGreeting : Attempt Unit :=
  { greeting "b" "20240101_090000" (some Resolver.greeted) .null with service := Resolver.silenced }

end Attempt

end Phrasing
