import Phrasing.Proofs.Archive
import Phrasing.Proofs.JournalLines

/-! # The report of failed calls

Where every line of every journal in a directory holds an object, each journal comes to a summary that
tells what the lines say (`Tells`), and exactly the journals with a failure are reported, in descending
order of their names (`Scanned`).  Three obstacles can come in between (`Obstacle`): a directory with the
name of a journal, an object too large for the JSON reader, and an entry whose resolutions have no length.
One of them anywhere is enough to lose the whole report, and the one under the last name comes out
(`failedCalls_scanned_iff`).
-/

namespace Phrasing

open Text

namespace Journal

open Json

/-! ## Events on lines -/

section Values

variable {v : Value} {s : String}

theorem scalar_same_text_iff {a : Scalar} : a.same (.text s) = true ↔ a = .text s := by
  cases a with
  | text t => exact beq_iff_eq
  | bool b => exact iff_of_false nofun nofun
  | int n => exact iff_of_false nofun nofun
  | float x => exact iff_of_false nofun nofun
  | _ => simp [Scalar.same, Scalar.asNumber?]

/-- Only a text equals a text. -/
theorem same_text_iff : v.same (.text s) = true ↔ v = .text s := by
  rw [Value.same.eq_def]
  cases v with
  | scalar a => exact scalar_same_text_iff.trans ⟨congrArg Value.scalar, Value.scalar.inj⟩
  | _ => exact iff_of_false nofun nofun

theorem sizeOf_cases (v : Value) :
    (∃ n, Event.sizeOf v = .ok n) ∨ Event.sizeOf v = .error (.noLength v.typeName) := by
  cases v with
  | scalar a =>
    cases a with
    | text s => exact .inl ⟨_, rfl⟩
    | bytes bs => exact .inl ⟨_, rfl⟩
    | _ => exact .inr rfl
  | record attributes => exact .inr rfl
  | _ => exact .inl ⟨_, rfl⟩

end Values

/-- A line holds an object that names an event. -/
def Marks (type : String) (line : List Char) : Prop :=
  ∃ es, parseChars line = .ok (.mapping es) ∧ (Value.mapping es).get? "event" = some (.text type)

/-- The first of some lines that names an event, and the object on it. -/
def First (type : String) (written : List (List Char × Nat)) (es : List (Scalar × Value)) : Prop :=
  ∃ before l after, written = before ++ l :: after ∧ (∀ b ∈ before, ¬ Marks type b.1) ∧
    parseChars l.1 = .ok (.mapping es) ∧ (Value.mapping es).get? "event" = some (.text type)

/-- A line and the entry that its object makes. -/
inductive Enters : List Char × Nat → Value → Prop where
  | entry {line : List Char} {n : Nat} {es : List (Scalar × Value)}
    (parsed : parseChars line = .ok (.mapping es)) :
    Enters (line, n) (.mapping (Entries.put (.text lineField) (.int n) es))

section Events

variable {type path : String} {l : List Char × Nat} {e : Value} {es : List (Scalar × Value)}
  {written : List (List Char × Nat)} {events : List Value}

/-- Lines without an event, or a first line with it. -/
theorem none_or_first (type : String) (written : List (List Char × Nat)) :
    (∀ l ∈ written, ¬ Marks type l.1) ∨ ∃ es, First type written es := by
  rcases forall_or_first (fun l => ¬ Marks type l.1) written with
    hnone | ⟨before, l, after, hwritten, hbefore, hl⟩
  · exact .inl hnone
  · obtain ⟨es, hparsed, hevent⟩ := not_not.mp hl
    exact .inr ⟨es, before, l, after, hwritten, hbefore, hparsed, hevent⟩

theorem First.exists_marks (h : First type written es) : ∃ l ∈ written, Marks type l.1 := by
  obtain ⟨before, l, after, rfl, _, hparsed, hevent⟩ := h
  exact ⟨l, List.mem_append_right before List.mem_cons_self, es, hparsed, hevent⟩

/-- An entry has the fields of the object on its line. -/
theorem Enters.get?_eq (h : Enters l e) (hparsed : parseChars l.1 = .ok (.mapping es)) {key : String}
    (hkey : key ≠ lineField) : e.get? key = (Value.mapping es).get? key := by
  cases h with
  | entry parsed =>
    cases parsed.symm.trans hparsed
    exact (carries_put _ _).own key hkey

theorem Enters.yields (h : Enters l e) : Yields path l (.inl e) := by
  cases h with
  | entry parsed => exact .entry parsed

/-- An entry is of a kind of event exactly if its line names the event. -/
theorem Enters.same_iff (h : Enters l e) : (e.getD "event").same (.text type) = true ↔ Marks type l.1 := by
  obtain ⟨es, hparsed⟩ : ∃ es, parseChars l.1 = .ok (.mapping es) := by
    cases h with
    | entry parsed => exact ⟨_, parsed⟩
  have hevent : e.get? "event" = (Value.mapping es).get? "event" := h.get?_eq hparsed (by decide)
  rw [same_text_iff, Value.getD, hevent]
  constructor
  · intro htext
    refine ⟨es, hparsed, ?_⟩
    cases hfound : (Value.mapping es).get? "event" with
    | none =>
      rw [hfound] at htext
      cases htext
    | some v =>
      rw [hfound] at htext
      exact congrArg some htext
  · rintro ⟨es', hparsed', htext⟩
    cases hparsed.symm.trans hparsed'
    rw [htext]
    rfl

theorem Enters.ofType_cons_of_marks (h : Enters l e) (hmarks : Marks type l.1) (events : List Value) :
    ofType (.text type) (e :: events) = e :: ofType (.text type) events :=
  List.filter_cons_of_pos (h.same_iff.mpr hmarks)

theorem Enters.ofType_cons_of_not (h : Enters l e) (hmarks : ¬ Marks type l.1) (events : List Value) :
    ofType (.text type) (e :: events) = ofType (.text type) events :=
  List.filter_cons_of_neg fun hsame => hmarks (h.same_iff.mp hsame)

theorem ofType_eq_nil (h : List.Forall₂ Enters written events) (hnone : ∀ l ∈ written, ¬ Marks type l.1) :
    ofType (.text type) events = [] := by
  induction h with
  | nil => rfl
  | cons hl _ ih =>
    obtain ⟨hhead, htail⟩ := List.forall_mem_cons.mp hnone
    rw [hl.ofType_cons_of_not hhead]
    exact ih htail

/-- **The entries of a kind of event start with the first line that names it.** -/
theorem ofType_of_first (h : List.Forall₂ Enters written events) (hfirst : First type written es) :
    ∃ e rest, ofType (.text type) events = e :: rest ∧
      ∀ key, key ≠ lineField → e.get? key = (Value.mapping es).get? key := by
  obtain ⟨before, l, after, rfl, hbefore, hparsed, hevent⟩ := hfirst
  induction before generalizing events with
  | nil =>
    cases h with
    | @cons _ e _ events hl _ =>
      have hmarks : Marks type l.1 := ⟨es, hparsed, hevent⟩
      refine ⟨e, ofType (.text type) events, ?_, fun key hkey => hl.get?_eq hparsed hkey⟩
      exact hl.ofType_cons_of_marks hmarks events
  | cons b before ih =>
    obtain ⟨hb, hbefore⟩ := List.forall_mem_cons.mp hbefore
    cases h with
    | cons hl h =>
      rw [hl.ofType_cons_of_not hb]
      exact ih h hbefore

end Events

/-! ## Summaries -/

/-- **What a summary tells of a text** whose lines hold objects. -/
structure Tells (content : String) (s : Summary) : Prop where
  /-- Every line that is not blank counts. -/
  total : s.totalEvents = (writtenLines content.toList).length
  failed_iff : s.status = .failed ↔ ∃ l ∈ writtenLines content.toList, Marks "resolve.failed" l.1
  success_iff : s.status = .success ↔ (¬ ∃ l ∈ writtenLines content.toList, Marks "resolve.failed" l.1) ∧
    ∃ l ∈ writtenLines content.toList, Marks "resolve.completed" l.1
  /-- The failure is that of the first line that names one. -/
  failure : ∀ es, First "resolve.failed" (writtenLines content.toList) es →
    s.failureValue = .object (failureFields.map fun name => (name, (Value.mapping es).getD name))

/-- The resolutions on the first line that names them have no length. -/
def Unsized (content : String) (v : Value) : Prop :=
  ∃ es, First "fetch.completed" (writtenLines content.toList) es ∧
    (Value.mapping es).get? "resolutions" = some v ∧ Event.sizeOf v = .error (.noLength v.typeName)

section Sums

variable {content : String} {events : List Value} {v : Value}

theorem resolutions_eq_of_first {es : List (Scalar × Value)} {written : List (List Char × Nat)}
    (h : List.Forall₂ Enters written events) (hfirst : First "fetch.completed" written es) :
    resolutions events = ((Value.mapping es).get? "resolutions").getD (.mapping []) := by
  obtain ⟨e, rest, htype, hfields⟩ := ofType_of_first h hfirst
  rw [resolutions, firstField, htype]
  exact congrArg (Option.getD · _) (hfields "resolutions" (by decide))

/-- Resolutions without a length leave no summary. -/
theorem summary_of_unsized (h : List.Forall₂ Enters (writtenLines content.toList) events)
    (hunsized : Unsized content v) : summary events = .error (.noLength v.typeName) := by
  obtain ⟨es, hfirst, hfield, hsize⟩ := hunsized
  rw [summary, resolutions_eq_of_first h hfirst, hfield, Option.getD_some, hsize]
  rfl

theorem exists_sizeOf (h : List.Forall₂ Enters (writtenLines content.toList) events)
    (hsized : ¬ ∃ v, Unsized content v) : ∃ count, Event.sizeOf (resolutions events) = .ok count := by
  rcases none_or_first "fetch.completed" (writtenLines content.toList) with hnone | ⟨es, hfirst⟩
  · rw [resolutions, firstField, ofType_eq_nil h hnone]
    exact ⟨0, rfl⟩
  · rw [resolutions_eq_of_first h hfirst]
    cases hfield : (Value.mapping es).get? "resolutions" with
    | none => exact ⟨0, rfl⟩
    | some v =>
      rcases sizeOf_cases v with hsize | hno
      · exact hsize
      · exact absurd ⟨v, es, hfirst, hfield, hno⟩ hsized

theorem isSome_failure?_iff (h : List.Forall₂ Enters (writtenLines content.toList) events) :
    (failure? events).isSome = true ↔ ∃ l ∈ writtenLines content.toList, Marks "resolve.failed" l.1 := by
  rcases none_or_first "resolve.failed" (writtenLines content.toList) with hnone | ⟨es, hfirst⟩
  · rw [failure?, ofType_eq_nil h hnone]
    exact iff_of_false nofun fun ⟨l, hl, hmarks⟩ => hnone l hl hmarks
  · obtain ⟨e, rest, htype, _⟩ := ofType_of_first h hfirst
    rw [failure?, htype]
    exact iff_of_true rfl hfirst.exists_marks

theorem isEmpty_completed_iff (h : List.Forall₂ Enters (writtenLines content.toList) events) :
    (ofType (.text "resolve.completed") events).isEmpty = true ↔
      ¬ ∃ l ∈ writtenLines content.toList, Marks "resolve.completed" l.1 := by
  rcases none_or_first "resolve.completed" (writtenLines content.toList) with hnone | ⟨es, hfirst⟩
  · rw [ofType_eq_nil h hnone]
    exact iff_of_true rfl fun ⟨l, hl, hmarks⟩ => hnone l hl hmarks
  · obtain ⟨e, rest, htype, _⟩ := ofType_of_first h hfirst
    rw [htype]
    exact iff_of_false nofun fun hno => hno hfirst.exists_marks

/-- The failure in a summary has the fields of the first line that names one. -/
theorem failureValue_of_first {es : List (Scalar × Value)} {s : Summary}
    (h : List.Forall₂ Enters (writtenLines content.toList) events) (hs : s.failure = failure? events)
    (hfirst : First "resolve.failed" (writtenLines content.toList) es) :
    s.failureValue = .object (failureFields.map fun name => (name, (Value.mapping es).getD name)) := by
  obtain ⟨e, rest, htype, hfields⟩ := ofType_of_first h hfirst
  have hfailure : s.failure = some e := by
    rw [hs, failure?, htype]
    rfl
  have hne : ∀ name ∈ failureFields, name ≠ lineField := by decide
  rw [Summary.failureValue, hfailure]
  refine congrArg Value.object (List.map_congr_left fun name hname => ?_)
  rw [Value.getD, hfields name (hne name hname), Value.getD]

/-- **A text whose lines hold objects is summed up**, unless its resolutions have no length. -/
theorem exists_tells (h : List.Forall₂ Enters (writtenLines content.toList) events)
    (hsized : ¬ ∃ v, Unsized content v) : ∃ s, summary events = .ok s ∧ Tells content s := by
  obtain ⟨count, hcount⟩ := exists_sizeOf h hsized
  obtain ⟨s, hsummary, htotal, hstatus, hfailure⟩ : ∃ s, summary events = .ok s ∧
      s.totalEvents = events.length ∧ s.status = status events ∧ s.failure = failure? events := by
    rw [summary, hcount]
    exact ⟨_, rfl, rfl, rfl, rfl⟩
  have hfailed := isSome_failure?_iff h
  have hcompleted := isEmpty_completed_iff h
  refine ⟨s, hsummary, htotal.trans h.length_eq.symm, ?_, ?_, fun es => failureValue_of_first h hfailure⟩
  · rw [hstatus, ← hfailed, status]
    split
    · rename_i hsome
      exact iff_of_true rfl hsome
    · rename_i hnone
      split
      · exact iff_of_false (fun h => by cases h) hnone
      · exact iff_of_false (fun h => by cases h) hnone
  · rw [hstatus, ← hfailed, ← not_iff_not.mpr hcompleted |>.trans not_not, status]
    split
    · rename_i hsome
      exact iff_of_false (fun h => by cases h) fun hno => hno.1 hsome
    · rename_i hnone
      split
      · rename_i hempty
        exact iff_of_false (fun h => by cases h) fun hno => hno.2 hempty
      · rename_i hmore
        exact iff_of_true rfl ⟨hnone, hmore⟩

end Sums

/-! ## Journals -/

/-- An object on a line is too large for the JSON reader. -/
def Exceeds (line : List Char) (m : Mishap) : Prop :=
  parseChars line = .error m ∧ Excess m

/-- Every line of a text that is not blank holds an object, or one that is too large. -/
def Orderly (content : String) : Prop :=
  ∀ l ∈ writtenLines content.toList, (∃ es, parseChars l.1 = .ok (.mapping es)) ∨ ∃ m, Exceeds l.1 m

/-- What stands in the way of a report at a path with the name of a journal, and the mishap that comes of
it. -/
inductive Obstacle (path : String) : FileNode → Mishap → Prop where
  /-- A directory cannot be read. -/
  | directory : Obstacle path .directory (.isDirectory path)
  /-- An object is too large, and no line before it is. -/
  | excess {content : String} {before : List (List Char × Nat)} {l : List Char × Nat}
    {after : List (List Char × Nat)} {m : Mishap} (hlines : writtenLines content.toList = before ++ l :: after)
    (hbefore : ∀ b ∈ before, ¬ ∃ m, Exceeds b.1 m) (hexceeds : Exceeds l.1 m) :
    Obstacle path (.file (utf8Bytes content)) m
  /-- No object is too large, but the resolutions have no length. -/
  | unsized {content : String} {v : Value} (hwhole : ¬ ∃ l ∈ writtenLines content.toList, ∃ m, Exceeds l.1 m)
    (hunsized : Unsized content v) : Obstacle path (.file (utf8Bytes content)) (.noLength v.typeName)

/-- The journal at a path is loaded without a warning and comes to a summary. -/
def SumsTo (tree : FileTree) (path : String) (s : Summary) : Prop :=
  ∃ events, load tree path = (.ok events, []) ∧ summary events = .ok s

/-- The journal at a path comes to a mishap instead of a summary. -/
def BreaksOff (tree : FileTree) (path : String) (m : Mishap) : Prop :=
  ∃ read, load tree path = (read, []) ∧ read.bind summary = .error m

section Files

variable {tree : FileTree} {path content : String} {node : FileNode} {m : Mishap}
  {written : List (List Char × Nat)} {events : List Value}

/-- Lines that hold objects make entries and no warnings. -/
theorem exists_enters (hobjects : ∀ l ∈ written, ∃ es, parseChars l.1 = .ok (.mapping es)) :
    ∃ events, List.Forall₂ Enters written events := by
  refine exists_forall₂ fun l hl => ?_
  obtain ⟨es, hes⟩ := hobjects l hl
  exact ⟨_, .entry hes⟩

theorem yields_of_enters (path : String) (h : List.Forall₂ Enters written events) :
    List.Forall₂ (Yields path) written (events.map .inl) := by
  induction h with
  | nil => exact .nil
  | cons hl _ ih => exact .cons hl.yields ih

theorem entriesAmong_map_inl (events : List Value) : entriesAmong (events.map .inl) = events := by
  induction events with
  | nil => rfl
  | cons e events ih => exact congrArg (e :: ·) ih

theorem warningsAmong_map_inl (events : List Value) : warningsAmong (events.map .inl) = [] := by
  induction events with
  | nil => rfl
  | cons e events ih => exact ih

/-- What stands before the first object that is too large holds objects. -/
theorem Orderly.objects {before : List (List Char × Nat)} (h : Orderly content)
    (hsub : before ⊆ writtenLines content.toList) (hbefore : ∀ b ∈ before, ¬ ∃ m, Exceeds b.1 m) :
    ∀ b ∈ before, ∃ es, parseChars b.1 = .ok (.mapping es) :=
  fun b hb => (h b (hsub hb)).resolve_right (hbefore b hb)

/-- A journal whose lines hold objects is loaded with an entry for each. -/
theorem load_of_enters (hreach : tree.reach path = .ok (.file (utf8Bytes content)))
    (h : List.Forall₂ Enters (writtenLines content.toList) events) :
    load tree path = (.ok events, []) := by
  rw [load_of_reach hreach, readLines_of_yields (yields_of_enters path h), entriesAmong_map_inl,
    warningsAmong_map_inl]

/-- **A journal comes to a summary that tells what its lines say**, unless there is an obstacle. -/
theorem sumsTo_or_obstacle (hreach : tree.reach path = .ok node)
    (horderly : ∀ bytes, node = .file bytes → ∃ content, bytes = utf8Bytes content ∧ Orderly content) :
    (∃ content s, node = .file (utf8Bytes content) ∧ SumsTo tree path s ∧ Tells content s) ∨
      ∃ m, Obstacle path node m := by
  cases node with
  | directory => exact .inr ⟨_, .directory⟩
  | file bytes =>
    obtain ⟨content, rfl, hcontent⟩ := horderly bytes rfl
    rcases forall_or_first (fun l => ¬ ∃ m, Exceeds l.1 m) (writtenLines content.toList) with
      hwhole | ⟨before, l, after, hlines, hbefore, hexceeds⟩
    · obtain ⟨events, hevents⟩ := exists_enters (hcontent.objects (List.Subset.refl _) hwhole)
      by_cases hunsized : ∃ v, Unsized content v
      · obtain ⟨v, hv⟩ := hunsized
        exact .inr ⟨_, .unsized (fun ⟨l, hl, hm⟩ => hwhole l hl hm) hv⟩
      · obtain ⟨s, hs, htells⟩ := exists_tells hevents hunsized
        exact .inl ⟨content, s, rfl, ⟨events, load_of_enters hreach hevents, hs⟩, htells⟩
    · obtain ⟨m, hm⟩ := not_not.mp hexceeds
      exact .inr ⟨m, .excess hlines hbefore hm⟩

/-- **An obstacle comes out as its mishap**, without a warning. -/
theorem Obstacle.breaksOff (h : Obstacle path node m) (hreach : tree.reach path = .ok node)
    (horderly : ∀ bytes, node = .file bytes → ∃ content, bytes = utf8Bytes content ∧ Orderly content) :
    BreaksOff tree path m := by
  cases h with
  | directory =>
    refine ⟨.error (.isDirectory path), ?_, rfl⟩
    rw [load, hreach]
    dsimp only
    rw [FileTree.readLines, FileTree.readBytes, hreach]
    rfl
  | @excess content before l after m hlines hbefore hexceeds =>
    obtain ⟨content', hbytes, horderly⟩ := horderly _ rfl
    cases utf8Bytes_injective hbytes
    obtain ⟨events, hevents⟩ := exists_enters (horderly.objects (hlines ▸ List.subset_append_left _ _) hbefore)
    refine ⟨.error m, ?_, rfl⟩
    rw [load_of_reach hreach, readLines_of_stops hlines (yields_of_enters path hevents)
      (.excess hexceeds.1 hexceeds.2), warningsAmong_map_inl]
  | @unsized content v hwhole hunsized =>
    obtain ⟨content', hbytes, horderly⟩ := horderly _ rfl
    cases utf8Bytes_injective hbytes
    obtain ⟨events, hevents⟩ := exists_enters (horderly.objects (List.Subset.refl _)
      fun l hl hm => hwhole ⟨l, hl, hm⟩)
    exact ⟨.ok events, load_of_enters hreach hevents, summary_of_unsized hevents hunsized⟩

end Files

/-! ## Paths -/

section Paths

variable {tree : FileTree} {path : String → String} {names : List String} {m : Mishap}

theorem failedAmong_of_breaksOff {first : String} (h : BreaksOff tree first m) (rest : List String) :
    failedAmong tree (first :: rest) = (.error m, []) := by
  obtain ⟨read, hload, hread⟩ := h
  rw [failedAmong, hload]
  dsimp only
  rw [hread]

/-- **Where every journal comes to a summary, those that tell a failure are reported**, in their order. -/
theorem failedAmong_of_sumsTo {fails : String → Prop} {tells : String → Summary → Prop}
    (h : ∀ name ∈ names, ∃ s, SumsTo tree (path name) s ∧ (s.status = .failed ↔ fails name) ∧
      tells name s) :
    ∃ failing reported, failing.Sublist names ∧ (∀ name, name ∈ failing ↔ name ∈ names ∧ fails name) ∧
      failedAmong tree (names.map path) = (.ok reported, []) ∧
      List.Forall₂ (fun name item => item.1 = path name ∧ item.2.status = .failed ∧ tells name item.2)
        failing reported := by
  induction names with
  | nil => exact ⟨[], [], .slnil, fun name => by simp, rfl, .nil⟩
  | cons name names ih =>
    obtain ⟨⟨s, ⟨events, hload, hsummary⟩, hstatus, htells⟩, hnames⟩ := List.forall_mem_cons.mp h
    obtain ⟨failing, reported, hsub, hmem, hreported, hmatch⟩ := ih hnames
    rw [List.map_cons, failedAmong_cons hload hsummary, hreported]
    by_cases hfailed : s.status = .failed
    · rw [if_pos hfailed]
      refine ⟨name :: failing, _, hsub.cons_cons name, fun other => ?_, rfl, .cons ⟨rfl, hfailed, htells⟩ hmatch⟩
      rw [List.mem_cons, List.mem_cons, hmem]
      constructor
      · rintro (rfl | ⟨hother, hfails⟩)
        · exact ⟨.inl rfl, hstatus.mp hfailed⟩
        · exact ⟨.inr hother, hfails⟩
      · rintro ⟨rfl | hother, hfails⟩
        · exact .inl rfl
        · exact .inr ⟨hother, hfails⟩
    · rw [if_neg hfailed]
      refine ⟨failing, reported, hsub.cons name, fun other => ?_, rfl, hmatch⟩
      rw [List.mem_cons, hmem]
      constructor
      · rintro ⟨hother, hfails⟩
        exact ⟨.inr hother, hfails⟩
      · rintro ⟨rfl | hother, hfails⟩
        · exact absurd (hstatus.mpr hfails) hfailed
        · exact ⟨hother, hfails⟩

/-- **The first journal that breaks off decides**, whatever those before it tell. -/
theorem failedAmong_append_of_breaksOff {before : List String} {name : String} (after : List String)
    (hbefore : ∀ b ∈ before, ∃ s, SumsTo tree (path b) s) (h : BreaksOff tree (path name) m) :
    failedAmong tree ((before ++ name :: after).map path) = (.error m, []) := by
  induction before with
  | nil => exact failedAmong_of_breaksOff h _
  | cons b before ih =>
    obtain ⟨⟨s, events, hload, hsummary⟩, hbefore⟩ := List.forall_mem_cons.mp hbefore
    rw [List.cons_append, List.map_cons, failedAmong_cons hload hsummary, ih hbefore]
    split
    · rfl
    · rfl

end Paths

/-! ## Directories -/

/-- The path of an entry of a directory. -/
def pathIn (directory name : String) : String :=
  entryPath (usualPath directory) name

/-- A directory can be reached and lists these entries, each under its name. -/
structure Lists (tree : FileTree) (directory : String) (entries : List (String × FileNode)) : Prop where
  reached : tree.reach (usualPath directory) = .ok .directory
  names : tree.names (usualPath directory) = entries.map Prod.fst
  distinct : (entries.map Prod.fst).Nodup
  found : ∀ name node, (name, node) ∈ entries → tree.reach (pathIn directory name) = .ok node

theorem lists_iff {tree : FileTree} {directory : String} {entries : List (String × FileNode)} :
    Lists tree directory entries ↔ tree.reach (usualPath directory) = .ok .directory ∧
      tree.names (usualPath directory) = entries.map Prod.fst ∧ (entries.map Prod.fst).Nodup ∧
      ∀ e ∈ entries, tree.reach (pathIn directory e.1) = .ok e.2 := by
  constructor
  · exact fun h => ⟨h.reached, h.names, h.distinct, fun e he => h.found e.1 e.2 he⟩
  · rintro ⟨hreached, hnames, hdistinct, hfound⟩
    exact ⟨hreached, hnames, hdistinct, fun name node hentry => hfound (name, node) hentry⟩

instance (tree : FileTree) (directory : String) (entries : List (String × FileNode)) :
    Decidable (Lists tree directory entries) :=
  decidable_of_iff _ lists_iff.symm

/-- A line of a text names a failure. -/
def Fails (content : String) : Prop :=
  ∃ l ∈ writtenLines content.toList, Marks "resolve.failed" l.1

/-- **The calls in a directory are reported** as the lines of its journals tell them. -/
structure Scanned (tree : FileTree) (directory : String) (entries : List (String × FileNode)) : Prop where
  /-- Every journal that is a file comes to a summary. -/
  sums : ∀ name bytes, (name, FileNode.file bytes) ∈ entries → isJournalName name = true →
    ∃ content s, bytes = utf8Bytes content ∧ SumsTo tree (pathIn directory name) s ∧ Tells content s
  /-- Those with a failure are reported, in descending order, and nothing else is. -/
  reports : ∃ failing reported, failing.Pairwise (fun a b => b < a) ∧
    (∀ name, name ∈ failing ↔ isJournalName name = true ∧
      ∃ content, (name, FileNode.file (utf8Bytes content)) ∈ entries ∧ Fails content) ∧
    failedCalls tree directory = (.ok reported, []) ∧
    List.Forall₂ (fun name item => item.1 = pathIn directory name ∧ item.2.status = .failed ∧
      ∃ content, (name, FileNode.file (utf8Bytes content)) ∈ entries ∧ Tells content item.2) failing reported

/-- Every journal in a directory that is a file holds an orderly text. -/
def AllOrderly (entries : List (String × FileNode)) : Prop :=
  ∀ name bytes, (name, FileNode.file bytes) ∈ entries → isJournalName name = true →
    ∃ content, bytes = utf8Bytes content ∧ Orderly content

section Directories

variable {tree : FileTree} {directory name : String} {entries : List (String × FileNode)}
  {node other : FileNode} {m : Mishap}

/-- The names of the journals in a directory, in descending order. -/
def journalNames (entries : List (String × FileNode)) : List String :=
  ((entries.map Prod.fst).filter isJournalName).mergeSort fun a b => decide (b ≤ a)

theorem mem_journalNames_iff :
    name ∈ journalNames entries ↔ isJournalName name = true ∧ ∃ node, (name, node) ∈ entries := by
  rw [journalNames, (List.mergeSort_perm _ _).mem_iff, List.mem_filter, List.mem_map, and_comm]
  constructor
  · rintro ⟨hname, ⟨name, node⟩, hentry, rfl⟩
    exact ⟨hname, node, hentry⟩
  · rintro ⟨hname, node, hentry⟩
    exact ⟨hname, ⟨name, node⟩, hentry, rfl⟩

theorem Lists.journalPaths_eq (h : Lists tree directory entries) :
    journalPaths tree directory = (journalNames entries).map (pathIn directory) := by
  rw [journalPaths_of_reach h.reached, h.names]
  rfl

theorem Lists.descends (h : Lists tree directory entries) :
    (journalNames entries).Pairwise fun a b => b < a := by
  have hdistinct : (((entries.map Prod.fst).filter isJournalName).map id).Nodup := by
    rw [List.map_id]
    exact List.Nodup.sublist List.filter_sublist h.distinct
  exact descends_mergeSort hdistinct

/-- A name stands for one entry. -/
theorem Lists.unique (h : Lists tree directory entries) (hnode : (name, node) ∈ entries)
    (hother : (name, other) ∈ entries) : node = other := by
  exact Except.ok.inj ((h.found name node hnode).symm.trans (h.found name other hother))

theorem AllOrderly.of_mem (h : AllOrderly entries) (hentry : (name, node) ∈ entries)
    (hname : isJournalName name = true) :
    ∀ bytes, node = .file bytes → ∃ content, bytes = utf8Bytes content ∧ Orderly content := by
  rintro bytes rfl
  exact h name bytes hentry hname

/-- An entry with the name of a journal comes to a summary or has an obstacle. -/
theorem Lists.sumsTo_or_obstacle (h : Lists tree directory entries) (horderly : AllOrderly entries)
    (hentry : (name, node) ∈ entries) (hname : isJournalName name = true) :
    (∃ content s, node = .file (utf8Bytes content) ∧ SumsTo tree (pathIn directory name) s ∧
        Tells content s) ∨ ∃ m, Obstacle (pathIn directory name) node m :=
  Journal.sumsTo_or_obstacle (h.found name node hentry) (horderly.of_mem hentry hname)

/-- **Without an obstacle the calls are reported.** -/
theorem scanned_of_no_obstacle (h : Lists tree directory entries) (horderly : AllOrderly entries)
    (hnone : ¬ ∃ name node m, (name, node) ∈ entries ∧ isJournalName name = true ∧
      Obstacle (pathIn directory name) node m) : Scanned tree directory entries := by
  have hsums : ∀ name node, (name, node) ∈ entries → isJournalName name = true →
      ∃ content s, node = .file (utf8Bytes content) ∧ SumsTo tree (pathIn directory name) s ∧
        Tells content s := by
    intro name node hentry hname
    refine (h.sumsTo_or_obstacle horderly hentry hname).resolve_right ?_
    rintro ⟨m, hm⟩
    exact hnone ⟨name, node, m, hentry, hname, hm⟩
  constructor
  · intro name bytes hentry hname
    obtain ⟨content, s, hfile, hs, htells⟩ := hsums name _ hentry hname
    exact ⟨content, s, FileNode.file.inj hfile, hs, htells⟩
  · have hjournals : ∀ name ∈ journalNames entries, ∃ s, SumsTo tree (pathIn directory name) s ∧
        (s.status = .failed ↔ ∃ content, (name, FileNode.file (utf8Bytes content)) ∈ entries ∧ Fails content) ∧
        ∃ content, (name, FileNode.file (utf8Bytes content)) ∈ entries ∧ Tells content s := by
      intro name hname
      obtain ⟨hjournal, node, hentry⟩ := mem_journalNames_iff.mp hname
      obtain ⟨content, s, rfl, hs, htells⟩ := hsums name node hentry hjournal
      refine ⟨s, hs, ?_, content, hentry, htells⟩
      rw [htells.failed_iff]
      constructor
      · exact fun hfails => ⟨content, hentry, hfails⟩
      · rintro ⟨content', hentry', hfails⟩
        rw [utf8Bytes_injective (FileNode.file.inj (h.unique hentry hentry'))]
        exact hfails
    obtain ⟨failing, reported, hsub, hmem, hreported, hmatch⟩ := failedAmong_of_sumsTo hjournals
    refine ⟨failing, reported, h.descends.sublist hsub, fun name => ?_, ?_, hmatch⟩
    · rw [hmem, mem_journalNames_iff]
      constructor
      · rintro ⟨⟨hjournal, _⟩, hfails⟩
        exact ⟨hjournal, hfails⟩
      · rintro ⟨hjournal, content, hentry, hfails⟩
        exact ⟨⟨hjournal, _, hentry⟩, content, hentry, hfails⟩
    · rw [failedCalls, h.journalPaths_eq]
      exact hreported

/-- **The obstacle under the last name comes out** in the place of a report. -/
theorem failedCalls_of_last (h : Lists tree directory entries) (horderly : AllOrderly entries)
    (hentry : (name, node) ∈ entries) (hname : isJournalName name = true)
    (hobstacle : Obstacle (pathIn directory name) node m)
    (hlast : ∀ later other, (later, other) ∈ entries → isJournalName later = true → name < later →
      ¬ ∃ m', Obstacle (pathIn directory later) other m') :
    failedCalls tree directory = (.error m, []) := by
  obtain ⟨before, after, hnames⟩ := List.append_of_mem (mem_journalNames_iff.mpr ⟨hname, node, hentry⟩)
  have hdescends := h.descends
  rw [failedCalls, h.journalPaths_eq]
  rw [hnames] at hdescends ⊢
  refine failedAmong_append_of_breaksOff after (fun b hb => ?_)
    (hobstacle.breaksOff (h.found name node hentry) (horderly.of_mem hentry hname))
  have hlater : name < b := (List.pairwise_append.mp hdescends).2.2 b hb name List.mem_cons_self
  have hmem : b ∈ journalNames entries := by
    rw [hnames]
    exact List.mem_append_left _ hb
  obtain ⟨hjournal, other, hother⟩ := mem_journalNames_iff.mp hmem
  obtain ⟨_, s, _, hs, _⟩ :=
    (h.sumsTo_or_obstacle horderly hother hjournal).resolve_right (hlast b other hother hjournal hlater)
  exact ⟨s, hs⟩

/-- An obstacle anywhere is enough to lose the report. -/
theorem exists_error_of_obstacle (h : Lists tree directory entries) (horderly : AllOrderly entries)
    (hentry : (name, node) ∈ entries) (hname : isJournalName name = true)
    (hobstacle : Obstacle (pathIn directory name) node m) :
    ∃ m', failedCalls tree directory = (.error m', []) := by
  rcases forall_or_first (fun name => ∃ s, SumsTo tree (pathIn directory name) s) (journalNames entries) with
    hall | ⟨before, b, after, hnames, hbefore, hb⟩
  · obtain ⟨s, events, hload, hsummary⟩ := hall name (mem_journalNames_iff.mpr ⟨hname, node, hentry⟩)
    obtain ⟨read, hread, hbreaks⟩ := hobstacle.breaksOff (h.found name node hentry) (horderly.of_mem hentry hname)
    cases (congrArg Prod.fst (hload.symm.trans hread) : Except.ok events = read)
    cases hsummary.symm.trans hbreaks
  · have hmem : b ∈ journalNames entries := by
      rw [hnames]
      exact List.mem_append_right before List.mem_cons_self
    obtain ⟨hjournal, other, hother⟩ := mem_journalNames_iff.mp hmem
    rcases h.sumsTo_or_obstacle horderly hother hjournal with ⟨_, s, _, hs, _⟩ | ⟨m', hm'⟩
    · exact absurd ⟨s, hs⟩ hb
    · refine ⟨m', ?_⟩
      rw [failedCalls, h.journalPaths_eq, hnames]
      exact failedAmong_append_of_breaksOff after hbefore
        (hm'.breaksOff (h.found b other hother) (horderly.of_mem hother hjournal))

/-- **The calls in a directory are reported exactly if there is no obstacle.**  Otherwise the obstacle under
the last name comes out and nothing is reported. -/
theorem failedCalls_scanned_iff (h : Lists tree directory entries) (horderly : AllOrderly entries) :
    (Scanned tree directory entries ↔
        ¬ ∃ name node m, (name, node) ∈ entries ∧ isJournalName name = true ∧
          Obstacle (pathIn directory name) node m) ∧
      ∀ name node m, (name, node) ∈ entries → isJournalName name = true →
        Obstacle (pathIn directory name) node m →
        (∀ later other, (later, other) ∈ entries → isJournalName later = true → name < later →
          ¬ ∃ m', Obstacle (pathIn directory later) other m') →
        failedCalls tree directory = (.error m, []) := by
  refine ⟨⟨?_, scanned_of_no_obstacle h horderly⟩, fun name node m => failedCalls_of_last h horderly⟩
  rintro ⟨_, failing, reported, _, _, hreported, _⟩ ⟨name, node, m, hentry, hname, hobstacle⟩
  obtain ⟨m', hm'⟩ := exists_error_of_obstacle h horderly hentry hname hobstacle
  cases hreported.symm.trans hm'

end Directories

/-! ## A desk -/

section Desk

variable {content path : String} {line : List Char} {es : List (Scalar × Value)}

theorem objects_of_single (hlines : writtenLines content.toList = [(line, 1)])
    (hparsed : parseChars line = .ok (.mapping es)) :
    ∀ l ∈ writtenLines content.toList, ∃ es, parseChars l.1 = .ok (.mapping es) := by
  rw [hlines]
  intro l hl
  rw [List.mem_singleton.mp hl]
  exact ⟨es, hparsed⟩

/-- A journal of one entry that names no resolutions is no obstacle. -/
theorem not_obstacle_of_single (hlines : writtenLines content.toList = [(line, 1)])
    (hparsed : parseChars line = .ok (.mapping es))
    {type : String} (hevent : (Value.mapping es).get? "event" = some (.text type))
    (hother : type ≠ "fetch.completed") :
    ¬ ∃ m, Obstacle path (.file (utf8Bytes content)) m := by
  have hobjects := objects_of_single hlines hparsed
  rintro ⟨m, hm⟩
  generalize hnode : FileNode.file (utf8Bytes content) = node at hm
  cases hm with
  | directory => cases hnode
  | @excess content' before l after m hlines' _ hexceeds =>
    cases utf8Bytes_injective (FileNode.file.inj hnode)
    obtain ⟨es', hes⟩ := hobjects l (hlines' ▸ List.mem_append_right before List.mem_cons_self)
    cases hes.symm.trans hexceeds.1
  | @unsized content' v _ hunsized =>
    cases utf8Bytes_injective (FileNode.file.inj hnode)
    obtain ⟨es', hfirst, _⟩ := hunsized
    obtain ⟨l, hl, es', hes, htype⟩ := hfirst.exists_marks
    rw [hlines] at hl
    rw [List.mem_singleton.mp hl] at hes
    cases hparsed.symm.trans hes
    exact hother (Scalar.text.inj (Value.scalar.inj (Option.some.inj (hevent.symm.trans htype))))

/-- A failure. -/
def failureNote : String :=
  "\x7b\"event\": \"resolve.failed\"\x7d\n"

theorem writtenLines_failureNote : writtenLines failureNote.toList = [(failureNote.toList, 1)] := by
  decide +kernel

theorem parseChars_failureNote :
    parseChars failureNote.toList = .ok (.object [("event", .text "resolve.failed")]) := by
  cbv

/-- What lies on a desk: a journal, that of a failure, and a directory. -/
def deskEntries (content : String) : List (String × FileNode) :=
  [("c.jsonl", .file (utf8Bytes content)), ("b.jsonl", .file (utf8Bytes failureNote)), ("old", .directory)]

/-- A directory with these entries. -/
def desk (content : String) : FileTree :=
  (deskEntries content).foldl (fun tree e => FileTree.add ("logs/" ++ e.1) e.2 tree) []

/-- The two files on a desk are its journals. -/
theorem eq_of_mem_deskEntries {name : String} {bytes : List UInt8}
    (hentry : (name, FileNode.file bytes) ∈ deskEntries content) :
    bytes = utf8Bytes content ∨ bytes = utf8Bytes failureNote := by
  simp only [deskEntries, List.mem_cons, Prod.mk.injEq, FileNode.file.injEq, reduceCtorEq, and_false,
    List.not_mem_nil, or_false] at hentry
  exact hentry.imp And.right And.right

theorem objects_on_desk (hobjects : ∀ l ∈ writtenLines content.toList, ∃ es, parseChars l.1 = .ok (.mapping es))
    (name : String) (bytes : List UInt8) (hentry : (name, FileNode.file bytes) ∈ deskEntries content) :
    ∃ content, bytes = utf8Bytes content ∧
      ∀ l ∈ writtenLines content.toList, ∃ es, parseChars l.1 = .ok (.mapping es) := by
  rcases eq_of_mem_deskEntries hentry with hbytes | hbytes
  · exact ⟨content, hbytes, hobjects⟩
  · exact ⟨failureNote, hbytes, objects_of_single writtenLines_failureNote parseChars_failureNote⟩

end Desk

/-- A completion. -/
def completionNote : String :=
  "\x7b\"event\": \"resolve.completed\"\x7d\n"

/-- The journals of a completion and of a failure beside a directory are scanned. -/
theorem failedCalls_scanned_desk :
    Lists (desk completionNote) "logs" (deskEntries completionNote) ∧ AllOrderly (deskEntries completionNote) ∧
      Scanned (desk completionNote) "logs" (deskEntries completionNote) := by
  have hlists : Lists (desk completionNote) "logs" (deskEntries completionNote) := by decide +kernel
  have hlines : writtenLines completionNote.toList = [(completionNote.toList, 1)] := by decide +kernel
  have hparsed : parseChars completionNote.toList = .ok (.object [("event", .text "resolve.completed")]) := by
    cbv
  have horderly : AllOrderly (deskEntries completionNote) := by
    intro name bytes hentry _
    obtain ⟨content, hbytes, hobjects⟩ :=
      objects_on_desk (objects_of_single hlines hparsed) name bytes hentry
    exact ⟨content, hbytes, fun l hl => .inl (hobjects l hl)⟩
  refine ⟨hlists, horderly, (failedCalls_scanned_iff hlists horderly).1.mpr ?_⟩
  rintro ⟨name, node, m, hentry, hname, hobstacle⟩
  cases node with
  | directory =>
    simp only [deskEntries, List.mem_cons, Prod.mk.injEq, reduceCtorEq, and_false, false_or, and_true,
      List.not_mem_nil, or_false] at hentry
    subst hentry
    cases hname
  | file bytes =>
    rcases eq_of_mem_deskEntries hentry with rfl | rfl
    · exact not_obstacle_of_single hlines hparsed rfl (by decide) ⟨m, hobstacle⟩
    · exact not_obstacle_of_single writtenLines_failureNote parseChars_failureNote rfl (by decide)
        ⟨m, hobstacle⟩

/-- A fetch whose resolutions are null. -/
def nullNote : String :=
  "\x7b\"event\": \"fetch.completed\", \"resolutions\": null\x7d\n"

/-- Resolutions that are null lose the report of another journal. -/
theorem not_scanned_null :
    ¬ ∀ tree directory entries, Lists tree directory entries →
      (∀ name bytes, (name, FileNode.file bytes) ∈ entries → isJournalName name = true →
        ∃ content, bytes = utf8Bytes content ∧
          ∀ l ∈ writtenLines content.toList, ∃ es, parseChars l.1 = .ok (.mapping es)) →
      Scanned tree directory entries := by
  intro hall
  have hlists : Lists (desk nullNote) "logs" (deskEntries nullNote) := by decide +kernel
  have hlines : writtenLines nullNote.toList = [(nullNote.toList, 1)] := by decide +kernel
  have hparsed : parseChars nullNote.toList =
      .ok (.object [("event", .text "fetch.completed"), ("resolutions", .null)]) := by
    cbv
  have hobjects := objects_of_single hlines hparsed
  have hwhole : ¬ ∃ l ∈ writtenLines nullNote.toList, ∃ m, Exceeds l.1 m := by
    rintro ⟨l, hl, m, hm, _⟩
    obtain ⟨es, hes⟩ := hobjects l hl
    cases hes.symm.trans hm
  have hfirst : First "fetch.completed" (writtenLines nullNote.toList)
      [(.text "event", .text "fetch.completed"), (.text "resolutions", .null)] :=
    ⟨[], (nullNote.toList, 1), [], hlines, fun _ h => absurd h List.not_mem_nil, hparsed, rfl⟩
  have horderly : AllOrderly (deskEntries nullNote) := by
    intro name bytes hentry _
    obtain ⟨content, hbytes, hcontent⟩ := objects_on_desk hobjects name bytes hentry
    exact ⟨content, hbytes, fun l hl => .inl (hcontent l hl)⟩
  obtain ⟨_, failing, reported, _, _, hreported, _⟩ := hall _ _ _ hlists
    fun name bytes hentry _ => objects_on_desk hobjects name bytes hentry
  obtain ⟨m, hm⟩ := exists_error_of_obstacle hlists horderly (List.mem_cons_self : ("c.jsonl", _) ∈ _) rfl
    (.unsized hwhole ⟨_, hfirst, rfl, rfl⟩)
  cases hreported.symm.trans hm

end Journal

end Phrasing
