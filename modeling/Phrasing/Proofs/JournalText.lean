import Phrasing.Proofs.JournalLines
import Phrasing.Proofs.Spelling

/-! # Journals read back

An entry of a journal is written as one line of plain text, whatever the texts in it are, so every line
is read back as the entry it was written for, with its number added (`readLines_lines`), and a journal
that was saved is loaded with all its entries and without a notice (`load_eq`).  What is asked of a
journal that was read back is answered from the first event of each kind that it tells.
-/

namespace Phrasing

namespace Json

/-! ## Objects -/

theorem isWritable_object {fields : List (String × Value)} :
    (Value.object fields).isWritable = true ↔ ∀ f ∈ fields, f.2.isWritable = true := by
  show entriesAreWritable _ = true ↔ _
  rw [entriesAreWritable_iff, List.forall_mem_map]
  exact forall₂_congr fun _ _ => and_iff_right rfl

theorem nesting_object_le {fields : List (String × Value)} {levels : Nat} :
    nesting (.object fields) ≤ levels + 1 ↔ ∀ f ∈ fields, nesting f.2 ≤ levels := by
  show nestingOfEntries _ + 1 ≤ levels + 1 ↔ _
  rw [Nat.succ_le_succ_iff, nestingOfEntries_le, List.forall_mem_map]

theorem reading_texts (items : List String) : reading (.texts items) = .texts items := by
  have hitems : readingItems (items.map Value.text) = items.map Value.text := by
    induction items with
    | nil => rfl
    | cons item items ih =>
      rw [List.map_cons, readingItems, ih]
      rfl
  exact congrArg Value.list hitems

/-- What the fields of an object are read as. -/
def readingFields (fields : List (String × Value)) : List (String × Value) :=
  fields.map fun (name, v) => (name, reading v)

/-- An object with distinct names is read as one. -/
theorem reading_object {fields : List (String × Value)} (h : (fields.map Prod.fst).Nodup) :
    reading (.object fields) = .object (readingFields fields) := by
  have hentries : ∀ fields : List (String × Value),
      readingEntries (fields.map fun (name, v) => (Scalar.text name, v)) =
        (readingFields fields).map fun (name, v) => (Scalar.text name, v) := by
    intro fields
    induction fields with
    | nil => rfl
    | cons f fields ih =>
      obtain ⟨name, v⟩ := f
      have hcons : readingEntries (((name, v) :: fields).map fun (name, v) => (Scalar.text name, v)) =
        (.text name, reading v) ::
          readingEntries (fields.map fun (name, v) => (Scalar.text name, v)) := rfl
      rw [hcons, ih]
      rfl
  have hkeys : (((readingFields fields).map fun (name, v) => (Scalar.text name, v)).map Prod.fst).Nodup := by
    have heq : ((readingFields fields).map fun (name, v) => (Scalar.text name, v)).map Prod.fst =
        (fields.map Prod.fst).map Scalar.text := by
      simp [readingFields, Function.comp_def]
    rw [heq]
    exact List.Pairwise.map Scalar.text (fun _ _ hne heq => hne (Scalar.text.inj heq)) h
  show Value.mapping (Entries.ofPairs (readingEntries _)) = _
  rw [hentries, Entries.ofPairs_of_nodup hkeys]
  rfl

end Json

namespace Journal

open Text Json

/-! ## Lines -/

namespace Entry

/-- The object that an entry on a line is read back as. -/
def readBack (n : Nat) (e : Entry) : Value :=
  .object (readingFields e.fields ++ [(lineField, .int n)])

theorem nodup_fields (e : Entry) : (e.fields.map Prod.fst).Nodup := by
  obtain ⟨callId, scenario, event⟩ := e
  cases event with
  | started => exact (by decide : ["call_id", "scenario", "locale", "entities", "event", "level"].Nodup)
  | extracted =>
    exact (by decide : ["call_id", "scenario", "references", "reference_count", "event", "level"].Nodup)
  | fetched =>
    exact (by decide : ["call_id", "scenario", "resolutions", "resolved_count", "event", "level"].Nodup)
  | completed => exact (by decide : ["call_id", "scenario", "event", "level"].Nodup)
  | failed =>
    exact (by decide : ["call_id", "scenario", "error_type", "error_message", "status_code", "missing",
      "event", "level"].Nodup)

theorem lineField_notMem (e : Entry) : lineField ∉ e.fields.map Prod.fst := by
  obtain ⟨callId, scenario, event⟩ := e
  cases event with
  | started => exact (by decide : lineField ∉ ["call_id", "scenario", "locale", "entities", "event", "level"])
  | extracted =>
    exact (by decide :
      lineField ∉ ["call_id", "scenario", "references", "reference_count", "event", "level"])
  | fetched =>
    exact (by decide :
      lineField ∉ ["call_id", "scenario", "resolutions", "resolved_count", "event", "level"])
  | completed => exact (by decide : lineField ∉ ["call_id", "scenario", "event", "level"])
  | failed =>
    exact (by decide : lineField ∉ ["call_id", "scenario", "error_type", "error_message", "status_code",
      "missing", "event", "level"])

/-- **A line is parsed as the entry that it was written for**, if that can be written. -/
theorem parseChars_line {e : Entry} (h : e.check = .ok ()) :
    parseChars e.line = .ok (.object (readingFields e.fields)) := by
  obtain ⟨hwritable, hnesting⟩ := check_eq_ok h
  unfold line
  rw [parseChars_renderChars hnesting hwritable (.inr rfl), reading_object e.nodup_fields]

/-- The number of a line is added to the entry on it. -/
theorem numbered_fields (n : Nat) (e : Entry) :
    numbered n (.object (readingFields e.fields)) = .ok (e.readBack n) := by
  have hnew : Scalar.text lineField ∉
      Entries.keys ((readingFields e.fields).map fun (name, v) => (Scalar.text name, v)) := by
    intro hmem
    have hkeys : Entries.keys ((readingFields e.fields).map fun (name, v) => (Scalar.text name, v)) =
        (e.fields.map Prod.fst).map Scalar.text := by
      simp [Entries.keys, readingFields, Function.comp_def]
    rw [hkeys] at hmem
    obtain ⟨name, hname, heq⟩ := List.mem_map.mp hmem
    exact e.lineField_notMem (Scalar.text.inj heq ▸ hname)
  show Except.ok (Value.mapping (Entries.put _ _ _)) = _
  rw [Entries.put_of_not_mem _ hnew]
  unfold readBack Value.object
  rw [List.map_append]
  rfl

theorem not_blank_line (e : Entry) : e.line.all isBlank = false := rfl

end Entry

/-- **Lines are read back one after another**, without a notice. -/
theorem readLines_lines (path : String) {entries : List Entry} (h : ∀ e ∈ entries, e.check = .ok ())
    (n : Nat) :
    readLines path none n (entries.map Entry.line) =
      (.ok (entries.mapIdx fun i e => e.readBack (i + n)), []) := by
  induction entries generalizing n with
  | nil => rfl
  | cons e entries ih =>
    obtain ⟨he, hentries⟩ := List.forall_mem_cons.mp h
    rw [List.map_cons, readLines, e.not_blank_line, if_neg Bool.false_ne_true, Entry.parseChars_line he]
    dsimp only
    rw [Entry.numbered_fields]
    dsimp only
    rw [ih hentries (n + 1), List.mapIdx_cons]
    have hshift : (entries.mapIdx fun i e => Entry.readBack (i + (n + 1)) e) =
        entries.mapIdx fun i e => Entry.readBack (i + 1 + n) e := by
      simp only [Nat.add_assoc, Nat.add_comm 1]
    rw [hshift, Nat.zero_add]
    rfl

/-- The entries of a journal as they are read back. -/
def Writer.readBack (w : Writer) : List Value :=
  w.entries.mapIdx fun i e => e.readBack (i + 1)

/-- The bytes of a journal. -/
def Writer.bytes (w : Writer) : List UInt8 :=
  utf8Bytes (String.ofList w.content)

/-- **A journal in a file is loaded** with all its entries and without a notice. -/
theorem load_eq {tree : FileTree} {path : String} {w : Writer}
    (hreach : tree.reach path = .ok (.file w.bytes)) (h : ∀ e ∈ w.entries, e.check = .ok ()) :
    load tree path = (.ok w.readBack, []) := by
  have hplain : ∀ line ∈ w.entries.map fun e => renderChars (.object e.fields), Plain line := by
    intro line hline
    obtain ⟨e, _, rfl⟩ := List.mem_map.mp hline
    exact plain_renderChars _
  have hcontent : w.content = ofLines (w.entries.map fun e => renderChars (.object e.fields)) := by
    unfold Writer.content ofLines
    rw [List.flatMap_map]
    rfl
  have hlines : fileLines (String.ofList w.content).toList = w.entries.map Entry.line := by
    rw [String.toList_ofList, hcontent, fileLines_ofLines hplain, List.map_map]
    rfl
  rw [load_of_reach hreach, hlines]
  exact readLines_lines path h 1

/-! ## Questions -/

namespace Entry

/-- The field that a value has under a name. -/
theorem get?_object (fields : List (String × Value)) (name : String) :
    (Value.object fields).get? name = Entries.get? name fields := by
  show Entries.get? (Scalar.text name) (fields.map fun (name, v) => (Scalar.text name, v)) = _
  induction fields with
  | nil => rfl
  | cons f fields ih =>
    obtain ⟨key, v⟩ := f
    rw [List.map_cons, Entries.get?_cons, Entries.get?_cons, ih]
    by_cases hkey : key = name
    · rw [if_pos hkey, if_pos (congrArg Scalar.text hkey)]
    · rw [if_neg hkey, if_neg (fun heq => hkey (Scalar.text.inj heq))]

/-- An entry that was read back names its event. -/
theorem getD_event (n : Nat) (e : Entry) : (e.readBack n).getD "event" = .text e.event.name := by
  obtain ⟨callId, scenario, event⟩ := e
  unfold Value.getD readBack
  rw [get?_object]
  cases event with
  | started => rfl
  | extracted => rfl
  | fetched => rfl
  | completed => rfl
  | failed => rfl

/-- An entry that was read back bears the number of its line. -/
theorem getD_lineField (n : Nat) (e : Entry) : (e.readBack n).getD lineField = .int n := by
  obtain ⟨callId, scenario, event⟩ := e
  unfold Value.getD readBack
  rw [get?_object]
  cases event with
  | started => rfl
  | extracted => rfl
  | fetched => rfl
  | completed => rfl
  | failed => rfl

end Entry

/-- **The entries of a journal are numbered** from one on. -/
theorem Writer.numbers_readBack (w : Writer) :
    w.readBack.map (·.getD lineField) = (List.range' 1 w.entries.length).map fun n : Nat => .int n := by
  have hnumbers : ∀ (entries : List Entry) (n : Nat),
      (entries.mapIdx fun i e => e.readBack (i + n)).map (·.getD lineField) =
        (List.range' n entries.length).map fun n : Nat => .int n := by
    intro entries
    induction entries with
    | nil => exact fun _ => rfl
    | cons e entries ih =>
      intro n
      have hshift : (entries.mapIdx fun i e => Entry.readBack (i + 1 + n) e) =
          entries.mapIdx fun i e => Entry.readBack (i + (n + 1)) e := by
        simp only [Nat.add_assoc, Nat.add_comm 1]
      rw [List.mapIdx_cons, hshift, List.map_cons, ih (n + 1), Nat.zero_add, e.getD_lineField]
      rfl
  exact hnumbers w.entries 1

theorem same_text (s t : String) : (Value.text s).same (.text t) = (s == t) := by
  have hscalar : (Value.text s).same (.text t) = (Scalar.text s == Scalar.text t) := by
    rw [Value.same.eq_def]
    unfold Scalar.same
    rfl
  rw [hscalar]
  by_cases heq : s = t
  · rw [heq, beq_self_eq_true, beq_self_eq_true]
  · rw [beq_eq_false_iff_ne.mpr heq, beq_eq_false_iff_ne.mpr fun h => heq (Scalar.text.inj h)]

/-- The first entry of a kind of event. -/
def firstOf? (type : String) (entries : List Entry) : Option Entry :=
  entries.find? fun e => e.event.name == type

section Questions

variable {type callId : String} {scenario : Value} {w : Writer}

/-- The entries of a kind of event, read back, start with the first that was written for one. -/
theorem ofType_mapIdx (type : String) (entries : List Entry) (n : Nat) :
    firstOf? type entries = none ∧
        ofType (.text type) (entries.mapIdx fun i e => e.readBack (i + n)) = [] ∨
      ∃ e m rest, firstOf? type entries = some e ∧
        ofType (.text type) (entries.mapIdx fun i e => e.readBack (i + n)) = e.readBack m :: rest := by
  induction entries generalizing n with
  | nil => exact .inl ⟨rfl, rfl⟩
  | cons e entries ih =>
    have hshift : ((e :: entries).mapIdx fun i e => Entry.readBack (i + n) e) =
        e.readBack n :: entries.mapIdx fun i e => Entry.readBack (i + (n + 1)) e := by
      rw [List.mapIdx_cons]
      simp only [Nat.add_assoc, Nat.add_comm 1, Nat.zero_add]
    have hsame : ((e.readBack n).getD "event").same (.text type) = (e.event.name == type) := by
      rw [e.getD_event n, same_text]
    rw [hshift]
    unfold ofType firstOf? at ih ⊢
    rw [List.find?_cons, List.filter_cons, hsame]
    cases e.event.name == type with
    | true => exact .inr ⟨e, n, _, rfl, rfl⟩
    | false => exact ih (n + 1)

theorem ofType_of_none (h : firstOf? type w.entries = none) : ofType (.text type) w.readBack = [] := by
  rcases ofType_mapIdx type w.entries 1 with ⟨_, hnil⟩ | ⟨e, _, _, hsome, _⟩
  · exact hnil
  · cases h.symm.trans hsome

theorem ofType_of_some {e : Entry} (h : firstOf? type w.entries = some e) :
    ∃ m rest, ofType (.text type) w.readBack = e.readBack m :: rest := by
  rcases ofType_mapIdx type w.entries 1 with ⟨hnone, _⟩ | ⟨e', m, rest, hsome, hcons⟩
  · cases h.symm.trans hnone
  · cases h.symm.trans hsome
    exact ⟨m, rest, hcons⟩

/-- **The references asked of a journal** are those that it tells of first. -/
theorem references_of_some {names : Value} {count : Nat}
    (h : firstOf? "references.extracted" w.entries = some ⟨callId, scenario, .extracted names count⟩) :
    references w.readBack = reading names := by
  obtain ⟨m, rest, hcons⟩ := ofType_of_some h
  unfold references firstField
  rw [hcons]
  dsimp only
  unfold Entry.readBack
  rw [Entry.get?_object]
  rfl

theorem references_of_none (h : firstOf? "references.extracted" w.entries = none) :
    references w.readBack = .list [] := by
  unfold references firstField
  rw [ofType_of_none h]

/-- **The phrases asked of a journal** are those that it tells of first. -/
theorem resolutions_of_some {phrases : Value} {count : Nat}
    (h : firstOf? "fetch.completed" w.entries = some ⟨callId, scenario, .fetched phrases count⟩) :
    resolutions w.readBack = reading phrases := by
  obtain ⟨m, rest, hcons⟩ := ofType_of_some h
  unfold resolutions firstField
  rw [hcons]
  dsimp only
  unfold Entry.readBack
  rw [Entry.get?_object]
  rfl

theorem resolutions_of_none (h : firstOf? "fetch.completed" w.entries = none) :
    resolutions w.readBack = .mapping [] := by
  unfold resolutions firstField
  rw [ofType_of_none h]

theorem failure?_of_none (h : firstOf? "resolve.failed" w.entries = none) :
    failure? w.readBack = none := by
  unfold failure?
  rw [ofType_of_none h]
  rfl

/-- The failure in a summary as the incident that it was. -/
def Incident.toValue (i : Incident) : Value :=
  .object [("error_type", .text i.kind), ("error_message", .text i.message),
    ("status_code", .ofNat? i.status), ("missing", (i.missing.map Value.texts).getD .null)]

/-- **The failure asked of a journal** is the incident that it tells of first. -/
theorem failure?_of_some {incident : Incident}
    (h : firstOf? "resolve.failed" w.entries = some ⟨callId, scenario, .failed incident⟩) :
    ∃ e, failure? w.readBack = some e ∧
      .object (failureFields.map fun name => (name, e.getD name)) = incident.toValue := by
  obtain ⟨m, rest, hcons⟩ := ofType_of_some h
  refine ⟨_, (congrArg List.head? hcons : _), ?_⟩
  have hstatus : reading (.ofNat? incident.status) = .ofNat? incident.status := by
    cases incident.status <;> rfl
  have hmissing : reading ((incident.missing.map Value.texts).getD .null) =
      (incident.missing.map Value.texts).getD .null := by
    cases incident.missing with
    | none => rfl
    | some missing => exact reading_texts missing
  have hfields : ∀ name, (Entry.readBack m ⟨callId, scenario, .failed incident⟩).getD name =
      (Entries.get? name ([("call_id", .text callId), ("scenario", reading scenario),
        ("error_type", .text incident.kind), ("error_message", .text incident.message),
        ("status_code", .ofNat? incident.status),
        ("missing", (incident.missing.map Value.texts).getD .null), ("event", .text "resolve.failed"),
        ("level", .text "error"), (lineField, .int m)] : List (String × Value))).getD .null := by
    intro name
    unfold Value.getD Entry.readBack
    rw [Entry.get?_object]
    refine congrArg (fun fields => (Entries.get? name fields).getD Value.null) ?_
    show [_, _, _, _, ("status_code", reading _), ("missing", reading _), _, _, _] = _
    rw [hstatus, hmissing]
    rfl
  simp only [hfields]
  rfl

end Questions

end Journal

end Phrasing
