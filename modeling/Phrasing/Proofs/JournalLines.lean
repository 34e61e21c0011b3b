import Mathlib.Data.List.Forall2
import Phrasing.Journal.Archive
import Phrasing.Proofs.Entries
import Phrasing.Proofs.Except
import Phrasing.Proofs.Utf8

/-! # Lines of a journal

A line of a journal that is not blank yields an entry or a warning (`Yields`), or it stops the reader
(`Stops`): it may hold JSON that is no object, and it may be too large for the JSON reader, which is no
question of its form.  Lines that yield something never hide one another (`readLines_of_yields`), but the
first one that stops the reader decides for the whole file, and only the warnings before it are left
(`readLines_of_stops`).  So a text is survived, with one entry or one warning for every line in it, exactly
if none of its lines stops the reader (`load_survives_iff`).
-/

namespace Phrasing

/-- What stands on one side of two lists in step stands against something on the other. -/
theorem exists_of_forall₂ {α β : Type} {R : α → β → Prop} {as : List α} {bs : List β} {a : α}
    (h : List.Forall₂ R as bs) (ha : a ∈ as) : ∃ b ∈ bs, R a b := by
  induction h with
  | nil => cases ha
  | cons hhead _ ih =>
    rcases List.mem_cons.mp ha with rfl | ha
    · exact ⟨_, List.mem_cons_self, hhead⟩
    · obtain ⟨b, hb, hab⟩ := ih ha
      exact ⟨b, List.mem_cons_of_mem _ hb, hab⟩

/-- Where everything in a list is related to something, the list is to a list in step. -/
theorem exists_forall₂ {α β : Type} {R : α → β → Prop} {as : List α} (h : ∀ a ∈ as, ∃ b, R a b) :
    ∃ bs, List.Forall₂ R as bs := by
  induction as with
  | nil => exact ⟨[], .nil⟩
  | cons a as ih =>
    obtain ⟨⟨b, hb⟩, has⟩ := List.forall_mem_cons.mp h
    obtain ⟨bs, hbs⟩ := ih has
    exact ⟨b :: bs, .cons hb hbs⟩

/-- All members of a list have a property, or there is a first one without it. -/
theorem forall_or_first {α : Type} (p : α → Prop) (as : List α) :
    (∀ a ∈ as, p a) ∨ ∃ before a after, as = before ++ a :: after ∧ (∀ b ∈ before, p b) ∧ ¬ p a := by
  induction as with
  | nil => exact .inl fun _ h => absurd h List.not_mem_nil
  | cons a as ih =>
    by_cases ha : p a
    · rcases ih with has | ⟨before, a', after, rfl, hbefore, ha'⟩
      · exact .inl (List.forall_mem_cons.mpr ⟨ha, has⟩)
      · exact .inr ⟨a :: before, a', after, rfl, List.forall_mem_cons.mpr ⟨ha, hbefore⟩, ha'⟩
    · exact .inr ⟨[], a, as, rfl, fun _ h => absurd h List.not_mem_nil, ha⟩

namespace Json

/-- A mishap of the JSON reader that says nothing of the form of a text: a number has too many digits, or
collections stand too deep in each other. -/
inductive Excess : Mishap → Prop where
  | digits (count : Nat) : Excess (.tooManyDigits (some count))
  | depth (work : String) : Excess (.tooDeep work)

/-- **What the JSON reader refuses** is not JSON or too large. -/
theorem parseChars_eq_error {cs : List Char} {m : Mishap} (h : parseChars cs = .error m) :
    (∃ text, m = .notJson text) ∨ Excess m := by
  obtain ⟨r, _, rfl⟩ := mapError_eq_error.mp h
  unfold Refusal.mishap
  cases r.complaint with
  | tooManyDigits count => exact .inr (.digits count)
  | tooDeep inArray => exact .inr (.depth _)
  | _ => exact .inl ⟨_, rfl⟩

end Json

namespace Journal

open Text Json

/-! ## One line -/

/-- What a line that is not blank yields under its number: the object on it with that number, or a warning
that names the number. -/
inductive Yields (path : String) : List Char × Nat → Value ⊕ Notice → Prop where
  | entry {line : List Char} {n : Nat} {es : List (Scalar × Value)}
    (parsed : parseChars line = .ok (.mapping es)) :
    Yields path (line, n) (.inl (.mapping (Entries.put (.text lineField) (.int n) es)))
  | warning {line : List Char} {n : Nat} {text : String} (refused : parseChars line = .error (.notJson text)) :
    Yields path (line, n) (.inr (unreadableLine path n text))

/-- A line stops the reader with a mishap: it holds JSON that is no object, or it is too large. -/
inductive Stops : List Char → Mishap → Prop where
  | notObject {line : List Char} {v : Value} (parsed : parseChars line = .ok v)
    (hobject : ∀ es, v ≠ .mapping es) : Stops line (.entryNotObject v.typeName)
  | excess {line : List Char} {m : Mishap} (refused : parseChars line = .error m) (hexcess : Excess m) :
    Stops line m

section Lines

variable {path : String} {line : List Char} {n : Nat} {l : List Char × Nat} {y : Value ⊕ Notice}
  {m : Mishap} {rest : List (List Char)}

theorem yields_or_stops (path : String) (l : List Char × Nat) :
    (∃ y, Yields path l y) ∨ ∃ m, Stops l.1 m := by
  obtain ⟨line, n⟩ := l
  cases h : parseChars line with
  | error m =>
    rcases parseChars_eq_error h with ⟨text, rfl⟩ | hexcess
    · exact .inl ⟨_, .warning h⟩
    · exact .inr ⟨m, .excess h hexcess⟩
  | ok v =>
    by_cases hobject : ∃ es, v = .mapping es
    · obtain ⟨es, rfl⟩ := hobject
      exact .inl ⟨_, .entry h⟩
    · exact .inr ⟨_, .notObject h (not_exists.mp hobject)⟩

theorem Yields.not_stops (h : Yields path l y) : ¬ Stops l.1 m := by
  intro hstops
  cases h with
  | entry parsed =>
    cases hstops with
    | notObject parsed' hobject =>
      cases parsed.symm.trans parsed'
      exact hobject _ rfl
    | excess refused _ => cases parsed.symm.trans refused
  | warning refused =>
    cases hstops with
    | notObject parsed _ => cases refused.symm.trans parsed
    | excess refused' hexcess =>
      cases refused.symm.trans refused'
      cases hexcess

/-- A value with a number keeps its own members. -/
structure Carries (n : Nat) (object entry : Value) : Prop where
  number : entry.get? lineField = some (.int n)
  own : ∀ key, key ≠ lineField → entry.get? key = object.get? key

theorem carries_put (n : Nat) (es : List (Scalar × Value)) :
    Carries n (.mapping es) (.mapping (Entries.put (.text lineField) (.int n) es)) where
  number := by
    show Entries.get? _ _ = _
    rw [Entries.get?_put, if_pos rfl]
  own key hkey := Entries.get?_put_ne (fun heq => hkey (Scalar.text.inj heq).symm) _ _

/-! ## The reader -/

/-- What one line yields, before what the others do. -/
def prepend (y : Value ⊕ Notice) (read : Except Mishap (List Value) × List Notice) :
    Except Mishap (List Value) × List Notice :=
  match y with
  | .inl entry => (read.1.map (entry :: ·), read.2)
  | .inr notice => (read.1, notice :: read.2)

theorem readLines_blank (h : line.all isBlank = true) :
    readLines path none n (line :: rest) = readLines path none (n + 1) rest := by
  rw [readLines, if_pos h]

theorem readLines_cons_of_yields (hwritten : line.all isBlank = false) (h : Yields path (line, n) y) :
    readLines path none n (line :: rest) = prepend y (readLines path none (n + 1) rest) := by
  rw [readLines, hwritten, if_neg Bool.false_ne_true]
  cases h with
  | entry parsed =>
    rw [parsed]
    rfl
  | warning refused =>
    rw [refused]
    rfl

theorem readLines_cons_of_stops (hwritten : line.all isBlank = false) (h : Stops line m) :
    readLines path none n (line :: rest) = (.error m, []) := by
  rw [readLines, hwritten, if_neg Bool.false_ne_true]
  cases h with
  | notObject parsed hobject =>
    rename_i v
    rw [parsed]
    cases v with
    | mapping es => exact absurd rfl (hobject es)
    | _ => rfl
  | excess refused hexcess =>
    rw [refused]
    cases hexcess with
    | digits count => rfl
    | depth work => rfl

end Lines

/-! ## All lines -/

/-- The lines that are not blank, each with its number, where the first line has number `n`. -/
def writtenFrom (n : Nat) (lines : List (List Char)) : List (List Char × Nat) :=
  (lines.zipIdx n).filter fun l => !l.1.all isBlank

/-- The lines of a text that are not blank, with their numbers. -/
def writtenLines (content : List Char) : List (List Char × Nat) :=
  writtenFrom 1 (fileLines content)

/-- The entries among what lines yield. -/
def entriesAmong (ys : List (Value ⊕ Notice)) : List Value :=
  ys.filterMap Sum.getLeft?

/-- The warnings among what lines yield. -/
def warningsAmong (ys : List (Value ⊕ Notice)) : List Notice :=
  ys.filterMap Sum.getRight?

section Runs

variable {path : String} {line : List Char} {n : Nat} {lines : List (List Char)}
  {l : List Char × Nat} {before after : List (List Char × Nat)} {ys : List (Value ⊕ Notice)} {m : Mishap}

theorem writtenFrom_blank (h : line.all isBlank = true) :
    writtenFrom n (line :: lines) = writtenFrom (n + 1) lines := by
  rw [writtenFrom, List.zipIdx_cons, List.filter_cons_of_neg (by rw [h]; exact Bool.false_ne_true)]
  rfl

theorem writtenFrom_cons (h : line.all isBlank = false) :
    writtenFrom n (line :: lines) = (line, n) :: writtenFrom (n + 1) lines := by
  rw [writtenFrom, List.zipIdx_cons, List.filter_cons_of_pos (by rw [h]; rfl)]
  rfl

/-- **Lines that yield something never hide one another**: the reader finds all entries and warnings. -/
theorem readLines_of_yields (h : List.Forall₂ (Yields path) (writtenFrom n lines) ys) :
    readLines path none n lines = (.ok (entriesAmong ys), warningsAmong ys) := by
  induction lines generalizing n ys with
  | nil =>
    cases h
    rfl
  | cons line lines ih =>
    cases hblank : line.all isBlank with
    | true =>
      rw [writtenFrom_blank hblank] at h
      rw [readLines_blank hblank, ih h]
    | false =>
      rw [writtenFrom_cons hblank] at h
      cases h with
      | @cons _ y _ ys hy hys =>
        rw [readLines_cons_of_yields hblank hy, ih hys]
        cases y with
        | inl entry => rfl
        | inr notice => rfl

/-- **The first line that stops the reader decides**: its mishap comes out, and the warnings before it. -/
theorem readLines_of_stops (hlines : writtenFrom n lines = before ++ l :: after)
    (hbefore : List.Forall₂ (Yields path) before ys) (hstops : Stops l.1 m) :
    readLines path none n lines = (.error m, warningsAmong ys) := by
  induction lines generalizing n before ys with
  | nil => cases (List.append_ne_nil_of_right_ne_nil before (List.cons_ne_nil l after)) hlines.symm
  | cons line lines ih =>
    cases hblank : line.all isBlank with
    | true =>
      rw [writtenFrom_blank hblank] at hlines
      rw [readLines_blank hblank, ih hlines hbefore]
    | false =>
      rw [writtenFrom_cons hblank] at hlines
      cases hbefore with
      | nil =>
        obtain ⟨rfl, _⟩ := List.cons.inj hlines
        exact readLines_cons_of_stops hblank hstops
      | @cons _ y before ys hy hys =>
        obtain ⟨rfl, hrest⟩ := List.cons.inj hlines
        rw [readLines_cons_of_yields hblank hy, ih hrest hys]
        cases y with
        | inl entry => rfl
        | inr notice => rfl

/-- Every line yields something, or one of them is the first to stop the reader. -/
theorem all_yield_or_first_stops (path : String) (written : List (List Char × Nat)) :
    (∃ ys, List.Forall₂ (Yields path) written ys) ∨
      ∃ before l after ys m, written = before ++ l :: after ∧
        List.Forall₂ (Yields path) before ys ∧ Stops l.1 m := by
  rcases forall_or_first (fun l => ∃ y, Yields path l y) written with
    hall | ⟨before, l, after, rfl, hbefore, hl⟩
  · exact .inl (exists_forall₂ hall)
  · obtain ⟨ys, hys⟩ := exists_forall₂ hbefore
    obtain ⟨m, hm⟩ := (yields_or_stops path l).resolve_left hl
    exact .inr ⟨before, l, after, ys, m, rfl, hys, hm⟩

/-- The numbers of entries are among those of the lines, in their order. -/
theorem exists_numbers {written : List (List Char × Nat)} (h : List.Forall₂ (Yields path) written ys) :
    ∃ numbers : List Nat, (entriesAmong ys).map (·.getD lineField) = numbers.map (fun n : Nat => .int n) ∧
      numbers.Sublist (written.map Prod.snd) := by
  induction h with
  | nil => exact ⟨[], rfl, .refl _⟩
  | cons hy _ ih =>
    obtain ⟨numbers, hnumbers, hsub⟩ := ih
    cases hy with
    | @entry line n es _ =>
      refine ⟨n :: numbers, ?_, hsub.cons_cons n⟩
      have hnumber : (Value.mapping (Entries.put (.text lineField) (.int n) es)).getD lineField = .int n :=
        congrArg (Option.getD · Value.null) (carries_put n es).number
      exact congrArg₂ List.cons hnumber hnumbers
    | @warning line n text _ => exact ⟨numbers, hnumbers, hsub.cons n⟩

/-- An entry carries the members of the object on one of the lines, and the number of that line. -/
theorem exists_carries {written : List (List Char × Nat)} {entry : Value}
    (h : List.Forall₂ (Yields path) written ys) (hentry : entry ∈ entriesAmong ys) :
    ∃ l ∈ written, ∃ es, parseChars l.1 = .ok (.mapping es) ∧ Carries l.2 (.mapping es) entry := by
  obtain ⟨y, hy, hleft⟩ := List.mem_filterMap.mp hentry
  obtain ⟨l, hl, hyields⟩ := exists_of_forall₂ h.flip hy
  cases hyields with
  | @entry line n es parsed =>
    cases hleft
    exact ⟨(line, n), hl, es, parsed, carries_put n es⟩
  | warning refused => cases hleft

/-- Later lines have greater numbers. -/
theorem writtenFrom_ascends (n : Nat) (lines : List (List Char)) :
    ((writtenFrom n lines).map Prod.snd).Pairwise (· < ·) := by
  have hsub : ((writtenFrom n lines).map Prod.snd).Sublist ((lines.zipIdx n).map Prod.snd) :=
    List.filter_sublist.map Prod.snd
  rw [List.zipIdx_map_snd] at hsub
  exact List.Pairwise.sublist hsub (List.pairwise_lt_range' 1)

end Runs

/-! ## Survival -/

/-- A text is survived when it is read with this result. -/
structure Survives (path content : String) (read : Except Mishap (List Value) × List Notice) : Prop where
  /-- Every line that is not blank yields one entry or one warning, and nothing else comes out. -/
  yields : ∃ ys, List.Forall₂ (Yields path) (writtenLines content.toList) ys ∧
    read = (.ok (entriesAmong ys), warningsAmong ys)
  /-- An entry has its own members and the number of its line. -/
  carries : ∀ entries, read.1 = .ok entries → ∀ entry ∈ entries, ∃ l ∈ writtenLines content.toList,
    ∃ es, parseChars l.1 = .ok (.mapping es) ∧ Carries l.2 (.mapping es) entry
  /-- The numbers of the entries increase. -/
  ascends : ∀ entries, read.1 = .ok entries → ∃ numbers : List Nat,
    entries.map (·.getD lineField) = numbers.map (fun n : Nat => .int n) ∧ numbers.Pairwise (· < ·)

/-- A line of a text that stops the reader. -/
def HasStop (content : String) : Prop :=
  ∃ l ∈ writtenLines content.toList, ∃ m, Stops l.1 m

section Files

variable {tree : FileTree} {path content : String} {ys : List (Value ⊕ Notice)}

theorem survives_of_yields (h : List.Forall₂ (Yields path) (writtenLines content.toList) ys) :
    Survives path content (.ok (entriesAmong ys), warningsAmong ys) where
  yields := ⟨ys, h, rfl⟩
  carries entries heq entry hentry := by
    cases heq
    exact exists_carries h hentry
  ascends entries heq := by
    cases heq
    obtain ⟨numbers, hnumbers, hsub⟩ := exists_numbers h
    exact ⟨numbers, hnumbers, (writtenFrom_ascends 1 _).sublist hsub⟩

/-- A journal in a file is loaded line by line. -/
theorem load_of_reach (hreach : tree.reach path = .ok (.file (utf8Bytes content))) :
    load tree path = readLines path none 1 (fileLines content.toList) := by
  rw [load, hreach]
  dsimp only
  rw [FileTree.readLines_of_reach hreach]

theorem not_hasStop_of_yields (h : List.Forall₂ (Yields path) (writtenLines content.toList) ys) :
    ¬ HasStop content := by
  rintro ⟨l, hl, m, hm⟩
  obtain ⟨y, _, hy⟩ := exists_of_forall₂ h hl
  exact hy.not_stops hm

/-- **A journal with any text in it is survived exactly if no line of it stops the reader.**  Otherwise the
first line that does decides what comes out, whatever the others hold. -/
theorem load_survives_iff (hreach : tree.reach path = .ok (.file (utf8Bytes content))) :
    (Survives path content (load tree path) ↔ ¬ HasStop content) ∧
      ∀ before l after m, writtenLines content.toList = before ++ l :: after →
        (∀ b ∈ before, ¬ ∃ m, Stops b.1 m) → Stops l.1 m →
        ∃ ys, List.Forall₂ (Yields path) before ys ∧ load tree path = (.error m, warningsAmong ys) := by
  rw [load_of_reach hreach]
  constructor
  · constructor
    · rintro ⟨⟨ys, hys, _⟩, _, _⟩
      exact not_hasStop_of_yields hys
    · intro hstop
      rcases all_yield_or_first_stops path (writtenLines content.toList) with
        ⟨ys, hys⟩ | ⟨before, l, after, ys, m, hlines, _, hm⟩
      · rw [readLines_of_yields hys]
        exact survives_of_yields hys
      · refine absurd ⟨l, ?_, m, hm⟩ hstop
        rw [hlines]
        exact List.mem_append_right before List.mem_cons_self
  · intro before l after m hlines hbefore hm
    rcases all_yield_or_first_stops path before with ⟨ys, hys⟩ | ⟨first, l', rest, _, m', rfl, _, hm'⟩
    · exact ⟨ys, hys, readLines_of_stops hlines hys hm⟩
    · exact absurd ⟨m', hm'⟩ (hbefore l' (List.mem_append_right first List.mem_cons_self))

end Files

/-! ## Single journals -/

/-- A journal with this text, and no other file. -/
def lone (content : String) : FileTree :=
  FileTree.add "call.jsonl" (.file (utf8Bytes content)) []

theorem reach_lone (content : String) :
    (lone content).reach "call.jsonl" = .ok (.file (utf8Bytes content)) :=
  rfl

/-- An entry, a blank line, an entry that was cut off, and one more. -/
def draft : String :=
  "\x7b\"event\": \"resolve.started\"\x7d\n\u2003\n\x7b\"event\": \"resolve.fai\r\n\x7b\x7d"

/-- The entry that was cut off hides neither of the others. -/
theorem load_survives_draft :
    (lone draft).reach "call.jsonl" = .ok (.file (utf8Bytes draft)) ∧ ¬ HasStop draft ∧
      Survives "call.jsonl" draft (load (lone draft) "call.jsonl") := by
  have hlines : writtenLines draft.toList =
      [("\x7b\"event\": \"resolve.started\"\x7d\n".toList, 1), ("\x7b\"event\": \"resolve.fai\n".toList, 3),
        ("\x7b\x7d".toList, 4)] := by
    decide +kernel
  have hfirst : parseChars "\x7b\"event\": \"resolve.started\"\x7d\n".toList =
      .ok (.object [("event", .text "resolve.started")]) := by
    cbv
  have hcut : parseChars "\x7b\"event\": \"resolve.fai\n".toList =
      .error (.notJson "Invalid control character at: line 1 column 23 (char 22)") := by
    cbv
  have hempty : parseChars "\x7b\x7d".toList = .ok (.mapping []) := by
    cbv
  obtain ⟨ys, hyields⟩ : ∃ ys, List.Forall₂ (Yields "call.jsonl") (writtenLines draft.toList) ys := by
    rw [hlines]
    exact ⟨_, .cons (.entry hfirst) (.cons (.warning hcut) (.cons (.entry hempty) .nil))⟩
  have hstop := not_hasStop_of_yields hyields
  exact ⟨reach_lone draft, hstop, (load_survives_iff (reach_lone draft)).1.mpr hstop⟩

/-- A number on a line of its own hides the failure after it. -/
theorem not_survives_number :
    ¬ ∀ tree path content, FileTree.reach tree path = .ok (.file (utf8Bytes content)) →
      Survives path content (load tree path) := by
  intro hall
  have hlines : writtenLines "3\n\x7b\"event\": \"resolve.failed\"\x7d\n".toList =
      [("3\n".toList, 1), ("\x7b\"event\": \"resolve.failed\"\x7d\n".toList, 2)] := by
    decide +kernel
  have hnumber : parseChars "3\n".toList = .ok (.int 3) := rfl
  obtain ⟨⟨ys, hys, _⟩, _, _⟩ := hall _ _ _ (reach_lone "3\n\x7b\"event\": \"resolve.failed\"\x7d\n")
  refine not_hasStop_of_yields hys ⟨("3\n".toList, 1), ?_, _, .notObject hnumber nofun⟩
  rw [hlines]
  exact List.mem_cons_self

end Journal

end Phrasing
