import Phrasing.Proofs.Exchange
import Phrasing.Proofs.Spelling
import Phrasing.Resolver

/-! # What a journal can hold

Every entry of a journal names the call and its scenario, so it can be written if the scenario can, and the fields
of its event can (`Entry.check_eq`).  The failure and the completion of a call can always be written as far as
their fields go.  So a call of which one event is on record can also record how it ends (`Call.check_completed`,
`Call.check_failed`); and where not even the failure to record an event can be recorded, it is for the same reason
(`Call.eq_of_check_failed`).
-/

namespace Phrasing

variable {σ : Type}

open Client (IsTold)

namespace Journal

/-- How deep collections may stand in each other in a field of an entry. -/
def fieldLevels : Nat := 969

/-- Refuses an event with a field that cannot be written. -/
def Event.checkFields (event : Event) : Except Mishap Unit :=
  Json.checkEntries fieldLevels (event.fields.map fun (name, v) => (.text name, v))

/-- **An entry can be written** if its scenario and the fields of its event can. -/
theorem Entry.check_eq (e : Entry) :
    e.check = (do Json.check fieldLevels e.scenario; e.event.checkFields) := by
  have hfields : e.check = Json.checkEntries fieldLevels (e.fields.map fun (name, v) => (.text name, v)) := rfl
  rw [hfields, Entry.fields, List.map_append, List.map_append, Json.checkEntries_append, Json.checkEntries_append]
  simp only [List.map_cons, List.map_nil, Json.checkEntries_text_cons, Json.check_text, Json.checkEntries_nil,
    ok_then, then_ok]
  rfl

@[simp] theorem checkFields_completed : Event.completed.checkFields = .ok () := rfl

/-- The finding of references can be recorded unless they are too many to be counted. -/
theorem checkFields_extracted (names : List String) (count : Nat) :
    (Event.extracted (.texts names) count).checkFields = (Scalar.int count).checkDigits := by
  have hnames : Json.check fieldLevels (.texts names) = .ok () := Json.check_texts names
  rw [Event.checkFields]
  simp only [Event.fields, List.map_cons, List.map_nil, Json.checkEntries_text_cons, hnames, Json.check_scalar,
    Json.checkEntries_nil, ok_then, then_ok]

/-- So can the arrival of phrases. -/
theorem checkFields_fetched (table : List (String × String)) (count : Nat) :
    (Event.fetched (.object (table.map fun (name, phrase) => (name, .text phrase))) count).checkFields =
      (Scalar.int count).checkDigits := by
  have htable : Json.check fieldLevels (.object (table.map fun (name, phrase) => (name, .text phrase))) = .ok () := by
    refine Json.checkEntries_eq_ok.mpr fun e he => ?_
    rw [List.map_map] at he
    obtain ⟨entry, _, rfl⟩ := List.mem_map.mp he
    exact ⟨rfl, Json.check_text _⟩
  rw [Event.checkFields]
  simp only [Event.fields, List.map_cons, List.map_nil, Json.checkEntries_text_cons, htable, Json.check_scalar,
    Json.checkEntries_nil, ok_then, then_ok]

/-- A failure can be recorded if its status can be told. -/
theorem checkFields_failed {i : Incident} (h : ∀ status, i.status = some status → IsTold status) :
    (Event.failed i).checkFields = .ok () := by
  have hstatus : Json.check fieldLevels (.ofNat? i.status) = .ok () := by
    cases hi : i.status with
    | none => rfl
    | some status => exact Json.check_scalar.trans (Scalar.checkDigits_eq_ok.mpr (h status hi))
  have hmissing : Json.check fieldLevels ((i.missing.map Value.texts).getD .null) = .ok () := by
    cases i.missing with
    | none => rfl
    | some names => exact Json.check_texts names
  rw [Event.checkFields]
  simp only [Event.fields, List.map_cons, List.map_nil, Json.checkEntries_text_cons, Json.check_text, hstatus,
    hmissing, Json.checkEntries_nil, ok_then]

end Journal

/-- A smaller number than one that can be written can be. -/
theorem Scalar.isWritable_of_le {m n : Nat} (h : m ≤ n) (hn : (Scalar.int n).isWritable = true) :
    (Scalar.int m).isWritable = true := by
  have hn' : decide (n < Nat.pow 10 mostDigits) = true := hn
  have hm : decide (m < Nat.pow 10 mostDigits) = true :=
    decide_eq_true (Nat.lt_of_le_of_lt h (of_decide_eq_true hn'))
  exact hm

/-! ## Calls -/

namespace Call

variable {c : Call σ} {event : Journal.Event}

@[simp] theorem recorded_session (event : Journal.Event) (c : Call σ) :
    (c.recorded event).session = c.session := rfl

@[simp] theorem recorded_subject (event : Journal.Event) (c : Call σ) :
    (c.recorded event).subject = c.subject := rfl

@[simp] theorem note_subject (notices : List Notice) (c : Call σ) : (c.note notices).subject = c.subject := rfl

/-- What a journal holds already is no reason to refuse an event. -/
theorem check_recorded (other : Journal.Event) : (c.recorded other).check event = c.check event := by
  unfold check recorded
  cases c.journal <;> rfl

/-- A journal of some scenario refuses events for their fields or for the scenario. -/
theorem check_eq {w : Journal.Writer} (h : c.journal = some w) (event : Journal.Event) :
    c.check event = (do Json.check Journal.fieldLevels w.scenario; event.checkFields) := by
  rw [check, h]
  exact Journal.Entry.check_eq _

theorem check_none (h : c.journal = none) (event : Journal.Event) : c.check event = .ok () := by
  rw [check, h]

/-- An event whose own fields can be written is recorded where another one was. -/
theorem check_of_checkFields {other : Journal.Event} (h : c.check event = .ok ())
    (hother : other.checkFields = .ok ()) : c.check other = .ok () := by
  cases hj : c.journal with
  | none => exact check_none hj other
  | some w =>
    rw [check_eq hj, checks_eq_ok] at h
    rw [check_eq hj, checks_eq_ok]
    exact ⟨h.1, hother⟩

/-- **A call that has recorded anything can record its completion.** -/
theorem check_completed (h : c.check event = .ok ()) : c.check .completed = .ok () :=
  check_of_checkFields h Journal.checkFields_completed

/-- **So can it record a failure** whose status can be told. -/
theorem check_failed {i : Journal.Incident} (h : c.check event = .ok ())
    (hi : ∀ status, i.status = some status → IsTold status) : c.check (.failed i) = .ok () :=
  check_of_checkFields h (Journal.checkFields_failed hi)

/-- **If neither an event nor a failure can be recorded**, both cannot for the sake of the scenario. -/
theorem eq_of_check_failed {i : Journal.Incident} {m m' : Mishap} (h : c.check event = .error m)
    (hi : ∀ status, i.status = some status → IsTold status) (hfailed : c.check (.failed i) = .error m') :
    m' = m := by
  cases hj : c.journal with
  | none =>
    rw [check_none hj] at h
    cases h
  | some w =>
    rw [check_eq hj] at h hfailed
    rw [Journal.checkFields_failed hi, then_ok] at hfailed
    rw [hfailed] at h
    cases h
    rfl

end Call

end Phrasing
