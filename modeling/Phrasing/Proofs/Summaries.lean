import Phrasing.Proofs.JournalText
import Phrasing.Proofs.Chronicle

/-! # Summaries of calls

The journal that a call leaves is read back entry by entry, and its summary says how the call ended, which references
it found, how many of them got a phrase, and what it failed with (`Chronicle.sumsUp`).
-/

namespace Phrasing

open Journal

namespace Resolver

variable {σ : Type} {service : Service σ} {r : Resolver} {entities : Value} {session : Session σ}
  {a : Activity} {result : Except Fault Unit} {told : List Event}

/-- Each response is entered or left out. -/
theorem length_phrases {responses : List GenerationResponse}
    (hlength : a.references.length = responses.length) :
    (phrases a responses).length = responses.countP (·.isResolved) := by
  have hzip : ∀ (names : List String) (responses : List GenerationResponse),
      names.length = responses.length →
      ((names.zip responses).filterMap entered?).length = responses.countP (·.isResolved) := by
    intro names
    induction names with
    | nil =>
      intro responses h
      rw [List.eq_nil_of_length_eq_zero h.symm]
      rfl
    | cons name names ih =>
      intro responses h
      cases responses with
      | nil => cases h
      | cons response responses =>
        have hrest := ih responses (Nat.succ.inj h)
        have hsome := isSome_entered? (name, response)
        rw [List.zip_cons_cons, List.filterMap_cons, List.countP_cons]
        cases hentered : entered? (name, response) with
        | none =>
          rw [hentered] at hsome
          have hunresolved : response.isResolved = false := hsome.symm
          rw [hunresolved]
          exact hrest
        | some e =>
          rw [hentered] at hsome
          have hresolved : response.isResolved = true := hsome.symm
          rw [hresolved]
          exact congrArg (· + 1) hrest
  exact hzip a.references responses hlength

/-- The phrases stand under distinct references. -/
theorem nodup_phrases {responses : List GenerationResponse}
    (hlength : a.references.length = responses.length) :
    ((phrases a responses).map Prod.fst).Nodup := by
  have hfst : (a.references.zip responses).map Prod.fst = a.references :=
    List.map_fst_zip (Nat.le_of_eq hlength)
  refine List.Nodup.sublist (keys_entries_sublist _) ?_
  rw [hfst]
  exact Activity.nodup_references a

/-! ## Sums -/

/-- The entries of the journal of a call that tells events. -/
def entriesOf (callId : String) (scenario : Value) (told : List Event) : List Entry :=
  told.map (⟨callId, scenario, ·⟩)

/-- **What a summary says of a call**: how it ended, which references it found, how many of them got a
phrase, and what it failed with. -/
structure SumsUp (service : Service σ) (r : Resolver) (entities : Value) (session : Session σ)
    (a : Activity) (entries : List (Scalar × Value)) (result : Except Fault Unit) (s : Summary) :
    Prop where
  /-- The call is told to have succeeded exactly if it returned. -/
  success_iff : s.status = .success ↔ result = .ok ()
  /-- It is told to have failed exactly if it ended in a fault and was not made to stop. -/
  failed_iff : s.status = .failed ↔ ∃ fault, result = .error fault ∧ fault.isInterruption = false
  /-- It is told to have no end exactly if it was made to stop. -/
  incomplete_iff : s.status = .incomplete ↔ ∃ fault, result = .error fault ∧ fault.isInterruption = true
  /-- The references are those of the activity if all entities have wire forms. -/
  references : (∀ e ∈ entries, WireValue.HasForm e.2) → s.references = .texts a.references
  /-- There are none if an entity has no wire form. -/
  unencodable : (∃ e ∈ entries, ¬ WireValue.HasForm e.2) → s.references = .list []
  /-- Where responses arrived for all references, those count that report a template and a text. -/
  delivered : ∀ responses, Delivered service r entities session a responses →
    s.resolvedCount = responses.countP (·.isResolved)
  /-- Otherwise none counts. -/
  undelivered : (¬ ∃ responses, Delivered service r entities session a responses) →
    s.resolvedCount = 0
  /-- A failure is told by its class, its text, its status and what was missing. -/
  failure : ∀ fault, result = .error fault → fault.isInterruption = false →
    s.failureValue = .object [("error_type", .text fault.label), ("error_message", .text fault.message),
      ("status_code", .ofNat? fault.status?), ("missing", (fault.missing?.map Value.texts).getD .null)]
  /-- Where there is none, null is told. -/
  noFailure : (∀ fault, result = .error fault → fault.isInterruption = true) → s.failureValue = .null

/-- What is delivered is determined. -/
theorem Delivered.unique {responses others : List GenerationResponse}
    (h : Delivered service r entities session a responses)
    (h' : Delivered service r entities session a others) : responses = others := by
  obtain ⟨slots, token, s, t, hslots, _, htoken, hfetch⟩ := h.fetchAll_eq
  obtain ⟨slots', token', s', t', hslots', _, htoken', hfetch'⟩ := h'.fetchAll_eq
  cases hslots.symm.trans hslots'
  cases htoken.symm.trans htoken'
  have hzip : a.references.zip responses = a.references.zip others :=
    Except.ok.inj (Prod.mk.inj (hfetch.symm.trans hfetch')).1
  have hsnd := congrArg (List.map Prod.snd) hzip
  rwa [List.map_snd_zip (Nat.le_of_eq h.length_eq.symm),
    List.map_snd_zip (Nat.le_of_eq h'.length_eq.symm)] at hsnd

section Sums

variable (callId : String) (scenario : Value)
  (h : Chronicle service r entities session a result told)

include h

/-- Nothing that is told before the end is one. -/
theorem Chronicle.firstOf?_end {type : String} (htype : type = "resolve.failed" ∨ type = "resolve.completed")
    (ends : List Event) :
    firstOf? type (entriesOf callId scenario (told ++ ends)) = firstOf? type (entriesOf callId scenario ends) := by
  rcases htype with rfl | rfl
  · cases h <;> rfl
  · cases h <;> rfl

variable {w : Writer} (hw : w.entries = entriesOf callId scenario (told ++ Event.endOf result))

include hw

/-- **The end that a journal tells** is that of the call. -/
theorem Chronicle.end_readBack :
    (result = .ok () ∧ Journal.status w.readBack = .success ∧ failure? w.readBack = none) ∨
      (∃ fault, result = .error fault ∧ fault.isInterruption = true ∧
        Journal.status w.readBack = .incomplete ∧ failure? w.readBack = none) ∨
      ∃ fault e, result = .error fault ∧ fault.isInterruption = false ∧
        Journal.status w.readBack = .failed ∧ failure? w.readBack = some e ∧
        .object (failureFields.map fun name => (name, e.getD name)) = (Incident.ofFault fault).toValue := by
  have hfailed := h.firstOf?_end callId scenario (.inl rfl) (Event.endOf result)
  have hcompleted := h.firstOf?_end callId scenario (.inr rfl) (Event.endOf result)
  rw [← hw] at hfailed hcompleted
  unfold Journal.status
  cases result with
  | ok done =>
    obtain ⟨m, rest, hcons⟩ := ofType_of_some hcompleted
    rw [failure?_of_none hfailed, hcons]
    exact .inl ⟨rfl, rfl, rfl⟩
  | error fault =>
    cases hstop : fault.isInterruption with
    | true =>
      rw [Event.endOf_interrupted hstop] at hfailed hcompleted
      rw [failure?_of_none hfailed, ofType_of_none hcompleted]
      exact .inr (.inl ⟨fault, rfl, hstop, rfl, rfl⟩)
    | false =>
      rw [Event.endOf_failed hstop] at hfailed
      obtain ⟨e, hsome, hvalue⟩ := failure?_of_some hfailed
      rw [hsome]
      exact .inr (.inr ⟨fault, e, rfl, hstop, rfl, rfl, hvalue⟩)

variable {entries : List (Scalar × Value)} (hgives : entities.Gives entries)

include hgives

theorem Chronicle.firstOf?_extracted :
    (∀ e ∈ entries, WireValue.HasForm e.2) ∧
        firstOf? "references.extracted" w.entries = some ⟨callId, scenario, recordedReferences a.references⟩ ∨
      (∃ e ∈ entries, ¬ WireValue.HasForm e.2) ∧ firstOf? "references.extracted" w.entries = none := by
  rw [hw]
  cases h with
  | unencodable hgives' hform hends =>
    cases hgives.unique hgives'
    rw [Event.endOf_failed hends]
    exact .inr ⟨hform, rfl⟩
  | nothing hgives' hform | undelivered hgives' hform =>
    cases hgives.unique hgives'
    exact .inl ⟨hform, rfl⟩
  | incomplete h | complete h => exact .inl ⟨(h.encoded hgives).1, rfl⟩

theorem Chronicle.firstOf?_fetched :
    (∃ responses, Delivered service r entities session a responses ∧
        firstOf? "fetch.completed" w.entries = some ⟨callId, scenario, recordedTable (phrases a responses)⟩) ∨
      (¬ ∃ responses, Delivered service r entities session a responses) ∧
        firstOf? "fetch.completed" w.entries = none := by
  rw [hw]
  cases h with
  | unencodable hgives' hform hends =>
    cases hgives.unique hgives'
    obtain ⟨e, he, hform⟩ := hform
    rw [Event.endOf_failed hends]
    exact .inr ⟨fun ⟨_, h⟩ => hform ((h.encoded hgives).1 e he), rfl⟩
  | nothing _ _ hnone => exact .inr ⟨fun ⟨_, h⟩ => (h.encoded hgives).2 hnone, rfl⟩
  | @undelivered _ fault _ _ _ hno =>
    refine .inr ⟨hno, ?_⟩
    cases hstop : fault.isInterruption with
    | true => rw [Event.endOf_interrupted hstop]; rfl
    | false => rw [Event.endOf_failed hstop]; rfl
  | incomplete h _ => exact .inl ⟨_, h, rfl⟩
  | complete h _ => exact .inl ⟨_, h, rfl⟩

/-- The phrases that a journal tells of are those that were delivered. -/
theorem Chronicle.exists_count : ∃ count,
    Event.sizeOf (Journal.resolutions w.readBack) = .ok count ∧
      (∀ responses, Delivered service r entities session a responses →
        count = responses.countP (·.isResolved)) ∧
      ((¬ ∃ responses, Delivered service r entities session a responses) → count = 0) := by
  have hfetched := h.firstOf?_fetched callId scenario hw hgives
  rcases hfetched with ⟨responses, hresponses, hfirst⟩ | ⟨hno, hfirst⟩
  · have hkeys : (((phrases a responses).map fun phrase => (phrase.1, Value.text phrase.2)).map
        Prod.fst).Nodup := by
      have hnames := nodup_phrases (a := a) hresponses.length_eq
      simpa [Function.comp_def] using hnames
    refine ⟨(phrases a responses).length, ?_, ?_, fun hno => absurd ⟨_, hresponses⟩ hno⟩
    · rw [resolutions_of_some hfirst, Json.reading_object hkeys]
      unfold Value.object Event.sizeOf Json.readingFields
      simp only [List.length_map]
    · intro others hothers
      rw [hothers.unique hresponses, length_phrases hresponses.length_eq]
  · refine ⟨0, ?_, fun responses h => absurd ⟨_, h⟩ hno, fun _ => rfl⟩
    rw [resolutions_of_none hfirst]
    rfl

/-- The references that a journal tells are those of the activity, unless an entity has no wire form. -/
theorem Chronicle.references_readBack :
    ((∀ e ∈ entries, WireValue.HasForm e.2) → Journal.references w.readBack = .texts a.references) ∧
      ((∃ e ∈ entries, ¬ WireValue.HasForm e.2) → Journal.references w.readBack = .list []) := by
  have hextracted := h.firstOf?_extracted callId scenario hw hgives
  rcases hextracted with ⟨hall, hfirst⟩ | ⟨⟨e, he, hform⟩, hfirst⟩
  · refine ⟨fun _ => ?_, fun ⟨e, he, hform⟩ => absurd (hall e he) hform⟩
    rw [references_of_some hfirst, Json.reading_texts]
  · exact ⟨fun hall => absurd (hall e he) hform, fun _ => references_of_none hfirst⟩

/-- **The journal of a call sums it up.** -/
theorem Chronicle.sumsUp :
    ∃ s, summary w.readBack = .ok s ∧ SumsUp service r entities session a entries result s := by
  obtain ⟨count, hcount, hdelivered, hundelivered⟩ := h.exists_count callId scenario hw hgives
  obtain ⟨hreferences, hunencodable⟩ := h.references_readBack callId scenario hw hgives
  obtain ⟨s, hsummary, hstatus, hnames, rfl, hfailure⟩ : ∃ s, summary w.readBack = .ok s ∧
      s.status = Journal.status w.readBack ∧ s.references = Journal.references w.readBack ∧
      s.resolvedCount = count ∧ s.failure = failure? w.readBack := by
    unfold summary
    rw [hcount]
    exact ⟨_, rfl, rfl, rfl, rfl, rfl⟩
  refine ⟨s, hsummary, ?_⟩
  rw [← hnames] at hreferences hunencodable
  rcases h.end_readBack callId scenario hw with ⟨rfl, htold, hnone⟩ | ⟨fault, rfl, hstop, htold, hnone⟩ |
    ⟨fault, e, rfl, hstop, htold, hsome, hvalue⟩
  · rw [htold] at hstatus
    rw [hnone] at hfailure
    exact ⟨by simp [hstatus], by simp [hstatus], by simp [hstatus], hreferences, hunencodable, hdelivered,
      hundelivered, fun _ h => (by cases h), fun _ => by rw [Summary.failureValue, hfailure]⟩
  · rw [htold] at hstatus
    rw [hnone] at hfailure
    refine ⟨by simp [hstatus], by simp [hstatus, hstop], by simp [hstatus, hstop], hreferences, hunencodable,
      hdelivered, hundelivered, ?_, fun _ => by rw [Summary.failureValue, hfailure]⟩
    intro other hother hends
    cases hother
    cases hstop.symm.trans hends
  · rw [htold] at hstatus
    rw [hsome] at hfailure
    refine ⟨by simp [hstatus], by simp [hstatus, hstop], by simp [hstatus, hstop], hreferences, hunencodable,
      hdelivered, hundelivered, ?_, ?_⟩
    · intro other hother _
      cases hother
      rw [Summary.failureValue, hfailure]
      exact hvalue
    · intro hall
      cases hstop.symm.trans (hall fault rfl)

end Sums

end Resolver

end Phrasing
