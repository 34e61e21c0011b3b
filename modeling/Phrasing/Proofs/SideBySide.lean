import Phrasing.Proofs.Course

/-! # Calls side by side

One call under two circumstances is compared stage by stage.  Two stages go side by side if from calls in some
relation they come to results that belong together and to calls in the same relation (`Stage.SideBySide`); faults
belong together if they are in a relation of their own.  For relations that outlast what a call does to itself
(`Call.Bond`) only the fetching of phrases has to be looked at: if that goes side by side, so do all stages of a call
(`Resolver.sideBySide_stages`), and so does what is done about their end (`Resolver.bond_closing`).
-/

namespace Phrasing

variable {σ τ : Type} {α α' β β' : Type} {E : Fault → Fault → Prop}

/-! ## Results that belong together -/

/-- Two results belong together: both are faults or both are values, and these belong together. -/
inductive Paired (E : Fault → Fault → Prop) (P : α → α' → Prop) : Except Fault α → Except Fault α' → Prop where
  | ok {a : α} {a' : α'} (h : P a a') : Paired E P (.ok a) (.ok a')
  | error {f f' : Fault} (h : E f f') : Paired E P (.error f) (.error f')

namespace Paired

variable {P : α → α' → Prop} {Q : β → β' → Prop}

theorem refl (hE : ∀ f, E f f) (x : Except Fault α) : Paired E Eq x x := by
  cases x with
  | error f => exact .error (hE f)
  | ok a => exact .ok rfl

theorem eq {x y : Except Fault α} (h : Paired Eq Eq x y) : x = y := by
  cases h with
  | error h => rw [h]
  | ok h => rw [h]

theorem bind {x : Except Fault α} {x' : Except Fault α'} {f : α → Except Fault β}
    {f' : α' → Except Fault β'} (hx : Paired E P x x')
    (hf : ∀ a a', P a a' → Paired E Q (f a) (f' a')) : Paired E Q (x >>= f) (x' >>= f') := by
  cases hx with
  | error h => exact .error h
  | ok h => exact hf _ _ h

/-- Results that are read alike still belong together. -/
theorem bind_same (hE : ∀ f, E f f) {x x' : Except Fault α} (hx : Paired E Eq x x') (f : α → Except Fault β) :
    Paired E Eq (x >>= f) (x' >>= f) :=
  hx.bind fun _ _ h => h ▸ refl hE _

/-- What belongs together in a relation of faults does so in any wider one. -/
theorem mono {E' : Fault → Fault → Prop} (hE : ∀ f f', E f f' → E' f f') {x : Except Fault α}
    {x' : Except Fault α'} (h : Paired E P x x') : Paired E' P x x' := by
  cases h with
  | error h => exact .error (hE _ _ h)
  | ok h => exact .ok h

end Paired

/-! ## Stages -/

/-- Relations of faults and of calls that outlast what a call does to itself.  Related calls have the same subject and
refuse the same events for their journals; they stay related when both record the same event, give the same notices or
have their subject replaced, and when their ends in related faults are noticed and recorded. -/
structure Call.Bond (E : Fault → Fault → Prop) (C : Call σ → Call τ → Prop) : Prop where
  refl : ∀ f, E f f
  stops : ∀ {f f'}, E f f' → f.isInterruption = f'.isInterruption
  subject : ∀ {c d}, C c d → c.subject = d.subject
  check : ∀ {c d}, C c d → ∀ event, c.check event = d.check event
  checkEnd : ∀ {c d f f'}, C c d → E f f' → c.check (.failed (.ofFault f)) = d.check (.failed (.ofFault f'))
  recorded : ∀ {c d}, C c d → ∀ event, C (c.recorded event) (d.recorded event)
  recordedEnd : ∀ {c d f f'}, C c d → E f f' →
    C (c.recorded (.failed (.ofFault f))) (d.recorded (.failed (.ofFault f')))
  note : ∀ {c d}, C c d → ∀ notices, C (c.note notices) (d.note notices)
  noteEnd : ∀ {c d f f'}, C c d → E f f' → ∀ callId,
    C (c.note [Resolver.failureNotice callId f]) (d.note [Resolver.failureNotice callId f'])
  fill : ∀ {c d}, C c d → ∀ s, C { c with subject := s } { d with subject := s }

namespace Stage

/-- Two stages go side by side: from related calls they come to results that belong together and to calls
that are related again. -/
def SideBySide (E : Fault → Fault → Prop) (C : Call σ → Call τ → Prop) (P : α → α' → Prop) (x : Stage σ α)
    (y : Stage τ α') : Prop :=
  ∀ c d, C c d → Paired E P (x.run c).1 (y.run d).1 ∧ C (x.run c).2 (y.run d).2

namespace SideBySide

variable {C : Call σ → Call τ → Prop} {P : α → α' → Prop} {Q : β → β' → Prop}

theorem bind {x : Stage σ α} {y : Stage τ α'} {f : α → Stage σ β} {g : α' → Stage τ β'}
    (hx : SideBySide E C P x y) (hf : ∀ a a', P a a' → SideBySide E C Q (f a) (g a')) :
    SideBySide E C Q (x >>= f) (y >>= g) := by
  intro c d h
  have hx := hx c d h
  rw [run_bind, run_bind]
  generalize x.run c = left at hx
  generalize y.run d = right at hx
  obtain ⟨result, c'⟩ := left
  obtain ⟨result', d'⟩ := right
  obtain ⟨hresults, hcalls⟩ := hx
  cases hresults with
  | error h => exact ⟨.error h, hcalls⟩
  | ok ha => exact hf _ _ ha c' d' hcalls

theorem ofExcept {x : Except Fault α} {y : Except Fault α'} (h : Paired E P x y) :
    SideBySide E C P (Stage.ofExcept x) (Stage.ofExcept y) :=
  fun _ _ hcalls => ⟨h, hcalls⟩

theorem get : SideBySide E C C (get : Stage σ (Call σ)) (get : Stage τ (Call τ)) :=
  fun _ _ hcalls => ⟨.ok hcalls, hcalls⟩

theorem modify {f : Call σ → Call σ} {g : Call τ → Call τ} (h : ∀ c d, C c d → C (f c) (g d)) :
    SideBySide E C Eq (modify f : Stage σ Unit) (modify g : Stage τ Unit) :=
  fun c d hcalls => ⟨.ok rfl, h c d hcalls⟩

/-- Two events are recorded side by side if the journals can hold both or neither, for the same reason. -/
theorem record_of (hE : ∀ f, E f f) {event event' : Journal.Event}
    (hcheck : ∀ c d, C c d → c.check event = d.check event')
    (hrecorded : ∀ c d, C c d → C (c.recorded event) (d.recorded event')) :
    SideBySide E C Eq (Stage.record event : Stage σ Unit) (Stage.record event' : Stage τ Unit) := by
  intro c d hcalls
  cases hc : c.check event with
  | error m =>
    rw [run_record_error hc, run_record_error ((hcheck c d hcalls).symm.trans hc)]
    exact ⟨.error (hE _), hcalls⟩
  | ok _ =>
    rw [run_record hc, run_record ((hcheck c d hcalls).symm.trans hc)]
    exact ⟨.ok rfl, hrecorded c d hcalls⟩

theorem record (hC : Call.Bond E C) (event : Journal.Event) :
    SideBySide E C Eq (Stage.record event : Stage σ Unit) (Stage.record event : Stage τ Unit) :=
  record_of hC.refl (fun _ _ hcalls => hC.check hcalls event) fun _ _ hcalls => hC.recorded hcalls event

end SideBySide

end Stage

namespace Resolver

section Stages

variable {C : Call σ → Call τ → Prop} {service : Service σ} {service' : Service τ} {r r' : Resolver}

theorem sideBySide_write (hC : Call.Bond E C) (table : Reference.Table) :
    Stage.SideBySide E C Eq (write table : Stage σ Unit) (write table : Stage τ Unit) := by
  unfold write
  refine .bind .get fun c d hcalls => ?_
  rw [hC.subject hcalls]
  generalize d.subject.fill table = filled
  obtain ⟨filled, stopped⟩ := filled
  refine .bind (.modify fun _ _ hcalls => hC.fill hcalls _) fun _ _ _ => ?_
  cases stopped with
  | none => exact .ofExcept (.ok rfl)
  | some m => exact .ofExcept (.error (hC.refl _))

/-- **All stages of a call go side by side** if fetching does and what is recorded at the start can differ as
it may. -/
theorem sideBySide_stages (hC : Call.Bond E C) (entities : Value)
    (hstart : ∀ s, Stage.SideBySide E C Eq (Stage.record (r.recordedStart entities s))
      (Stage.record (r'.recordedStart entities s)))
    (hfetch : ∀ s slots names, Stage.SideBySide E C Eq (fetchTable service r (r.localeOf s) slots names)
      (fetchTable service' r' (r'.localeOf s) slots names)) :
    Stage.SideBySide E C Eq (stages service r entities) (stages service' r' entities) := by
  unfold stages
  refine .bind .get fun c d hbefore => ?_
  rw [hC.subject hbefore]
  refine (hstart _).bind fun _ _ _ => ?_
  refine .bind (.ofExcept (.refl hC.refl _)) fun slots _ hslots => ?_
  cases hslots
  refine .bind .get fun c d hfound => ?_
  rw [hC.subject hfound]
  refine .bind (.ofExcept (.refl hC.refl _)) fun names _ hnames => ?_
  cases hnames
  refine .bind (.record hC _) fun _ _ _ => ?_
  split
  · exact .record hC _
  · refine (hfetch _ slots names).bind fun table _ htable => ?_
    cases htable
    refine .bind (.record hC _) fun _ _ _ => ?_
    refine .bind (.ofExcept (.refl hC.refl _)) fun _ _ _ => ?_
    exact (sideBySide_write hC table).bind fun _ _ _ => .record hC _

/-- **What is done about the ends of two calls** goes side by side if the results do. -/
theorem bond_closing (hC : Call.Bond E C) (callId : String) {x y : Except Fault Unit} (h : Paired E Eq x y)
    {c : Call σ} {d : Call τ} (hcalls : C c d) :
    Paired E Eq (closing callId x c).1 (closing callId y d).1 ∧ C (closing callId x c).2 (closing callId y d).2 := by
  cases h with
  | ok _ => exact ⟨.ok rfl, hcalls⟩
  | @error f f' h =>
    cases hstop : f.isInterruption with
    | true =>
      rw [closing_of_interruption hstop, closing_of_interruption ((hC.stops h).symm.trans hstop)]
      exact ⟨.error h, hcalls⟩
    | false =>
      have hstop' := (hC.stops h).symm.trans hstop
      have hcheck := hC.checkEnd hcalls h
      have hnoted := hC.noteEnd hcalls h callId
      cases hc : c.check (.failed (.ofFault f)) with
      | error m =>
        rw [closing_of_check_error hstop hc, closing_of_check_error hstop' (hcheck.symm.trans hc)]
        exact ⟨.error (hC.refl _), hnoted⟩
      | ok _ =>
        rw [closing_of_check hstop hc, closing_of_check hstop' (hcheck.symm.trans hc)]
        exact ⟨.error h, hC.recordedEnd hnoted h⟩

end Stages

end Resolver

end Phrasing
