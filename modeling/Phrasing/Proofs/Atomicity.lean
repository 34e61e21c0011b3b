import Phrasing.Proofs.Places
import Phrasing.Proofs.Resolution

/-! # A call that fails leaves the subject alone

All courses that end in a fault end before the subject is written to, but for one: the subject refuses a text.  Nothing
else stops the writing, since what could stop it has stopped the search for references before
(`Subject.fill_not_stopped_iff`); and only an attribute of an object in memory can refuse.
-/

namespace Phrasing.Resolver

variable {σ : Type} {service : Service σ} {r : Resolver}

/-- Of the courses that end in a fault, only that on which the subject refuses a text has written to it. -/
theorem Course.subject_of_error {entities : Value} {c call : Call σ} {fault : Fault}
    (h : r.Course service entities c (.error fault) call) :
    call.subject = c.subject ∨ ∃ table mishap, c.subject.Refuses table mishap := by
  cases h with
  | stopped h _ hfill => exact .inr ⟨_, _, Subject.refuses_of_fill_stopped h.finds hfill⟩
  | unbegun | unencodable | unsearchable | unlisted | noToken | noResponses | incomplete => exact .inl rfl

/-- A call that ends in a fault leaves the subject as it was, unless that refuses a text. -/
theorem subject_of_error {callId : String} {subject : Option Subject} {entities : Value} {session : Session σ}
    {fault : Fault} (h : (resolve service r callId subject entities session).result = .error fault) :
    (resolve service r callId subject entities session).subject = subject ∨
      ∃ s table mishap, subject = some s ∧ s.Refuses table mishap := by
  cases hchecked : checkArguments subject entities with
  | error _ =>
    rw [resolve_unchecked hchecked]
    exact .inl rfl
  | ok s =>
    cases hjournal : r.startJournal callId with
    | error m =>
      rw [resolve_unrecorded hchecked hjournal]
      exact .inl rfl
    | ok journal =>
      obtain ⟨result, call, hcourse, hresolve⟩ := resolve_course service session hchecked hjournal
      rw [hresolve] at h ⊢
      cases h
      rw [subject_of_checkArguments hchecked]
      refine hcourse.subject_of_error.imp (congrArg some) ?_
      rintro ⟨table, mishap, hrefuses⟩
      exact ⟨s, table, mishap, rfl, hrefuses⟩

/-- An object whose text could be filled in, but whose speech is no text. -/
def mumbler : Subject :=
  .loose (.record [("text", .text "[greeting]"), ("speak", .int 7)])

/-- An object that can be written to, with an action that cannot. -/
def engraved : Memory where
  typeName _ := "Card"
  attribute? p :=
    match p.id, p.name with
    | 0, "text" => some ⟨.value (.text "[greeting]!"), none⟩
    | 0, "suggested_actions" => some ⟨.object 1, none⟩
    | 1, "actions" => some ⟨.items "list" [.object 2], none⟩
    | 2, "text" => some ⟨.value (.text "[greeting]"), some (.reported "AttributeError" "can't set attribute")⟩
    | _, _ => none

/-- The text of the object itself is filled in by then. -/
example : (lobby.resolve greeter "call" (some (.object engraved 0)) .null (.start ())).subject.map Subject.searched =
    some ["Hello!", "[greeting]"] := by
  decide +kernel

end Phrasing.Resolver
