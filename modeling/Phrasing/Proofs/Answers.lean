import Phrasing.Proofs.Exchange

/-! # Answers that bring phrases

`Client.Brings` says when what came back for a request brings a phrase, and `brings_iff` that these
are exactly the answers that end in a resolved response.  The responses of a joint fetch are then
paired with the answers of the service request by request (`mem_zip_responses`).
-/

namespace Phrasing

theorem GenerationResponse.ofValue_eq_ok {document : Value} {response : GenerationResponse}
    (h : ofValue document = .ok response) : response.template = document.getD "templateId" := by
  unfold ofValue at h
  split at h
  · cases h
    rfl
  · obtain ⟨text, _, rfl⟩ := map_eq_ok.mp h
    rfl

/-- The text of a response is the decoded text to display. -/
theorem GenerationResponse.displayText_eq_some {document : Value} {response : GenerationResponse}
    {phrase : String} (h : ofValue document = .ok response) :
    response.displayText = some phrase ↔ WireValue.decode (displayValue document) = .ok phrase := by
  unfold ofValue at h
  split at h
  · rename_i hnull
    cases h
    rw [hnull]
    constructor
    · intro h
      cases h
    · intro h
      cases h
  · obtain ⟨text, htext, rfl⟩ := map_eq_ok.mp h
    rw [htext]
    exact ⟨fun h => congrArg Except.ok (Option.some.inj h),
      fun h => congrArg some (Except.ok.inj h)⟩

namespace Client

/-- What came back for a request brings a phrase: a reply that tells of success, with a document
that reports a template, whichever it is, and whose text to display decodes to the phrase. -/
def Brings (request : Request) (answer : Answer) (phrase : String) : Prop :=
  ∃ reply document, answer.received request.address = .ok (.reply reply) ∧ reply.isSuccess = true ∧
    readDocument reply = .ok document ∧ (document.getD "templateId").isNull = false ∧
    WireValue.decode (GenerationResponse.displayValue document) = .ok phrase

/-- Only a reply that tells of success is judged to be one. -/
theorem judge_eq_ok {purpose : Purpose} {answer : Answer} {reply : Reply} :
    (judge purpose answer).1 = .ok reply ↔ answer = .reply reply ∧ reply.isSuccess = true := by
  constructor
  · intro h
    have hjudged := judged purpose answer
    rw [h] at hjudged
    cases hjudged with
    | success hsuccess => exact ⟨rfl, hsuccess⟩
  · rintro ⟨rfl, hsuccess⟩
    rw [judge, if_pos hsuccess]

theorem conclude_eq_ok {purpose : Purpose} {request : Request} {answer : Answer} {reply : Reply} :
    (conclude purpose request answer).1 = .ok reply ↔
      answer.received request.address = .ok (.reply reply) ∧ reply.isSuccess = true := by
  unfold conclude
  cases answer.received request.address with
  | error m => simp
  | ok received => simp only [judge_eq_ok, Except.ok.injEq]

theorem phraseResult_eq_ok {request : Request} {answer : Answer} {response : GenerationResponse} :
    phraseResult request answer = .ok response ↔
      ∃ reply document, answer.received request.address = .ok (.reply reply) ∧
        reply.isSuccess = true ∧
        readDocument reply = .ok document ∧ GenerationResponse.ofValue document = .ok response := by
  constructor
  · intro h
    obtain ⟨document, h, hresponse⟩ := bind_eq_ok.mp h
    obtain ⟨reply, h, hdocument⟩ := bind_eq_ok.mp h
    obtain ⟨hreceived, hsuccess⟩ := conclude_eq_ok.mp h
    exact ⟨reply, document, hreceived, hsuccess, hdocument, hresponse⟩
  · rintro ⟨reply, document, hreceived, hsuccess, hdocument, hresponse⟩
    exact bind_eq_ok.mpr ⟨document,
      bind_eq_ok.mpr ⟨reply, conclude_eq_ok.mpr ⟨hreceived, hsuccess⟩, hdocument⟩, hresponse⟩

/-- **An answer brings a phrase** exactly when it ends in a resolved response with that text. -/
theorem brings_iff {request : Request} {answer : Answer} {phrase : String} :
    Brings request answer phrase ↔ ∃ response, phraseResult request answer = .ok response ∧
      response.isResolved = true ∧ response.displayText = some phrase := by
  constructor
  · rintro ⟨reply, document, hreceived, hsuccess, hdocument, htemplate, hphrase⟩
    cases hvalue : GenerationResponse.ofValue document with
    | error fault =>
      -- A document is refused for a text to display that cannot be decoded, and this one was.
      unfold GenerationResponse.ofValue at hvalue
      split at hvalue
      · cases hvalue
      · rw [hphrase] at hvalue
        cases hvalue
    | ok response =>
      have htext := (GenerationResponse.displayText_eq_some hvalue).mpr hphrase
      have hresult := phraseResult_eq_ok.mpr
        ⟨reply, document, hreceived, hsuccess, hdocument, hvalue⟩
      refine ⟨response, hresult, ?_, htext⟩
      rw [GenerationResponse.isResolved, GenerationResponse.ofValue_eq_ok hvalue, htemplate, htext]
      rfl
  · rintro ⟨response, hresult, hresolved, htext⟩
    obtain ⟨reply, document, hreceived, hsuccess, hdocument, hvalue⟩ :=
      phraseResult_eq_ok.mp hresult
    refine ⟨reply, document, hreceived, hsuccess, hdocument, ?_,
      (GenerationResponse.displayText_eq_some hvalue).mp htext⟩
    rw [GenerationResponse.isResolved, GenerationResponse.ofValue_eq_ok hvalue] at hresolved
    rw [Bool.and_eq_true, Bool.not_eq_true'] at hresolved
    exact hresolved.1

/-- **Responses and answers belong together request by request.** -/
theorem mem_zip_responses {make : String → Request} {names : List String} {arrivals : List Arrival}
    {responses : List GenerationResponse} (hlength : arrivals.length = names.length)
    (h : List.zipWith (fun request arrival => phraseResult request arrival.answer)
      (names.map make) arrivals =
      responses.map .ok) (name : String) (response : GenerationResponse) :
    (name, response) ∈ names.zip responses ↔
      ∃ arrival, (name, arrival) ∈ names.zip arrivals ∧
        phraseResult (make name) arrival.answer = .ok response := by
  induction names generalizing arrivals responses with
  | nil => simp
  | cons first names ih =>
    cases arrivals with
    | nil => cases hlength
    | cons arrival arrivals =>
      cases responses with
      | nil => cases h
      | cons response' responses =>
        simp only [List.map_cons, List.zipWith_cons_cons, List.cons.injEq] at h
        obtain ⟨hfirst, hrest⟩ := h
        have hrest := ih (Nat.succ.inj hlength) hrest
        simp only [List.zip_cons_cons, List.mem_cons, Prod.mk.injEq]
        constructor
        · rintro (⟨rfl, rfl⟩ | hmem)
          · exact ⟨arrival, .inl ⟨rfl, rfl⟩, hfirst⟩
          · obtain ⟨arrival', hmem, hresult⟩ := hrest.mp hmem
            exact ⟨arrival', .inr hmem, hresult⟩
        · rintro ⟨arrival', ⟨rfl, rfl⟩ | hmem, hresult⟩
          · exact .inl ⟨rfl, Except.ok.inj (hresult.symm.trans hfirst)⟩
          · exact .inr (hrest.mpr ⟨arrival', hmem, hresult⟩)

end Client

end Phrasing
