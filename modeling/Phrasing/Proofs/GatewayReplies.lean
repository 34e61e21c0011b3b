import Phrasing.Proofs.Layers

/-! # What a client tells of the replies of a gateway

A reply with any status but one of success is due to be reported, with what it says: the detail in its document, the
whole document if there is none, or the mere text (`Says`, `Due`).  The client reports it if it has an error status,
and its document is an object or its text is no document (`Reportable`); those are all (`due_iff`).  It asks every
document for the detail, objects or not, it takes every status that tells of no error for one of success, and a few
bodies have neither a document nor a text: `Astray` lists what comes then, and `due_or_astray` proves that
nothing else comes.
-/

namespace Phrasing

open Text

/-! ## Texts that cannot be read -/

namespace Charset

/-- Character sets that do not give a text for every body. -/
inductive IsPartial : Charset → Prop where
  | punycode : IsPartial .punycode
  | names : IsPartial (.unusable .names)
  | undefined : IsPartial (.unusable .undefined)

/-- **A body without a text** is in one of these sets, and the mishap counts as one of a body without a
document. -/
theorem decodeWhole_eq_error {set : Charset} {bytes : List UInt8} {m : Mishap}
    (h : set.decodeWhole bytes = .error m) :
    set.IsPartial ∧ Remote.Incoming.lacksDocument m = true := by
  cases set with
  | unicode | codePage | doubleByte | shifting | utf7 | escaped => cases h
  | punycode =>
    have hpunycode : ofPunycode bytes = .error m := h
    unfold ofPunycode at hpunycode
    dsimp only at hpunycode
    split at hpunycode
    · cases hpunycode
      exact ⟨.punycode, rfl⟩
    · cases hpunycode
  | unusable reason =>
    cases reason with
    | names =>
      cases h
      exact ⟨.names, by decide⟩
    | undefined =>
      cases h
      exact ⟨.undefined, by decide⟩
    | rotation | bytes => cases h

end Charset

namespace Remote

namespace Incoming

variable {r : Incoming} {m : Mishap}

/-- The character set in the content type of a reply can be read off, if it names one. -/
def Labelled (r : Incoming) : Prop :=
  ∃ name, charsetName? r.contentType = .ok name

theorem labelled_or (r : Incoming) : r.Labelled ∨ charsetName? r.contentType = .error (.noAttribute "bool" "strip") := by
  unfold Labelled charsetName?
  split
  · exact .inl ⟨_, rfl⟩
  · dsimp only
    split
    · exact .inr rfl
    · exact .inl ⟨_, rfl⟩
    · exact .inl ⟨_, rfl⟩

variable [TextGuess]

/-- The name of the character set of a reply whose text cannot be read. -/
theorem chars_eq_error (hlabelled : r.Labelled) (h : r.chars = .error m) :
    ∃ name set, charsetName? r.contentType = .ok (some name) ∧ Charset.ofName? name = some set ∧
      set.IsPartial ∧ lacksDocument m = true := by
  obtain ⟨name?, hname⟩ := hlabelled
  unfold chars at h
  rw [hname] at h
  split at h
  · cases h
  · cases name? with
    | none =>
      -- What is guessed is a text, and UTF-8 gives one for every body.
      simp only [bind, Except.bind] at h
      cases hguess : TextGuess.text? r.body with
      | none =>
        rw [hguess] at h
        cases h
      | some cs =>
        rw [hguess] at h
        cases h
    | some name =>
      have hdecode : ((Charset.ofName? name).getD (.unicode .utf8)).decodeWhole r.body = .error m := h
      obtain ⟨hpartial, hlacks⟩ := Charset.decodeWhole_eq_error hdecode
      cases hset : Charset.ofName? name with
      | none =>
        rw [hset] at hdecode
        cases hdecode
      | some set =>
        rw [hset] at hpartial
        exact ⟨name, set, hname, hset, hpartial, hlacks⟩

theorem document_of_unlabelled (h : charsetName? r.contentType = .error m) : r.document = .error m := by
  unfold document documentChars
  rw [h]
  rfl

/-- The text that a document is read from is that of the reply, unless the bytes show another one. -/
theorem documentChars_cases (hlabelled : r.Labelled) :
    r.documentChars = r.chars ∨
      charsetName? r.contentType = .ok none ∧ ∃ cs, r.documentChars = .ok cs := by
  obtain ⟨name?, hname⟩ := hlabelled
  unfold documentChars
  rw [hname]
  simp only [bind, Except.bind]
  split
  · rename_i hshown
    split
    · have hnone : name? = none := Option.isNone_iff_eq_none.mp (Bool.and_eq_true_iff.mp hshown).1
      exact .inr ⟨hnone ▸ rfl, _, rfl⟩
    · exact .inl rfl
  · exact .inl rfl

/-- A reply without a text is without a document. -/
theorem document_of_chars_eq_error (hlabelled : r.Labelled) (h : r.chars = .error m) :
    r.document = .error m := by
  obtain ⟨name, _, hname, _⟩ := chars_eq_error hlabelled h
  unfold document
  rcases documentChars_cases hlabelled with hsame | ⟨hnone, _⟩
  · rw [hsame, h]
    rfl
  · rw [hname] at hnone
    cases hnone

/-- **A reply without a document** counts as one, unless collections stand too deep in what it holds. -/
theorem document_eq_error (hlabelled : r.Labelled) (h : r.document = .error m) :
    lacksDocument m = true ∨ ∃ work, m = .tooDeep work := by
  cases hchars : r.documentChars with
  | error m' =>
    have hm : m' = m := by
      unfold document at h
      rw [hchars] at h
      exact Except.error.inj h
    rcases documentChars_cases hlabelled with hsame | ⟨_, cs, hcs⟩
    · obtain ⟨_, _, _, _, _, hlacks⟩ := chars_eq_error hlabelled (hsame.symm.trans hchars)
      exact .inl (hm ▸ hlacks)
    · rw [hcs] at hchars
      cases hchars
  | ok cs =>
    have hparse : Json.parseChars cs = .error m := by
      unfold document at h
      rwa [hchars] at h
    rcases Json.parseChars_eq_error hparse with ⟨text, rfl⟩ | hexcess
    · exact .inl rfl
    · cases hexcess with
      | digits count => exact .inl rfl
      | depth work => exact .inr ⟨work, rfl⟩

/-! ## What is due for a reply -/

/-- A status of success. -/
def IsSuccess (r : Incoming) : Prop :=
  200 ≤ r.status ∧ r.status < 300

/-- What a reply says: the detail in its document, the whole document if it is no object or has no detail, or the
text of a reply without a document. -/
inductive Says [TextGuess] (r : Incoming) : String → Prop where
  | detail {v d : Value} (hdocument : r.document = .ok v) (hdetail : v.get? "detail" = some d) :
    Says r d.display
  | whole {v : Value} (hdocument : r.document = .ok v) (hdetail : v.get? "detail" = none) : Says r v.display
  | text {m : Mishap} {cs : List Char} (hdocument : r.document = .error m) (htext : r.chars = .ok cs) :
    Says r (String.ofList cs)

/-- What is due for a reply: the document in one of success, or the mishap of its reader, which finds no document there,
no value for the character set, or collections too deep in each other; and a fault that tells what any other one
says. -/
inductive Due [TextGuess] (r : Incoming) : Except Fault Value → Prop where
  | returned {v : Value} (hstatus : r.IsSuccess) (hdocument : r.document = .ok v) : Due r (.ok v)
  | unread {m : Mishap} (hstatus : r.IsSuccess) (hdocument : r.document = .error m) :
    Due r (.error (.mishap m))
  | reported {x : String} (hstatus : ¬ r.IsSuccess) (htold : r.Says x) :
    Due r (.error (.refused ("Gateway Error (" ++ toString r.status ++ "): " ++ x) r))

/-- What comes for the replies that go astray. -/
inductive Astray [TextGuess] (r : Incoming) : Except Fault Value → Prop where
  /-- What tells of neither success nor an error passes for success. -/
  | passed {v : Value} (hstatus : ¬ r.IsSuccess) (herror : r.isError = false)
    (hdocument : r.document = .ok v) : Astray r (.ok v)
  | passedUnread {m : Mishap} (hstatus : ¬ r.IsSuccess) (herror : r.isError = false)
    (hdocument : r.document = .error m) : Astray r (.error (.mishap m))
  /-- A document that is no object is asked for the detail all the same. -/
  | notObject {v : Value} (herror : r.isError = true) (hdocument : r.document = .ok v)
    (hobject : ∀ entries, v ≠ .mapping entries) : Astray r (.error (.mishap (.noAttribute v.typeName "get")))
  /-- The reader gives up on a document. -/
  | tooDeep {work : String} (herror : r.isError = true) (hdocument : r.document = .error (.tooDeep work)) :
    Astray r (.error (.mishap (.tooDeep work)))
  /-- Neither document nor text comes of the body in the character set that is named. -/
  | illegible {name : String} {set : Charset} {m : Mishap} (herror : r.isError = true)
    (hname : charsetName? r.contentType = .ok (some name)) (hset : Charset.ofName? name = some set)
    (hpartial : set.IsPartial) (htext : r.chars = .error m) : Astray r (.error (.mishap m))
  /-- The parameter for the character set has no value. -/
  | unlabelled (herror : r.isError = true)
    (hname : charsetName? r.contentType = .error (.noAttribute "bool" "strip")) :
    Astray r (.error (.mishap (.noAttribute "bool" "strip")))

/-- What can be told of a reply: its document is an object, or it has a text that the reader does not take for a
document. -/
inductive Reportable [TextGuess] (r : Incoming) : Prop where
  | object {entries : List (Scalar × Value)} (hdocument : r.document = .ok (.mapping entries))
  | text {m : Mishap} {cs : List Char} (hlabelled : r.Labelled) (hdocument : r.document = .error m)
    (hdeep : ∀ work, m ≠ .tooDeep work) (htext : r.chars = .ok cs)

/-! ## What comes for a reply -/

omit [TextGuess] in
theorem isError_of_success (h : r.IsSuccess) : r.isError = false := by
  unfold isError
  rw [Bool.and_eq_false_iff, decide_eq_false_iff_not, decide_eq_false_iff_not]
  obtain ⟨_, hlt⟩ := h
  omega

/-- What tells of no error comes to its document. -/
theorem result_of_not_error (h : r.isError = false) : r.result = r.document.mapError .mishap := by
  unfold result
  rw [h]
  rfl

theorem result_of_detail {x : String} (herror : r.isError = true) (h : r.detail = .ok x) :
    r.result = .error (.refused ("Gateway Error (" ++ toString r.status ++ "): " ++ x) r) := by
  unfold result
  rw [herror, h]
  rfl

theorem result_of_no_detail (herror : r.isError = true) (h : r.detail = .error m) :
    r.result = .error (.mishap m) := by
  unfold result
  rw [herror, h]
  rfl

/-- A content type that cannot be read stops the client, whatever the status. -/
theorem result_of_unlabelled (hname : charsetName? r.contentType = .error (.noAttribute "bool" "strip")) :
    r.result = .error (.mishap (.noAttribute "bool" "strip")) := by
  have hdocument := document_of_unlabelled hname
  cases herror : r.isError with
  | false =>
    rw [result_of_not_error herror, hdocument]
    rfl
  | true =>
    have hdetail : r.detail = .error (.noAttribute "bool" "strip") := by
      unfold detail
      rw [hdocument]
      exact if_neg (by decide)
    exact result_of_no_detail herror hdetail

omit [TextGuess] in
theorem not_success_of_error (herror : r.isError = true) : ¬ r.IsSuccess := by
  intro hsuccess
  rw [isError_of_success hsuccess] at herror
  cases herror

/-- **What can be told of a reply** is its detail. -/
theorem Reportable.detail_eq (h : r.Reportable) : ∃ x, r.Says x ∧ r.detail = .ok x := by
  unfold detail
  cases h with
  | object hdocument =>
    rename_i entries
    rw [hdocument]
    cases hdetail : (Value.mapping entries).get? "detail" with
    | none => exact ⟨_, .whole hdocument hdetail, by simp only [hdetail, Option.getD_none]⟩
    | some d => exact ⟨_, .detail hdocument hdetail, by simp only [hdetail, Option.getD_some]⟩
  | text hlabelled hdocument hdeep htext =>
    rename_i m cs
    have hlacks : lacksDocument m = true := by
      rcases document_eq_error hlabelled hdocument with hlacks | ⟨work, rfl⟩
      · exact hlacks
      · exact absurd rfl (hdeep work)
    rw [hdocument, htext]
    exact ⟨_, .text hdocument htext, if_pos hlacks⟩

/-- Anything else goes astray. -/
theorem astray_of_not_reportable (herror : r.isError = true) (h : ¬ r.Reportable) : r.Astray r.result := by
  rcases labelled_or r with hlabelled | hname
  · cases hdocument : r.document with
    | ok v =>
      have hobject : ∀ entries, v ≠ .mapping entries := by
        rintro entries rfl
        exact h (.object hdocument)
      have hdetail : r.detail = .error (.noAttribute v.typeName "get") := by
        unfold detail
        rw [hdocument]
        cases v with
        | mapping entries => exact absurd rfl (hobject entries)
        | _ => rfl
      rw [result_of_no_detail herror hdetail]
      exact .notObject herror hdocument hobject
    | error m =>
      have hdetail : r.detail = if lacksDocument m then r.chars.map String.ofList else .error m := by
        unfold detail
        rw [hdocument]
      cases htext : r.chars with
      | error m' =>
        obtain ⟨name, set, hname, hset, hpartial, hlacks⟩ := chars_eq_error hlabelled htext
        have hm : m' = m :=
          Except.error.inj ((document_of_chars_eq_error hlabelled htext).symm.trans hdocument)
        rw [← hm, hlacks, if_pos rfl, htext] at hdetail
        rw [result_of_no_detail herror hdetail]
        exact .illegible herror hname hset hpartial htext
      | ok cs =>
        rcases document_eq_error hlabelled hdocument with hlacks | ⟨work, rfl⟩
        · -- Only what is too deep is no text to tell.
          refine absurd (.text hlabelled hdocument ?_ htext) h
          rintro work rfl
          cases hlacks
        · have hnot : lacksDocument (.tooDeep work) = false := rfl
          rw [hnot, if_neg Bool.false_ne_true] at hdetail
          rw [result_of_no_detail herror hdetail]
          exact .tooDeep herror hdocument
  · rw [result_of_unlabelled hname]
    exact .unlabelled herror hname

/-- What is due does not go astray. -/
theorem Due.not_astray {result : Except Fault Value} (h : r.Due result) : ¬ r.Astray result := by
  intro hastray
  cases h with
  | returned hstatus _ =>
    cases hastray with
    | passed hnot => exact hnot hstatus
  | unread hstatus _ =>
    cases hastray with
    | passedUnread hnot => exact hnot hstatus
    | notObject herror | tooDeep herror | illegible herror | unlabelled herror =>
      exact not_success_of_error herror hstatus
  | reported => cases hastray

theorem Says.unique {x y : String} (hx : r.Says x) (hy : r.Says y) : x = y := by
  cases hx with
  | detail hdocument hdetail =>
    cases hy with
    | detail hdocument' hdetail' =>
      cases hdocument.symm.trans hdocument'
      cases hdetail.symm.trans hdetail'
      rfl
    | whole hdocument' hdetail' =>
      cases hdocument.symm.trans hdocument'
      cases hdetail.symm.trans hdetail'
    | text hdocument' => cases hdocument.symm.trans hdocument'
  | whole hdocument hdetail =>
    cases hy with
    | detail hdocument' hdetail' =>
      cases hdocument.symm.trans hdocument'
      cases hdetail.symm.trans hdetail'
    | whole hdocument' =>
      cases hdocument.symm.trans hdocument'
      rfl
    | text hdocument' => cases hdocument.symm.trans hdocument'
  | text hdocument htext =>
    cases hy with
    | detail hdocument' | whole hdocument' => cases hdocument.symm.trans hdocument'
    | text _ htext' =>
      cases htext.symm.trans htext'
      rfl

/-- Only one thing is due for a reply. -/
theorem Due.unique {result result' : Except Fault Value} (h : r.Due result) (h' : r.Due result') :
    result = result' := by
  cases h with
  | returned hstatus hdocument =>
    cases h' with
    | returned _ hdocument' =>
      cases hdocument.symm.trans hdocument'
      rfl
    | unread _ hdocument' => cases hdocument.symm.trans hdocument'
    | reported hnot => exact absurd hstatus hnot
  | unread hstatus hdocument =>
    cases h' with
    | returned _ hdocument' => cases hdocument.symm.trans hdocument'
    | unread _ hdocument' =>
      cases hdocument.symm.trans hdocument'
      rfl
    | reported hnot => exact absurd hstatus hnot
  | reported hnot htold =>
    cases h' with
    | returned hstatus | unread hstatus => exact absurd hstatus hnot
    | reported _ htold' => rw [htold.unique htold']

/-- **What is due comes** for the replies of success, and for the replies with an error status of which something
can be told; and what comes for any other one goes astray. -/
theorem due_or_astray (r : Incoming) :
    (r.IsSuccess ∨ r.isError = true ∧ r.Reportable) ∧ r.Due r.result ∨
      ¬ (r.IsSuccess ∨ r.isError = true ∧ r.Reportable) ∧ r.Astray r.result := by
  by_cases hsuccess : r.IsSuccess
  · refine .inl ⟨.inl hsuccess, ?_⟩
    rw [result_of_not_error (isError_of_success hsuccess)]
    cases hdocument : r.document with
    | ok v => exact .returned hsuccess hdocument
    | error m => exact .unread hsuccess hdocument
  · cases herror : r.isError with
    | false =>
      refine .inr ⟨fun h => h.elim hsuccess fun h => Bool.false_ne_true h.1, ?_⟩
      rw [result_of_not_error herror]
      cases hdocument : r.document with
      | ok v => exact .passed hsuccess herror hdocument
      | error m => exact .passedUnread hsuccess herror hdocument
    | true =>
      by_cases hreportable : r.Reportable
      · obtain ⟨x, htold, hdetail⟩ := hreportable.detail_eq
        rw [result_of_detail herror hdetail]
        exact .inl ⟨.inr ⟨rfl, hreportable⟩, .reported hsuccess htold⟩
      · exact .inr ⟨fun h => h.elim hsuccess fun h => hreportable h.2,
          astray_of_not_reportable herror hreportable⟩

end Incoming

/-! ## Whole calls -/

section Calls

variable [TextGuess] {τ : Type} {t : Transport τ} {r : Remote} {activity entities : Value} {state state' : τ}
  {request : Outgoing} {reply : Incoming}

/-- What comes of a call is what its reply comes to. -/
theorem resolve_eq_result
    (hrequest : r.outgoing "POST" "/activities/resolve" (some (submission activity entities)) = .ok request)
    (hreply : t.send state request = (.reply reply, state')) :
    resolve t r activity entities state = (reply.result, state') := by
  unfold resolve exchange
  rw [hrequest]
  dsimp only
  rw [hreply]
  rcases Incoming.labelled_or reply with ⟨name, hname⟩ | hname
  · simp only [hname]
    rfl
  · rw [Incoming.result_of_unlabelled hname]
    simp only [hname]
    rfl

/-- What a call tells of its reply. -/
structure Tells (reply : Incoming) (result : Except Fault Value) : Prop where
  due_iff : reply.Due result ↔ reply.IsSuccess ∨ reply.isError = true ∧ reply.Reportable
  astray_iff : reply.Astray result ↔ ¬ (reply.IsSuccess ∨ reply.isError = true ∧ reply.Reportable)
  /-- Nothing else is due. -/
  only : ∀ result', reply.Due result' → reply.Due result → result' = result

/-- **A call tells what is due** of its reply exactly if that is one of success, or if it has an error status and
something can be told of it. -/
theorem resolve_tells
    (hrequest : r.outgoing "POST" "/activities/resolve" (some (submission activity entities)) = .ok request)
    (hreply : t.send state request = (.reply reply, state')) :
    Tells reply (resolve t r activity entities state).1 := by
  rw [resolve_eq_result hrequest hreply]
  rcases reply.due_or_astray with ⟨hwhen, hdue⟩ | ⟨hnot, hastray⟩
  · exact ⟨iff_of_true hdue hwhen, iff_of_false hdue.not_astray (not_not_intro hwhen), fun _ h => h.unique⟩
  · exact ⟨iff_of_false (fun hdue => hdue.not_astray hastray) hnot, iff_of_true hastray hnot,
      fun _ h => h.unique⟩

end Calls

/-! ## Replies of a proxy -/

section Proxies

/-- A way to something that has the same reply to everything. -/
def replying (reply : Incoming) : Transport Unit where
  send state _ := (.reply reply, state)

/-- The greeting of a guest as it leaves. -/
def greetingRequest : Outgoing :=
  ⟨"POST", "http://localhost:8000/activities/resolve", usualTimeout,
    some (submission submittedGreeting (.object (guest (.text "Ada"))))⟩

theorem outgoing_greeting :
    usual.outgoing "POST" "/activities/resolve"
      (some (submission submittedGreeting (.object (guest (.text "Ada"))))) = .ok greetingRequest := by
  have hguest := @submittable_guest (.text "Ada") rfl
  exact usual_reaches.outgoing_eq (Gateway.isJson_submission submittable_greeting hguest).1

/-- The reply of a proxy in front of a gateway that is down. -/
def overloaded : Incoming :=
  ⟨503, "Service Unavailable", some "text/plain", utf8Bytes "upstream is down"⟩

/-- What a proxy has to say is told if it is no document. -/
theorem resolve_tells_overloaded :
    usual.outgoing "POST" "/activities/resolve"
        (some (submission submittedGreeting (.object (guest (.text "Ada"))))) = .ok greetingRequest ∧
      (replying overloaded).send () greetingRequest = (.reply overloaded, ()) ∧
      Tells overloaded
        (resolve (replying overloaded) usual submittedGreeting (.object (guest (.text "Ada"))) ()).1 ∧
      (resolve (replying overloaded) usual submittedGreeting (.object (guest (.text "Ada"))) ()).1 =
        .error (.refused "Gateway Error (503): upstream is down" overloaded) := by
  have hreply : (replying overloaded).send () greetingRequest = (.reply overloaded, ()) := rfl
  have hlabelled : overloaded.Labelled := ⟨some "ISO-8859-1", by decide +kernel⟩
  have htext : overloaded.chars = .ok "upstream is down".toList := by decide +kernel
  have hdocument : overloaded.document = .error (.notJson "Expecting value: line 1 column 1 (char 0)") := by
    have hchars : overloaded.documentChars = .ok "upstream is down".toList := by decide +kernel
    have hparse : Json.parseChars "upstream is down".toList =
        .error (.notJson "Expecting value: line 1 column 1 (char 0)") := by
      cbv
    rw [Incoming.document, hchars, Except.bind]
    exact hparse
  have htells := resolve_tells outgoing_greeting hreply
  have hsuccess : ¬ overloaded.IsSuccess := fun h => absurd h.2 (by decide)
  have hmessage : "Gateway Error (" ++ toString overloaded.status ++ "): " ++
      String.ofList "upstream is down".toList = "Gateway Error (503): upstream is down" := by
    decide +kernel
  have hreported := Incoming.Due.reported hsuccess (.text hdocument htext)
  rw [hmessage] at hreported
  have hreportable : overloaded.Reportable :=
    .text hlabelled hdocument (fun _ h => by cases h) htext
  have hdue := htells.due_iff.mpr (.inr ⟨by decide, hreportable⟩)
  exact ⟨outgoing_greeting, hreply, htells, (htells.only _ hreported hdue).symm⟩

/-- The reply of a proxy that has nothing but a text for a document. -/
def terse : Incoming := .ofDocument 502 (.text "Bad Gateway")

/-- A text for a document is asked for its detail, and so it is not told. -/
theorem not_due_of_text_document :
    resolve (replying terse) usual submittedGreeting (.object (guest (.text "Ada"))) () =
        (.error (.mishap (.noAttribute "str" "get")), ()) ∧
      terse.Due (.error (.refused "Gateway Error (502): Bad Gateway" terse)) ∧
      ¬ terse.Due (resolve (replying terse) usual submittedGreeting (.object (guest (.text "Ada"))) ()).1 := by
  have hdocument : terse.document = .ok (.text "Bad Gateway") :=
    Incoming.document_ofDocument (Value.isJson_text _) (by decide) 502
  have hreply : (replying terse).send () greetingRequest = (.reply terse, ()) := rfl
  have hdetail : terse.detail = .error (.noAttribute "str" "get") := by
    unfold Incoming.detail
    rw [hdocument]
    rfl
  have hresolve : resolve (replying terse) usual submittedGreeting (.object (guest (.text "Ada"))) () =
      (.error (.mishap (.noAttribute "str" "get")), ()) := by
    rw [resolve_eq_result outgoing_greeting hreply, Incoming.result_of_no_detail rfl hdetail]
  have hsuccess : ¬ terse.IsSuccess := fun h => absurd h.2 (by decide)
  have hmessage : "Gateway Error (" ++ toString terse.status ++ "): " ++ (Value.text "Bad Gateway").display =
      "Gateway Error (502): Bad Gateway" := by
    decide +kernel
  have hreported := Incoming.Due.reported hsuccess (.whole hdocument rfl)
  rw [hmessage] at hreported
  refine ⟨hresolve, hreported, ?_⟩
  rw [hresolve]
  rintro (_ | ⟨hstatus, _⟩)
  exact hsuccess hstatus

end Proxies

end Remote

end Phrasing
