import Mathlib.Data.List.Forall2
import Phrasing.Proofs.Exchange
import Phrasing.Proofs.Join
import Phrasing.Proofs.SideBySide

/-! # What the text of a failure gets into

A transport reports a failure in words of its own, and these may quote what it was given to send.  Two answers are akin
if they are the same, or failures of one cause in two texts that stand for each other.  The text gets into the fault that
the answer comes to, into a notice and into the entry of the journal that tells the fault, and nowhere else: from akin
answers a client comes to akin results with akin notices, one by one (`akin_conclude`) and jointly (`akin_settled`), and
akin results end calls akin (`Call.Akin.bond`).  Where only equal texts stand for each other, akin things are equal.
-/

namespace Phrasing

variable {σ τ : Type} {α β : Type}

/-! ## Akin things -/

section Akin

variable (Texts : String → String → Prop)

/-- Two answers are the same but for the text of a failure. -/
inductive Answer.Akin : Answer → Answer → Prop where
  | same (x : Answer) : Akin x x
  | failing (cause : Cause) {text text' : String} (h : Texts text text') :
    Akin (.failure ⟨cause, text⟩) (.failure ⟨cause, text'⟩)

/-- Two faults are the same but for the text of a failure that they tell. -/
inductive Fault.Akin : Fault → Fault → Prop where
  | same (f : Fault) : Akin f f
  | exchange (purpose : Client.Purpose) {text text' : String} (h : Texts text text') :
    Akin (.service ("LG " ++ purpose.text ++ " failed: " ++ text) none)
      (.service ("LG " ++ purpose.text ++ " failed: " ++ text') none)
  | reported (name : String) {text text' : String} (h : Texts text text') :
    Akin (.mishap (.reported name text)) (.mishap (.reported name text'))
  | interrupted (name : String) {text text' : String} (h : Texts text text') :
    Akin (.mishap (.interrupted name text)) (.mishap (.interrupted name text'))

/-- Two notices are the same but for the text of a failure, or but for akin faults in which a call ended. -/
inductive Notice.Akin : Notice → Notice → Prop where
  | same (n : Notice) : Akin n n
  | exchange (purpose : Client.Purpose) {text text' : String} (h : Texts text text') :
    Akin ⟨.error, purpose.text ++ " failed: " ++ text⟩ ⟨.error, purpose.text ++ " failed: " ++ text'⟩
  | ended (callId : String) {f f' : Fault} (h : f.Akin Texts f') :
    Akin (Resolver.failureNotice callId f) (Resolver.failureNotice callId f')

/-- Two entries are the same but for akin faults that they tell. -/
inductive Journal.Entry.Akin : Journal.Entry → Journal.Entry → Prop where
  | same (e : Journal.Entry) : Akin e e
  | failed (callId : String) (scenario : Value) {f f' : Fault} (h : f.Akin Texts f') :
    Akin ⟨callId, scenario, .failed (.ofFault f)⟩ ⟨callId, scenario, .failed (.ofFault f')⟩

/-- Two journals of a call have akin entries. -/
structure Journal.Writer.Akin (w w' : Journal.Writer) : Prop where
  callId : w.callId = w'.callId
  scenario : w.scenario = w'.scenario
  isOpen : w.isOpen = w'.isOpen
  entries : List.Forall₂ (Journal.Entry.Akin Texts) w.entries w'.entries

/-- Two flights arrive at the same time, come to akin results and are worth akin notices. -/
structure Client.Flight.Akin (f f' : Flight α) : Prop where
  ticks : f.ticks = f'.ticks
  result : Paired (Fault.Akin Texts) Eq f.result f'.result
  notices : List.Forall₂ (Notice.Akin Texts) f.notices f'.notices

end Akin

variable {Texts : String → String → Prop}

/-! ### Where only equal texts stand for each other -/

section Equal

variable (hT : ∀ text text', Texts text text' → text = text')

include hT

theorem Fault.Akin.eq {f f' : Fault} (h : f.Akin Texts f') : f = f' := by
  cases h with
  | same => rfl
  | exchange _ h | reported _ h | interrupted _ h => rw [hT _ _ h]

theorem Notice.Akin.eq {n n' : Notice} (h : n.Akin Texts n') : n = n' := by
  cases h with
  | same => rfl
  | exchange _ h => rw [hT _ _ h]
  | ended _ h => rw [h.eq hT]

theorem Journal.Entry.Akin.eq {e e' : Journal.Entry} (h : e.Akin Texts e') : e = e' := by
  cases h with
  | same => rfl
  | failed _ _ h => rw [h.eq hT]

theorem Notice.eq_of_akin {ns ns' : List Notice} (h : List.Forall₂ (Notice.Akin Texts) ns ns') : ns = ns' := by
  induction h with
  | nil => rfl
  | cons h _ ih => rw [h.eq hT, ih]

theorem Journal.Entry.eq_of_akin {es es' : List Journal.Entry}
    (h : List.Forall₂ (Journal.Entry.Akin Texts) es es') : es = es' := by
  induction h with
  | nil => rfl
  | cons h _ ih => rw [h.eq hT, ih]

theorem Journal.Writer.Akin.eq {w w' : Journal.Writer} (h : w.Akin Texts w') : w = w' := by
  obtain ⟨callId, scenario, entries, isOpen⟩ := w
  obtain ⟨callId', scenario', entries', isOpen'⟩ := w'
  obtain ⟨rfl, rfl, rfl, hentries⟩ := h
  exact congrArg (Journal.Writer.mk callId scenario · isOpen) (Journal.Entry.eq_of_akin hT hentries)

end Equal

theorem Notice.akin_refl (ns : List Notice) : List.Forall₂ (Notice.Akin Texts) ns ns :=
  List.forall₂_same.mpr fun n _ => .same n

theorem Notice.akin_append {ns ns' more more' : List Notice} (h : List.Forall₂ (Notice.Akin Texts) ns ns')
    (hmore : List.Forall₂ (Notice.Akin Texts) more more') :
    List.Forall₂ (Notice.Akin Texts) (ns ++ more) (ns' ++ more') :=
  List.rel_append h hmore

/-! ## One answer -/

namespace Client

/-- **Akin answers come to akin results**, and are worth akin notices. -/
theorem akin_conclude (purpose : Purpose) {request request' : Request} (haddress : request.address = request'.address)
    {x x' : Answer} (h : x.Akin Texts x') :
    Paired (Fault.Akin Texts) Eq (conclude purpose request x).1 (conclude purpose request' x').1 ∧
      List.Forall₂ (Notice.Akin Texts) (conclude purpose request x).2 (conclude purpose request' x').2 := by
  cases h with
  | same x =>
    rw [conclude, conclude, haddress]
    exact ⟨.refl .same _, Notice.akin_refl _⟩
  | failing cause h =>
    simp only [conclude, Answer.received, judge]
    cases cause with
    | exchange name => exact ⟨.error (.exchange purpose h), .cons (.exchange purpose h) .nil⟩
    | status code => exact ⟨.refl .same _, Notice.akin_refl _⟩
    | foreign name => exact ⟨.error (.reported name h), .nil⟩
    | interruption name => exact ⟨.error (.interrupted name h), .nil⟩

end Client

/-! ## Many answers -/

namespace Join

/-- Things of the same delays in pairs finish in pairs. -/
theorem forall₂_completions {R : α → β → Prop} {delay : α → Nat} {delay' : β → Nat} {as : List α} {bs : List β}
    (h : List.Forall₂ R as bs) (hdelay : ∀ a b, R a b → delay a = delay' b) :
    List.Forall₂ (fun x y => R x.1 y.1 ∧ x.2 = y.2) (completions delay as) (completions delay' bs) := by
  -- The pairs are sorted once, and the two orders are read off them.
  obtain ⟨hlength, hpairs⟩ := List.forall₂_iff_zip.mp h
  have hfirst : as = (as.zip bs).map Prod.fst := (List.map_fst_zip (Nat.le_of_eq hlength)).symm
  have hsecond : bs = (as.zip bs).map Prod.snd := (List.map_snd_zip (Nat.le_of_eq hlength.symm)).symm
  have hrelated : ∀ z ∈ as.zip bs, R z.1 z.2 := fun z hz => hpairs hz
  generalize as.zip bs = pairs at hfirst hsecond hrelated
  subst hfirst hsecond
  have hmem : ∀ z ∈ pairs.zipIdx, R z.1.1 z.1.2 := fun z hz => hrelated z.1 (List.fst_mem_of_mem_zipIdx hz)
  have hleft : completions delay (pairs.map Prod.fst) =
      (pairs.zipIdx.mergeSort fun x y => delay x.1.1 ≤ delay y.1.1).map (Prod.map Prod.fst id) := by
    rw [completions, List.zipIdx_map]
    exact (List.map_mergeSort (f := Prod.map Prod.fst id) fun _ _ _ _ => rfl).symm
  have hright : completions delay' (pairs.map Prod.snd) =
      (pairs.zipIdx.mergeSort fun x y => delay x.1.1 ≤ delay y.1.1).map (Prod.map Prod.snd id) := by
    rw [completions, List.zipIdx_map]
    refine (List.map_mergeSort (f := Prod.map Prod.snd id) fun x hx y hy => ?_).symm
    rw [hdelay _ _ (hmem x hx), hdelay _ _ (hmem y hy)]
    rfl
  rw [hleft, hright, List.forall₂_map_left_iff, List.forall₂_map_right_iff, List.forall₂_same]
  exact fun z hz => ⟨hmem z (List.mem_mergeSort.mp hz), rfl⟩

/-- Results that belong together in pairs come to results that belong together, and as many of them fail. -/
theorem paired_results {E : Fault → Fault → Prop} {xs ys : List (Except Fault α)}
    (h : List.Forall₂ (Paired E Eq) xs ys) :
    Paired E Eq (results xs) (results ys) ∧ failureCount xs = failureCount ys := by
  induction h with
  | nil => exact ⟨.ok rfl, rfl⟩
  | cons h _ ih =>
    obtain ⟨hresults, hcount⟩ := ih
    unfold failureCount at hcount ⊢
    cases h with
    | error h => exact ⟨.error h, by rw [List.countP_cons, List.countP_cons, hcount]⟩
    | ok h =>
      refine ⟨?_, by rw [List.countP_cons, List.countP_cons, hcount]⟩
      subst h
      simp only [results]
      generalize results _ = x at hresults ⊢
      generalize results _ = y at hresults ⊢
      cases hresults with
      | error h => exact .error h
      | ok h => exact .ok (h ▸ rfl)

end Join

namespace Client

/-- **Akin flights are joined akin**: their results come in the same order, and so do their notices. -/
theorem akin_settled {flights flights' : List (Flight GenerationResponse)}
    (h : List.Forall₂ (Flight.Akin Texts) flights flights') :
    List.Forall₂ (Paired (Fault.Akin Texts) Eq)
        (settle (Join.completions (·.ticks) flights) flights.length).1
        (settle (Join.completions (·.ticks) flights') flights'.length).1 ∧
      List.Forall₂ (Notice.Akin Texts) (settle (Join.completions (·.ticks) flights) flights.length).2
        (settle (Join.completions (·.ticks) flights') flights'.length).2 := by
  constructor
  · show List.Forall₂ _ ((Join.join _ _).map _) ((Join.join _ _).map _)
    rw [Join.join_of_perm (Join.completions_perm _ flights), Join.join_of_perm (Join.completions_perm _ flights'),
      List.forall₂_map_left_iff, List.forall₂_map_right_iff]
    exact h.imp fun _ _ hflight => hflight.result
  · exact List.rel_flatMap (Join.forall₂_completions h fun _ _ hflight => hflight.ticks)
      fun _ _ hfinished => hfinished.1.notices

/-- So are the outcomes of joint fetches. -/
theorem akin_outcome (gs : List GenerationRequest) {xs ys : List (Except Fault GenerationResponse)}
    (h : List.Forall₂ (Paired (Fault.Akin Texts) Eq) xs ys) :
    Paired (Fault.Akin Texts) Eq (outcome gs xs).1 (outcome gs ys).1 ∧ (outcome gs xs).2 = (outcome gs ys).2 := by
  obtain ⟨hresults, hcount⟩ := Join.paired_results h
  unfold outcome
  generalize Join.results xs = x at hresults
  generalize Join.results ys = y at hresults
  cases hresults with
  | error h => exact ⟨.error h, by rw [hcount]⟩
  | ok h => exact ⟨.ok (h ▸ rfl), rfl⟩

end Client

/-! ## Ends of calls -/

namespace Fault.Akin

variable {f f' : Fault} (h : f.Akin Texts f')

include h

theorem isInterruption_eq : f.isInterruption = f'.isInterruption := by
  cases h <;> rfl

/-- The entries of journals that tell akin faults are refused for the same reason. -/
theorem check_eq (callId : String) (scenario : Value) :
    Journal.Entry.check ⟨callId, scenario, .failed (.ofFault f)⟩ =
      Journal.Entry.check ⟨callId, scenario, .failed (.ofFault f')⟩ := by
  have hfields {i i' : Journal.Incident} (hstatus : i.status = i'.status) (hmissing : i.missing = i'.missing) :
      (Journal.Event.failed i).checkFields = (Journal.Event.failed i').checkFields := by
    simp only [Journal.Event.checkFields, Journal.Event.fields, List.map_cons, Json.checkEntries_text_cons,
      Json.check_text, hstatus, hmissing]
  rw [Journal.Entry.check_eq, Journal.Entry.check_eq]
  cases h with
  | same => rfl
  | exchange | reported | interrupted =>
    exact congrArg (fun fields : Except Mishap Unit => do Json.check Journal.fieldLevels scenario; fields)
      (hfields rfl rfl)

end Fault.Akin

end Phrasing
