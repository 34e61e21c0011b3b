import Mathlib.Data.List.Nodup
import Phrasing.Proofs.Entries
import Phrasing.Proofs.Except
import Phrasing.Proofs.Exchange

/-! # The documents that requests carry

The document of a generation request is written from a scenario, slots and a locale that all
requests of a call share, and from a template of its own (`sendable_payload`).  So either all
requests of a call can be made or none can (`requestFor_eq`): a joint fetch sends one request for
every reference (`fetchAll_made`) or sends nothing (`fetchAll_unmade`).
-/

namespace Phrasing

namespace Json

/-- The fields of an object as a body holds them. -/
def sendableFields : List (String × Value) → Except Mishap (List (String × Value))
  | [] => .ok []
  | (name, v) :: rest => do
    let v ← sendable v
    let rest ← sendableFields rest
    return (name, v) :: rest

theorem sendable_text (s : String) : sendable (.text s) = .ok (.text s) := by
  rw [sendable]
  rfl

/-- The names of fields stay. -/
theorem names_of_sendableFields {fields sent : List (String × Value)}
    (h : sendableFields fields = .ok sent) : sent.map Prod.fst = fields.map Prod.fst := by
  induction fields generalizing sent with
  | nil =>
    cases h
    rfl
  | cons field rest ih =>
    obtain ⟨name, v⟩ := field
    obtain ⟨_, _, h⟩ := bind_eq_ok.mp h
    obtain ⟨rest', hrest, h⟩ := bind_eq_ok.mp h
    cases h
    exact congrArg (name :: ·) (ih hrest)

theorem sendableEntries_texts (fields : List (String × Value)) :
    sendableEntries (fields.map fun (name, v) => (.text name, v)) =
      (sendableFields fields).map fun sent => sent.map fun (name, v) => (.text name, v) := by
  induction fields with
  | nil => rfl
  | cons field rest ih =>
    obtain ⟨name, v⟩ := field
    have hkey : sendableKey (.text name) = .ok (.text name) := rfl
    simp only [List.map_cons, sendableEntries, sendableFields, hkey, ih, bind, Except.bind]
    cases sendable v with
    | error m => rfl
    | ok v => cases sendableFields rest <;> rfl

/-- **An object with distinct names** is sent field by field. -/
theorem sendable_object {fields : List (String × Value)} (hd : (fields.map Prod.fst).Nodup) :
    sendable (.object fields) = (sendableFields fields).map .object := by
  rw [Value.object, sendable, sendableEntries_texts]
  cases hsent : sendableFields fields with
  | error m => rfl
  | ok sent =>
    -- The names stay distinct as keys, so no field is written over.
    have hkeys : ((sent.map fun (name, v) => (Scalar.text name, v)).map Prod.fst).Nodup := by
      rw [← names_of_sendableFields hsent] at hd
      have htexts := hd.map fun _ _ h => Scalar.text.inj h
      rw [List.map_map] at htexts ⊢
      exact htexts
    show Except.ok (Value.mapping (Entries.ofPairs _)) = _
    rw [Entries.ofPairs_of_nodup hkeys]
    rfl

end Json

namespace GenerationRequest

/-- The field for the locale as it is written. -/
def writtenLocale (locale : Value) : Except Mishap (List (String × Value)) :=
  if locale.isVacant then .ok [] else (Json.sendable locale).map fun locale => [("locale", locale)]

/-- The documents of requests as they are written, by their templates. -/
def written (scenario locale : Value) (slots : List Slot) : Except Mishap (String → Value) := do
  let scenario ← Json.sendable scenario
  let slots ← Json.sendable (Slot.toWire slots)
  let locale ← writtenLocale locale
  return fun template =>
    .object ([("scenario", scenario), ("templateId", .text template), ("slots", slots)] ++ locale)

theorem names_fields_nodup (g : GenerationRequest) : (g.fields.map Prod.fst).Nodup := by
  unfold fields
  split
  · show ["scenario", "templateId", "slots"].Nodup
    decide
  · show ["scenario", "templateId", "slots", "locale"].Nodup
    decide

/-- **What is sent for a request is its document as it is written.** -/
theorem sendable_payload (scenario locale : Value) (slots : List Slot) (template : String) :
    Json.sendable (payload ⟨scenario, template, locale, slots⟩) =
      (written scenario locale slots).map (· template) := by
  rw [payload, Json.sendable_object (names_fields_nodup _)]
  simp only [fields, written, writtenLocale, List.cons_append, List.nil_append, Json.sendableFields,
    Json.sendable_text, bind, Except.bind]
  cases Json.sendable scenario with
  | error m => rfl
  | ok scenario =>
    cases Json.sendable (Slot.toWire slots) with
    | error m => rfl
    | ok slots =>
      cases locale.isVacant with
      | true =>
        simp only [if_true, Json.sendableFields]
        rfl
      | false =>
        simp only [Bool.false_eq_true, if_false, Json.sendableFields, bind, Except.bind]
        cases Json.sendable locale <;> rfl

/-- A document as it is written names its template. -/
theorem template_of_written {scenario locale : Value} {slots : List Slot} {body : String → Value}
    (h : written scenario locale slots = .ok body) (template : String) :
    (body template).getD "templateId" = .text template := by
  obtain ⟨_, _, h⟩ := bind_eq_ok.mp h
  obtain ⟨_, _, h⟩ := bind_eq_ok.mp h
  obtain ⟨_, _, h⟩ := bind_eq_ok.mp h
  cases h
  rfl

end GenerationRequest

/-! ## The requests for phrases -/

/-- The template that a request names. -/
def Request.template? : Request → Option String
  | .token _ _ => none
  | .generation _ _ body => (body.getD "templateId").text?

/-- What authorizes a request for a phrase. -/
def Request.authorization? : Request → Option String
  | .token _ _ => none
  | .generation _ authorization _ => some authorization

namespace Client

/-- The requests for phrases that are sent for the bearer of a token, by their templates. -/
def phraseRequests (l : Location) (token : String) (scenario locale : Value) (slots : List Slot) :
    Except Fault (String → Request) := do
  let address ← address (.text l.generation)
  let authorization ← (Header.ofText ("Bearer " ++ token)).mapError .mishap
  let body ← (GenerationRequest.written scenario locale slots).mapError .mishap
  address.checkHost.mapError .mishap
  return fun template => .generation address (address.credentials?.getD authorization)
    (body template)

/-- **A request for a phrase is that of its template**, or none can be made. -/
theorem requestFor_eq (l : Location) (token : String) (scenario locale : Value) (slots : List Slot)
    (template : String) :
    requestFor l token ⟨scenario, template, locale, slots⟩ =
      (phraseRequests l token scenario locale slots).map (· template) := by
  have hbody := GenerationRequest.sendable_payload scenario locale slots template
  unfold requestFor generationRequest phraseRequests
  simp only [GenerationRequest.payload, Value.object] at hbody ⊢
  simp only [hbody, Value.display]
  cases address (.text l.generation) with
  | error fault => rfl
  | ok address =>
    simp only [bind, Except.bind]
    cases Header.ofText ("Bearer " ++ token) with
    | error m => rfl
    | ok authorization =>
      cases GenerationRequest.written scenario locale slots with
      | error m => rfl
      | ok body => cases hhost : address.checkHost <;> simp only [Except.map] <;> rfl

variable {σ : Type} {service : Service σ} {l : Location} {token : String} {scenario locale : Value}
  {slots : List Slot}

/-- A request for a phrase names its template. -/
theorem template?_of_phraseRequests {make : String → Request}
    (h : phraseRequests l token scenario locale slots = .ok make) (template : String) :
    (make template).template? = some template := by
  obtain ⟨address, _, h⟩ := bind_eq_ok.mp h
  obtain ⟨authorization, _, h⟩ := bind_eq_ok.mp h
  obtain ⟨body, hbody, h⟩ := bind_eq_ok.mp h
  obtain ⟨_, _, h⟩ := bind_eq_ok.mp h
  cases h
  rw [Request.template?, GenerationRequest.template_of_written (mapError_eq_ok.mp hbody)]
  rfl

theorem map_requestFor (names : List String) :
    (GenerationRequest.forReferences scenario locale slots names).map (requestFor l token) =
      names.map fun name => (phraseRequests l token scenario locale slots).map (· name) := by
  rw [GenerationRequest.forReferences, List.map_map]
  exact List.map_congr_left fun name _ => requestFor_eq l token scenario locale slots name

theorem templates_forReferences (names : List String) :
    (GenerationRequest.forReferences scenario locale slots names).map (·.template) = names := by
  rw [GenerationRequest.forReferences, List.map_map]
  exact List.map_id names

/-- What the answers to requests for phrases come to. -/
def phraseResults (service : Service σ) (state : σ) (requests : List Request) :
    List (Except Fault GenerationResponse) :=
  List.zipWith (fun request arrival => phraseResult request arrival.answer) requests
    (service.answers state requests)

@[simp] theorem length_phraseResults (state : σ) (requests : List Request) :
    (phraseResults service state requests).length = requests.length := by
  simp [phraseResults]

/-- **If requests for phrases can be made**, a joint fetch sends one for every reference and ends in
what their answers come to. -/
theorem fetchAll_made (service : Service σ) {make : String → Request}
    (hmake : phraseRequests l token scenario locale slots = .ok make) (names : List String)
    {s : Session σ} (hopen : s.isOpen = true) :
    (fetchAll service l token (GenerationRequest.forReferences scenario locale slots names) s).1 =
        (Join.results (phraseResults service s.service (names.map make))).map (names.zip ·) ∧
      s.Sends service (names.map make)
        (fetchAll service l token
          (GenerationRequest.forReferences scenario locale slots names) s).2 := by
  have hrequests : (GenerationRequest.forReferences scenario locale slots names).map
      (requestFor l token) = (names.map make).map .ok := by
    rw [map_requestFor, hmake, List.map_map]
    rfl
  obtain ⟨hresult, hsends⟩ := fetchAll_open service l token
    (GenerationRequest.forReferences scenario locale slots names) hopen
  rw [joined, templates_forReferences, fetches_made hrequests] at hresult
  rw [requestsFor_made hrequests] at hsends
  exact ⟨hresult, hsends⟩

/-- **If they cannot**, a joint fetch sends nothing and ends in the reason. -/
theorem fetchAll_unmade (service : Service σ) {fault : Fault}
    (hmake : phraseRequests l token scenario locale slots = .error fault) {names : List String}
    (hne : names ≠ []) {s : Session σ} (hopen : s.isOpen = true) :
    (fetchAll service l token
        (GenerationRequest.forReferences scenario locale slots names) s).1 = .error fault ∧
      s.Sends service []
        (fetchAll service l token
          (GenerationRequest.forReferences scenario locale slots names) s).2 := by
  have hrequest : ∀ name, requestFor l token ⟨scenario, name, locale, slots⟩ = .error fault := by
    intro name
    rw [requestFor_eq, hmake]
    rfl
  obtain ⟨hresult, hsends⟩ := fetchAll_open service l token
    (GenerationRequest.forReferences scenario locale slots names) hopen
  have hnone : requestsFor l token
      (GenerationRequest.forReferences scenario locale slots names) = [] := by
    rw [requestsFor, List.filterMap_eq_nil_iff]
    intro g hg
    obtain ⟨name, _, rfl⟩ := List.mem_map.mp hg
    rw [hrequest]
    rfl
  rw [hnone] at hsends
  refine ⟨?_, hsends⟩
  -- All fail for the same reason, so it is that of the first one.
  cases names with
  | nil => exact absurd rfl hne
  | cons name names =>
    rw [hresult]
    simp only [GenerationRequest.forReferences, List.map_cons, fetches, hrequest]
    rfl

/-- A joint fetch that ends in responses has sent one request for every reference. -/
theorem made_of_fetchAll {names : List String} (hne : names ≠ []) {s s' : Session σ}
    (hopen : s.isOpen = true) {pairs : List (String × GenerationResponse)}
    (h : fetchAll service l token (GenerationRequest.forReferences scenario locale slots names) s =
      (.ok pairs, s')) :
    ∃ make responses, phraseRequests l token scenario locale slots = .ok make ∧
      s.Sends service (names.map make) s' ∧ pairs = names.zip responses ∧
      phraseResults service s.service (names.map make) = responses.map .ok := by
  cases hmake : phraseRequests l token scenario locale slots with
  | error fault =>
    have hresult := (fetchAll_unmade service hmake hne hopen).1
    rw [h] at hresult
    cases hresult
  | ok make =>
    obtain ⟨hresult, hsends⟩ := fetchAll_made service hmake names hopen
    rw [h] at hresult hsends
    obtain ⟨responses, hresponses, hpairs⟩ := map_eq_ok.mp hresult.symm
    exact ⟨make, responses, rfl, hsends, hpairs.symm, Join.results_eq_ok_iff.mp hresponses⟩

end Client

end Phrasing
