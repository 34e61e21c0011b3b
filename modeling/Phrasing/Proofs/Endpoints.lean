import Phrasing.Endpoint
import Phrasing.Proofs.Documents
import Phrasing.Proofs.WebAddress

/-! # Endpoints that can be reached

An endpoint is well formed if its key is a text of ASCII, its application a text, and its two
addresses spell absolute addresses.  Then the request for a token can be made, and requests for
phrases fail to be made only on what their document holds (`phraseRequests_eq`) or on a token that
is not in ASCII (`generationRequest_not_ascii`).
-/

namespace Phrasing

open Text

/-- A text of ASCII can be the value of a header field. -/
theorem Header.ofText_ascii {s : String} (h : s.toList.all isAscii = true) :
    Header.ofText s = .ok s := by
  have hall : ∀ c ∈ s.toList, decide (c.toNat < 0x80) = true := List.all_eq_true.mp h
  have hnone : (s.toList.dropWhile fun c => c.toNat < 0x80) = [] := by
    rw [← List.append_nil s.toList, List.dropWhile_append_of_pos hall]
    rfl
  unfold Header.ofText Header.firstRun?
  rw [hnone]
  rfl

/-- A text with a character outside ASCII cannot. -/
theorem Header.ofText_not_ascii {s : String} (h : s.toList.all isAscii = false) :
    ∃ first last c, Header.ofText s = .error (.headerNotAscii first last c) := by
  unfold Header.ofText
  cases hrun : Header.firstRun? s.toList with
  | some run => exact ⟨run.1, run.2.1, run.2.2, rfl⟩
  | none =>
    have hnone : s.toList.dropWhile (fun c => decide (c.toNat < 0x80)) = [] := by
      unfold Header.firstRun? at hrun
      dsimp only at hrun
      rwa [Option.map_eq_none_iff, List.head?_eq_none_iff] at hrun
    have hall : s.toList.all isAscii = true := by
      have htake := List.takeWhile_append_dropWhile (p := fun c => decide (c.toNat < 0x80))
        (l := s.toList)
      rw [hnone, List.append_nil] at htake
      rw [← htake]
      exact List.all_takeWhile
    rw [hall] at h
    cases h

/-- The bearer of a token in ASCII can be named in a header field. -/
theorem Header.ofText_bearer {bearer : String} (h : bearer.toList.all isAscii = true) :
    Header.ofText ("Bearer " ++ bearer) = .ok ("Bearer " ++ bearer) := by
  refine Header.ofText_ascii ?_
  rw [String.toList_append, List.all_append, h]
  decide

/-- A text spells an absolute address, the host of which can be shown. -/
structure Address.Spells (s : String) (a : Address) : Prop where
  spelled : Address.ofText s = .ok a
  absolute : a.isAbsolute = true
  shown : a.checkHost = .ok ()

/-- Credentials belong to the user of an address. -/
theorem Address.credentials?_congr {a b : Address} (h : a.user = b.user) :
    a.credentials? = b.credentials? := by
  unfold credentials?
  rw [h]

namespace Endpoint

/-- An endpoint is well formed: a key in ASCII, an application, and two absolute addresses, that of
the service short enough for the path of generation below it. -/
structure WellFormed (e : Endpoint) (key app : String) (place token : Address) : Prop where
  key_eq : e.key = .text key
  ascii : key.toList.all isAscii = true
  app_eq : e.app = .text app
  spells : Address.Spells e.uri place
  short : e.uri.length + 6 ≤ Address.mostChars
  tokenUri_eq : ∃ s, e.tokenUri = .text s ∧ Address.Spells s token

namespace WellFormed

variable {e : Endpoint} {key app : String} {place token : Address}
  (h : e.WellFormed key app place token)

include h

/-- **The request for a token can be made.** -/
theorem tokenRequest_eq : Client.tokenRequest e.location e.key = .ok (.token token key) := by
  obtain ⟨s, htoken, hspells⟩ := h.tokenUri_eq
  have haddress : Client.address e.location.token = .ok token := by
    rw [location, htoken]
    exact mapError_eq_ok.mpr hspells.spelled
  have hkey : Header.ofValue e.key = .ok key := by
    rw [h.key_eq]
    exact Header.ofText_ascii h.ascii
  unfold Client.tokenRequest
  rw [haddress, hkey]
  refine bind_eq_ok.mpr ⟨token, rfl, bind_eq_ok.mpr ⟨key, rfl, bind_eq_ok.mpr ⟨(), ?_, rfl⟩⟩⟩
  rw [hspells.shown]
  rfl

/-- Phrases are generated at an absolute address of the same host and for the same user. -/
theorem exists_absolute_generation :
    ∃ generation, Client.address (.text e.location.generation) = .ok generation ∧
    generation.isAbsolute = true ∧ generation.checkHost = .ok () ∧
    generation.credentials? = place.credentials? := by
  obtain ⟨generation, hspelled, habsolute, huser, hhost⟩ :=
    Address.requestable_below h.spells.spelled h.spells.absolute
    "v1/lg".toList h.short (by decide)
  have hpath : String.ofList ('/' :: "v1/lg".toList) = "/v1/lg" := by decide
  rw [hpath] at hspelled
  have haddress : Client.address (.text e.location.generation) = .ok generation := by
    show (Address.ofText (dropTrailingSlashes e.uri ++ "/v1/lg")).mapError Fault.mishap = _
    rw [hspelled]
    rfl
  refine ⟨generation, haddress, habsolute, ?_, Address.credentials?_congr huser⟩
  have hshown := h.spells.shown
  unfold Address.checkHost at hshown ⊢
  rwa [hhost]

/-- Phrases are generated at an address of the same host and for the same user. -/
theorem exists_generation :
    ∃ generation, Client.address (.text e.location.generation) = .ok generation ∧
    generation.checkHost = .ok () ∧ generation.credentials? = place.credentials? := by
  obtain ⟨generation, haddress, _, hrest⟩ := h.exists_absolute_generation
  exact ⟨generation, haddress, hrest⟩

omit h in
/-- **Requests for phrases can be made if their document can be written.** -/
theorem phraseRequests_eq {generation : Address}
    (haddress : Client.address (.text e.location.generation) = .ok generation)
    (hshown : generation.checkHost = .ok ()) {bearer : String}
    (hascii : bearer.toList.all isAscii = true) (scenario locale : Value) (slots : List Slot) :
    Client.phraseRequests e.location bearer scenario locale slots =
      ((GenerationRequest.written scenario locale slots).mapError .mishap).map fun body template =>
        .generation generation (generation.credentials?.getD ("Bearer " ++ bearer))
          (body template) := by
  unfold Client.phraseRequests
  rw [haddress, Header.ofText_bearer hascii]
  cases GenerationRequest.written scenario locale slots with
  | error m => rfl
  | ok body =>
    show (generation.checkHost.mapError Fault.mishap >>= _) = _
    rw [hshown]
    rfl

/-- **A document is requested** for the bearer of a token in ASCII. -/
theorem generationRequest_ascii {entries : List (Scalar × Value)} {body : Value}
    (hbody : Json.sendable (.mapping entries) = .ok body) {bearer : String}
    (hascii : bearer.toList.all isAscii = true) :
    ∃ request, Client.generationRequest e.location (.mapping entries) (.text bearer) =
      .ok request ∧ request.address.isAbsolute = true := by
  obtain ⟨generation, haddress, habsolute, hshown, _⟩ := h.exists_absolute_generation
  refine ⟨.generation generation (generation.credentials?.getD ("Bearer " ++ bearer)) body, ?_,
    habsolute⟩
  unfold Client.generationRequest
  refine bind_eq_ok.mpr ⟨generation, haddress, bind_eq_ok.mpr ⟨"Bearer " ++ bearer, ?_, ?_⟩⟩
  · exact mapError_eq_ok.mpr (Header.ofText_bearer hascii)
  · refine bind_eq_ok.mpr ⟨body, mapError_eq_ok.mpr hbody, bind_eq_ok.mpr ⟨(), ?_, rfl⟩⟩
    exact mapError_eq_ok.mpr hshown

/-- **No document is requested** for the bearer of any other token. -/
theorem generationRequest_not_ascii (entries : List (Scalar × Value)) {bearer : String}
    (hascii : bearer.toList.all isAscii = false) :
    ∃ first last c, Client.generationRequest e.location (.mapping entries) (.text bearer) =
      .error (.mishap (.headerNotAscii first last c)) := by
  obtain ⟨generation, haddress, _⟩ := h.exists_absolute_generation
  have hbearer : ("Bearer " ++ bearer).toList.all isAscii = false := by
    rw [String.toList_append, List.all_append, hascii, Bool.and_false]
  obtain ⟨first, last, c, hheader⟩ := Header.ofText_not_ascii hbearer
  refine ⟨first, last, c, ?_⟩
  unfold Client.generationRequest
  refine bind_eq_error.mpr (.inr ⟨generation, haddress, bind_eq_error.mpr (.inl ?_)⟩)
  exact mapError_eq_error.mpr ⟨_, hheader, rfl⟩

end WellFormed

end Endpoint

end Phrasing
