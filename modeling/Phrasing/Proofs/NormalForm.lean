import Phrasing.Proofs.Configuration
import Phrasing.Proofs.Trailing

/-! # Endpoints in normal form

An endpoint in normal form (`IsNormal`) has nothing blank that it needs and an address without a slash at
its end, and such an endpoint is made again of its own values (`IsNormal.restored`).  Texts are looked at as
they are given, but of the address the slashes at its end go before it is kept.  So what was looked at
need not be what is kept: of blanks with slashes behind them, blanks stay (`isBlankText_dropTrailingSlashes_iff`).
Such an address is the only way to an endpoint that is not in normal form, and of the values of that
one none can be made (`ofTexts_normalises`).
-/

namespace Phrasing

open Text

/-! ## Addresses without the slashes at their end -/

namespace Text

/-- Blanks, if any, with at least one slash behind them. -/
def SlashesAfterBlanks (s : String) : Prop :=
  ∃ blanks n, s.toList = blanks ++ List.replicate (n + 1) '/' ∧ blanks.all isBlank = true

/-- Slashes are not blank. -/
theorem SlashesAfterBlanks.not_blank {s : String} (h : SlashesAfterBlanks s) : isBlankText s = false := by
  obtain ⟨blanks, n, hs, _⟩ := h
  rw [isBlankText, hs, List.all_append, List.all_replicate]
  simp [show isBlank '/' = false from rfl]

/-- No slash stands at the end of a text. -/
def EndsBare (s : String) : Prop :=
  ∀ c ∈ s.toList.getLast?, c ≠ '/'

/-- A text is its part without the slashes at the end, and these slashes. -/
theorem exists_slashes (s : String) :
    ∃ n, s.toList = (dropTrailingSlashes s).toList ++ List.replicate n '/' := by
  refine ⟨s.toList.length - (dropTrailing (· == '/') s.toList).length, ?_⟩
  rw [dropTrailingSlashes, String.toList_ofList]
  exact (dropTrailing_append_replicate '/' s.toList).symm

theorem endsBare_dropTrailingSlashes (s : String) : EndsBare (dropTrailingSlashes s) := by
  intro c hc
  rw [dropTrailingSlashes, String.toList_ofList] at hc
  exact beq_eq_false_iff_ne.mp (getLast?_dropTrailing _ _ c hc)

theorem EndsBare.dropTrailingSlashes_eq {s : String} (h : EndsBare s) : dropTrailingSlashes s = s := by
  rw [dropTrailingSlashes, dropTrailing_eq_self fun c hc => beq_eq_false_iff_ne.mpr (h c hc),
    String.ofList_toList]

/-- **What is blank without the slashes at its end** was blank with them, or had nothing but blanks before
them. -/
theorem isBlankText_dropTrailingSlashes_iff {s : String} :
    isBlankText (dropTrailingSlashes s) = true ↔ isBlankText s = true ∨ SlashesAfterBlanks s := by
  constructor
  · intro hblank
    obtain ⟨n, hn⟩ := exists_slashes s
    cases n with
    | zero =>
      left
      rw [List.replicate_zero, List.append_nil] at hn
      rw [isBlankText, hn]
      exact hblank
    | succ n => exact .inr ⟨_, n, hn, hblank⟩
  · rintro (hblank | ⟨blanks, n, hs, hblanks⟩)
    · obtain ⟨n, hn⟩ := exists_slashes s
      rw [isBlankText, hn, List.all_append, Bool.and_eq_true] at hblank
      exact hblank.1
    · -- A slash is not blank, so the slashes are all that goes.
      have hlast : ∀ c ∈ blanks.getLast?, (c == '/') = false := by
        intro c hc
        have hc := List.all_eq_true.mp hblanks c (List.mem_of_getLast? hc)
        rw [beq_eq_false_iff_ne]
        rintro rfl
        cases hc
      rw [isBlankText, dropTrailingSlashes, String.toList_ofList, hs, dropTrailing_append _ hlast,
        dropTrailing_replicate, List.append_nil]
      exact hblanks

end Text

namespace Endpoint

/-! ## Normal form -/

theorem givesText_text_iff {s : String} : GivesText (.text s) ↔ isBlankText s = false := by
  constructor
  · exact fun h => h.not_blank
  · intro h
    rcases givesNothing_or_givesText s with hnothing | htext
    · rw [givesNothing_text_iff.mp hnothing] at h
      cases h
    · exact htext

/-- An endpoint in normal form: a key, an application and an address that are not blank, no slash at the end of
the address, and a place for the token service. -/
structure IsNormal (e : Endpoint) : Prop where
  key : GivesText e.key
  app : GivesText e.app
  uri : isBlankText e.uri = false
  bare : EndsBare e.uri
  placed : e.tokenUri.isVacant = false

/-- An endpoint made of the values of another one. -/
def remade (e : Endpoint) : Except Fault Endpoint :=
  of e.key e.app (.text e.uri) e.tokenUri

/-- **An endpoint in normal form is made of its own values.** -/
theorem IsNormal.restored {e : Endpoint} (h : e.IsNormal) : e.remade = .ok e := by
  have hgiven : firstBlank? [("endpoint_key", e.key), ("lg_app_id", e.app), ("endpoint_uri", .text e.uri)] =
      .ok none := by
    rw [firstBlank?_eq_none_iff]
    simp only [List.forall_mem_cons]
    exact ⟨h.key, h.app, givesText_text_iff.mpr h.uri, fun _ h => absurd h List.not_mem_nil⟩
  have htoken : e.tokenUri.orElse (.text (e.uri ++ defaultTokenPath)) = e.tokenUri :=
    if_neg (Bool.not_eq_true _ ▸ h.placed)
  unfold remade of
  rw [hgiven]
  simp only [baseAddress, h.bare.dropTrailingSlashes_eq, Except.map, htoken]

/-- Where the token service of an endpoint is that was made with or without an address for it: at that address,
or below the address of the service if none was given, or an empty one. -/
inductive PlacesToken (e : Endpoint) : Option String → Prop where
  | given {s : String} (hs : s ≠ "") (h : e.tokenUri = .text s) : PlacesToken e (some s)
  | below {tokenUri : Option String} (hnone : tokenUri = none ∨ tokenUri = some "")
      (h : e.tokenUri = .text (e.uri ++ defaultTokenPath)) : PlacesToken e tokenUri

/-- What is due for texts that an endpoint is made of: a refusal, or an endpoint in normal form that is made again
of its own values. -/
inductive Due (tokenUri : Option String) : Except Fault Endpoint → Prop where
  | refused (message : String) : Due tokenUri (.error (.configuration message))
  | made {e : Endpoint} (hnormal : e.IsNormal) (hrestored : e.remade = .ok e)
      (htoken : e.PlacesToken tokenUri) : Due tokenUri (.ok e)

/-! ## Endpoints of texts -/

/-- The texts that are needed, by their names. -/
def neededTexts (key app uri : String) : List (String × Value) :=
  [("endpoint_key", .text key), ("lg_app_id", .text app), ("endpoint_uri", .text uri)]

section Texts

variable {key app uri : String} {tokenUri : Option String}

/-- None of the needed texts is blank. -/
def AllGiven (key app uri : String) : Prop :=
  isBlankText key = false ∧ isBlankText app = false ∧ isBlankText uri = false

theorem allGiven_iff : AllGiven key app uri ↔ ∀ e ∈ neededTexts key app uri, GivesText e.2 := by
  simp only [AllGiven, neededTexts, List.forall_mem_cons, givesText_text_iff]
  constructor
  · rintro ⟨hkey, happ, huri⟩
    exact ⟨hkey, happ, huri, fun _ h => absurd h List.not_mem_nil⟩
  · rintro ⟨hkey, happ, huri, _⟩
    exact ⟨hkey, happ, huri⟩

/-- The value that places the token service. -/
def placeOf (uri : String) (tokenUri : Value) : Value :=
  tokenUri.orElse (.text (uri ++ defaultTokenPath))

theorem placeOf_not_vacant (uri : String) (tokenUri : Value) : (placeOf uri tokenUri).isVacant = false := by
  unfold placeOf Value.orElse
  split
  · show (uri ++ defaultTokenPath).isEmpty = false
    rw [String.isEmpty_eq_false_iff, ne_eq, String.append_eq_empty_iff]
    exact fun h => absurd h.2 (by decide)
  · rename_i h
    exact Bool.eq_false_iff.mpr h

theorem placesToken (key app : Value) (uri : String) (tokenUri : Option String) :
    PlacesToken ⟨key, app, uri, placeOf uri (.ofText? tokenUri)⟩ tokenUri := by
  cases tokenUri with
  | none => exact .below (.inl rfl) rfl
  | some s =>
    by_cases hs : s = ""
    · subst hs
      exact .below (.inr rfl) rfl
    · have hgiven : placeOf uri (.text s) = .text s := if_neg fun h => hs (String.isEmpty_iff.mp h)
      exact .given hs hgiven

/-- **Texts that are given make an endpoint**, with the address cut off before the slashes at its end. -/
theorem of_given (h : AllGiven key app uri) (tokenUri : Value) :
    of (.text key) (.text app) (.text uri) tokenUri =
      .ok ⟨.text key, .text app, dropTrailingSlashes uri, placeOf (dropTrailingSlashes uri) tokenUri⟩ := by
  have hgiven : firstBlank? (neededTexts key app uri) = .ok none :=
    firstBlank?_eq_none_iff.mpr (allGiven_iff.mp h)
  unfold neededTexts at hgiven
  unfold of
  rw [hgiven]
  rfl

/-- The first blank one of the needed texts, by its name. -/
def FirstBlank (key app uri name : String) : Prop :=
  ∃ before v after, neededTexts key app uri = before ++ (name, v) :: after ∧
    (∀ e ∈ before, GivesText e.2) ∧ GivesNothing v

/-- All texts are given, or there is a first blank one. -/
theorem allGiven_or_blank (key app uri : String) :
    AllGiven key app uri ∨ ∃ name, FirstBlank key app uri name := by
  have htexts : ∀ e ∈ neededTexts key app uri, ∃ s, e.2 = .text s := by
    simp only [neededTexts, List.forall_mem_cons]
    exact ⟨⟨_, rfl⟩, ⟨_, rfl⟩, ⟨_, rfl⟩, fun _ h => absurd h List.not_mem_nil⟩
  rcases blank_or_given htexts with hgiven | ⟨before, name, v, after, hblank⟩
  · exact .inl (allGiven_iff.mpr hgiven)
  · exact .inr ⟨name, before, v, after, hblank⟩

/-- **The first blank text is refused by its name.** -/
theorem of_blank {name : String} (h : FirstBlank key app uri name) (tokenUri : Value) :
    of (.text key) (.text app) (.text uri) tokenUri =
      .error (.configuration (name ++ " must not be empty")) := by
  have hblank := firstBlank?_eq_some_iff.mpr h
  unfold neededTexts at hblank
  unfold of
  rw [hblank]

/-- The endpoint with these texts, the last of which need not be given. -/
def ofTexts (key app uri : String) (tokenUri : Option String) : Except Fault Endpoint :=
  of (.text key) (.text app) (.text uri) (.ofText? tokenUri)

theorem ofTexts_given (h : AllGiven key app uri) (tokenUri : Option String) :
    ofTexts key app uri tokenUri = .ok ⟨.text key, .text app, dropTrailingSlashes uri,
      placeOf (dropTrailingSlashes uri) (.ofText? tokenUri)⟩ :=
  of_given h _

/-- Of blanks with slashes behind them blanks are kept. -/
theorem isBlankText_of_slashes (hslashes : SlashesAfterBlanks uri) :
    isBlankText (dropTrailingSlashes uri) = true :=
  isBlankText_dropTrailingSlashes_iff.mpr (.inr hslashes)

/-- With any other address, texts that are given make an endpoint in normal form. -/
theorem isNormal_of_given (h : AllGiven key app uri) (hslashes : ¬ SlashesAfterBlanks uri)
    (tokenUri : Value) : IsNormal ⟨.text key, .text app, dropTrailingSlashes uri,
      placeOf (dropTrailingSlashes uri) tokenUri⟩ := by
  obtain ⟨hkey, happ, huri⟩ := h
  have hkept : isBlankText (dropTrailingSlashes uri) = false := by
    rw [Bool.eq_false_iff, ne_eq, isBlankText_dropTrailingSlashes_iff, huri]
    simp [hslashes]
  exact ⟨givesText_text_iff.mpr hkey, givesText_text_iff.mpr happ, hkept,
    endsBare_dropTrailingSlashes uri, placeOf_not_vacant _ _⟩

/-- What is due comes of all texts but blanks with slashes behind them. -/
theorem due_ofTexts_iff (key app uri : String) (tokenUri : Option String) :
    Due tokenUri (ofTexts key app uri tokenUri) ↔
      ¬ (isBlankText key = false ∧ isBlankText app = false ∧ SlashesAfterBlanks uri) := by
  rcases allGiven_or_blank key app uri with hgiven | ⟨name, hblank⟩
  · rw [ofTexts_given hgiven]
    by_cases hslashes : SlashesAfterBlanks uri
    · refine iff_of_false (fun hdue => ?_) (not_not_intro ⟨hgiven.1, hgiven.2.1, hslashes⟩)
      cases hdue with
      | made hnormal _ _ =>
        have hlost := isBlankText_of_slashes hslashes
        rw [hnormal.uri] at hlost
        cases hlost
    · have hnormal := isNormal_of_given hgiven hslashes (.ofText? tokenUri)
      exact iff_of_true (.made hnormal hnormal.restored (placesToken _ _ _ _)) fun h => hslashes h.2.2
  · rw [ofTexts, of_blank hblank]
    refine iff_of_true (.refused _) ?_
    rintro ⟨hkey, happ, hslashes⟩
    -- Slashes are not blank, so all three texts would be given.
    have hmade := of_given ⟨hkey, happ, hslashes.not_blank⟩ .null
    rw [of_blank hblank] at hmade
    cases hmade

theorem ofTexts_eq_error_iff {fault : Fault} : ofTexts key app uri tokenUri = .error fault ↔
    ∃ name, FirstBlank key app uri name ∧ fault = .configuration (name ++ " must not be empty") := by
  constructor
  · intro hfault
    rcases allGiven_or_blank key app uri with hgiven | ⟨name, hblank⟩
    · rw [ofTexts_given hgiven] at hfault
      cases hfault
    · rw [ofTexts, of_blank hblank] at hfault
      exact ⟨name, hblank, (Except.error.inj hfault).symm⟩
  · rintro ⟨name, hblank, rfl⟩
    exact of_blank hblank _

theorem allGiven_of_made {e : Endpoint} (h : ofTexts key app uri tokenUri = .ok e) : AllGiven key app uri := by
  rcases allGiven_or_blank key app uri with hgiven | ⟨name, hblank⟩
  · exact hgiven
  · rw [ofTexts, of_blank hblank] at h
    cases h

/-- No endpoint is made again of a blank address. -/
theorem remade_of_blank (hkey : isBlankText key = false) (happ : isBlankText app = false)
    (huri : isBlankText uri = true) (tokenUri : Value) :
    remade ⟨.text key, .text app, uri, tokenUri⟩ =
      .error (.configuration "endpoint_uri must not be empty") := by
  have hblank : FirstBlank key app uri "endpoint_uri" := by
    refine ⟨[("endpoint_key", .text key), ("lg_app_id", .text app)], _, [], rfl, ?_,
      givesNothing_text_iff.mpr huri⟩
    simp only [List.forall_mem_cons]
    exact ⟨givesText_text_iff.mpr hkey, givesText_text_iff.mpr happ,
      fun _ h => absurd h List.not_mem_nil⟩
  exact of_blank hblank _

/-- What comes of the texts for an endpoint. -/
structure Normalises (key app uri : String) (tokenUri : Option String) : Prop where
  due_iff : Due tokenUri (ofTexts key app uri tokenUri) ↔
    ¬ (isBlankText key = false ∧ isBlankText app = false ∧ SlashesAfterBlanks uri)
  /-- A refusal names the first blank text, and there is no other. -/
  refused_iff : ∀ fault, ofTexts key app uri tokenUri = .error fault ↔
    ∃ name, FirstBlank key app uri name ∧ fault = .configuration (name ++ " must not be empty")
  /-- Nothing is lost but slashes at the end of the address, and the client finds no more of them. -/
  kept : AllGiven key app uri → ∃ e n, ofTexts key app uri tokenUri = .ok e ∧ e.key = .text key ∧
    e.app = .text app ∧ uri.toList = e.uri.toList ++ List.replicate n '/' ∧ EndsBare e.uri ∧
    e.PlacesToken tokenUri ∧ e.location = ⟨e.uri, e.tokenUri⟩
  /-- Of blanks with slashes behind them blanks are kept, and of these no endpoint is made again. -/
  lost : SlashesAfterBlanks uri → ∀ e, ofTexts key app uri tokenUri = .ok e →
    isBlankText e.uri = true ∧ e.remade = .error (.configuration "endpoint_uri must not be empty")

/-- **Texts come to an endpoint in normal form or to a refusal**, unless the address is nothing but blanks with
slashes behind them. -/
theorem ofTexts_normalises (key app uri : String) (tokenUri : Option String) :
    Normalises key app uri tokenUri where
  due_iff := due_ofTexts_iff key app uri tokenUri
  refused_iff _ := ofTexts_eq_error_iff
  kept := by
    intro hgiven
    obtain ⟨n, hn⟩ := exists_slashes uri
    have hbare := endsBare_dropTrailingSlashes uri
    refine ⟨_, n, ofTexts_given hgiven _, rfl, rfl, hn, hbare, placesToken _ _ _ _, ?_⟩
    rw [location, hbare.dropTrailingSlashes_eq]
  lost := by
    intro hslashes e hmade
    have hgiven := allGiven_of_made hmade
    have hlost := isBlankText_of_slashes hslashes
    rw [ofTexts_given hgiven] at hmade
    cases hmade
    exact ⟨hlost, remade_of_blank hgiven.1 hgiven.2.1 hlost _⟩

/-- **A slash for an address** makes an endpoint with an empty one, of which no endpoint is made again. -/
theorem not_due_of_slash :
    ofTexts "key" "app" "/" none = .ok ⟨.text "key", .text "app", "", .text "/sts/v1.0/issueToken"⟩ ∧
      ¬ Due none (ofTexts "key" "app" "/" none) := by
  have hmade : ofTexts "key" "app" "/" none =
      .ok ⟨.text "key", .text "app", "", .text "/sts/v1.0/issueToken"⟩ := rfl
  refine ⟨hmade, fun hdue => ?_⟩
  rw [hmade] at hdue
  cases hdue with
  | made hnormal _ _ => cases hnormal.uri

end Texts

end Endpoint

end Phrasing
