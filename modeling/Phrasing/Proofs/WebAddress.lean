import Phrasing.Exchange.Address
import Phrasing.Proofs.Except
import Phrasing.Proofs.Trailing

/-! # Paths below an address

An absolute address keeps its scheme and its authority when slashes at its end are dropped and a
path is put behind it.  So what can be requested at the address can be requested at the path below
it, on the same host and for the same user (`requestable_below`).
-/

namespace Phrasing

open Text

namespace Address

/-- No character of ASCII that cannot be seen stands in a text exactly if none is found. -/
theorem firstUnseen?_eq_none_iff {cs : List Char} :
    firstUnseen? cs = none ↔ ∀ c ∈ cs, (c.toNat < 0x20 || c.toNat == 0x7F) = false := by
  unfold firstUnseen?
  rw [List.find?_eq_none]
  constructor
  · intro h c hc
    obtain ⟨i, hi, rfl⟩ := List.mem_iff_getElem.mp hc
    have hmem : (cs[i], i) ∈ cs.zipIdx := by
      rw [List.mem_zipIdx_iff_getElem?]
      exact List.getElem?_eq_getElem hi
    simpa using h _ hmem
  · rintro h ⟨c, i⟩ hmem
    have hc := List.fst_mem_of_mem_zipIdx hmem
    simpa using h c hc

/-! ## Taking absolute addresses apart -/

/-- A character that ends an authority. -/
def endsAuthority (c : Char) : Bool :=
  c == '/' || c == '?' || c == '#'

/-- A text starts with a scheme and an authority, and something else follows. -/
structure Absolute (cs scheme authority tail : List Char) : Prop where
  eq : cs = scheme ++ ':' :: '/' :: '/' :: (authority ++ tail)
  first : ∃ c ∈ scheme.head?, isLetter c = true
  inScheme : ∀ c ∈ scheme, inScheme c = true
  inAuthority : ∀ c ∈ authority, endsAuthority c = false
  ended : ∀ c ∈ tail.head?, endsAuthority c = true

theorem takeScheme_of_absolute {cs scheme authority tail : List Char}
    (h : Absolute cs scheme authority tail) :
    takeScheme cs = (some scheme, '/' :: '/' :: (authority ++ tail)) := by
  obtain ⟨first, hfirst, hletter⟩ := h.first
  have htake : cs.takeWhile inScheme = scheme := by
    rw [h.eq, List.takeWhile_append_of_pos h.inScheme, List.takeWhile_cons_of_neg (by decide),
      List.append_nil]
  have hdrop : cs.dropWhile inScheme = ':' :: '/' :: '/' :: (authority ++ tail) := by
    rw [h.eq, List.dropWhile_append_of_pos h.inScheme, List.dropWhile_cons_of_neg (by decide)]
  cases scheme with
  | nil => cases hfirst
  | cons c more =>
    cases hfirst
    unfold takeScheme
    rw [htake, hdrop]
    exact if_pos hletter

theorem cutAt_append {p : Char → Bool} {first second : List Char}
    (hfirst : ∀ c ∈ first, p c = false)
    (hsecond : ∀ c ∈ second.head?, p c = true) : cutAt p (first ++ second) = (first, second) := by
  have hall : ∀ c ∈ first, (!p c) = true := fun c hc => by rw [hfirst c hc]; rfl
  unfold cutAt
  rw [List.takeWhile_append_of_pos hall, List.dropWhile_append_of_pos hall]
  cases second with
  | nil => simp
  | cons c rest =>
    have hc := hsecond c rfl
    rw [List.takeWhile_cons_of_neg (by simp [hc]), List.dropWhile_cons_of_neg (by simp [hc]),
      List.append_nil]

/-- What follows an authority starts with a path that is empty or starts with a slash. -/
theorem path_of_ended {tail : List Char} (h : ∀ c ∈ tail.head?, endsAuthority c = true) :
    (cutAt (fun c => c == '?' || c == '#') tail).1 = [] ∨
      (cutAt (fun c => c == '?' || c == '#') tail).1.head? = some '/' := by
  cases tail with
  | nil => exact .inl rfl
  | cons c rest =>
    have hc := h c rfl
    unfold endsAuthority at hc
    unfold cutAt
    by_cases hmark : (c == '?' || c == '#') = true
    · rw [List.takeWhile_cons_of_neg (by simp only [hmark]; decide)]
      exact .inl rfl
    · rw [List.takeWhile_cons_of_pos (by simp only [hmark]; decide)]
      rw [Bool.or_assoc, Bool.or_eq_true, or_iff_left hmark] at hc
      exact .inr (congrArg some (beq_iff_eq.mp hc))

/-- What a cut leaves on either side. -/
theorem cutAt_spec (p : Char → Bool) (cs : List Char) :
    (cutAt p cs).1 ++ (cutAt p cs).2 = cs ∧ (∀ c ∈ (cutAt p cs).1, p c = false) ∧
      ∀ c ∈ (cutAt p cs).2.head?, p c = true := by
  refine ⟨List.takeWhile_append_dropWhile, ?_, ?_⟩
  · intro c hc
    have hkept := List.all_eq_true.mp (List.all_takeWhile (p := (!p ·)) (l := cs)) c hc
    simpa using hkept
  · intro c hc
    have hstop := List.head?_dropWhile_not (!p ·) cs
    rw [show (cs.dropWhile (!p ·)).head? = some c from hc] at hstop
    simpa using hstop

/-- **An absolute address is taken apart into its scheme, its authority, and a path that starts with
a slash.** -/
theorem ofChars_of_absolute {cs scheme authority tail : List Char}
    (h : Absolute cs scheme authority tail) :
    (Written.ofChars cs).scheme = some scheme ∧ (Written.ofChars cs).authority = some authority ∧
      ((Written.ofChars cs).path = [] ∨ (Written.ofChars cs).path.head? = some '/') := by
  have hcut : cutAt (fun c => c == '/' || c == '?' || c == '#') (authority ++ tail) =
      (authority, tail) :=
    cutAt_append h.inAuthority h.ended
  unfold Written.ofChars
  simp only [takeScheme_of_absolute h, hcut]
  exact ⟨trivial, trivial, path_of_ended h.ended⟩

/-- What a scheme is taken from. -/
theorem eq_of_takeScheme {cs scheme rest : List Char} (hne : scheme ≠ [])
    (h : takeScheme cs = (some scheme, rest)) :
    cs = scheme ++ ':' :: rest ∧ (∃ c ∈ scheme.head?, isLetter c = true) ∧
      ∀ c ∈ scheme, inScheme c = true := by
  have happend := List.takeWhile_append_dropWhile (p := inScheme) (l := cs)
  have hall : ∀ c ∈ cs.takeWhile inScheme, inScheme c = true := by
    intro c hc
    exact List.all_eq_true.mp List.all_takeWhile c hc
  unfold takeScheme at h
  split at h
  · cases h
    exact absurd rfl hne
  · rename_i first more rest' htake hdrop
    split at h
    · rename_i hletter
      cases h
      rw [htake, hdrop] at happend
      rw [htake] at hall
      exact ⟨happend.symm, ⟨first, rfl, hletter⟩, hall⟩
    · cases h
  · cases h

/-- A text that is taken apart into a scheme and an authority starts with them. -/
theorem absolute_of_ofChars {cs scheme authority : List Char} (hne : scheme ≠ [])
    (hscheme : (Written.ofChars cs).scheme = some scheme)
    (hauthority : (Written.ofChars cs).authority = some authority) :
    ∃ tail, Absolute cs scheme authority tail := by
  rcases htake : takeScheme cs with ⟨scheme', rest⟩
  simp only [Written.ofChars, htake] at hscheme hauthority
  subst hscheme
  obtain ⟨heq, hfirst, hall⟩ := eq_of_takeScheme hne htake
  split at hauthority
  · rename_i rest'
    cases hauthority
    obtain ⟨happend, hinside, hended⟩ :=
      cutAt_spec (fun c => c == '/' || c == '?' || c == '#') rest'
    refine ⟨_, ?_, hfirst, hall, hinside, hended⟩
    rw [happend]
    exact heq
  · cases hauthority

/-- **An absolute address stays one** without the slashes at its end and with a path behind it. -/
theorem Absolute.below {cs scheme authority tail : List Char}
    (h : Absolute cs scheme authority tail) (hne : authority ≠ []) (path : List Char) :
    ∃ tail', Absolute (dropTrailing (· == '/') cs ++ '/' :: path) scheme authority tail' := by
  -- The slashes at the end do not reach into the authority, for its last character is none.
  have hlast : ∀ c ∈ (scheme ++ ':' :: '/' :: '/' :: authority).getLast?, (c == '/') = false := by
    intro c hc
    have happend : scheme ++ ':' :: '/' :: '/' :: authority =
        (scheme ++ [':', '/', '/']) ++ authority := by simp
    rw [happend, List.getLast?_append, Option.mem_def] at hc
    have hauthority : authority.getLast? = some c := by
      simpa [List.getLast?_eq_some_getLast hne] using hc
    have hstays := h.inAuthority c (List.mem_of_getLast? hauthority)
    unfold endsAuthority at hstays
    simp only [Bool.or_eq_false_iff] at hstays
    exact hstays.1.1
  have hcs : cs = (scheme ++ ':' :: '/' :: '/' :: authority) ++ tail := by
    rw [h.eq]
    simp
  refine ⟨dropTrailing (· == '/') tail ++ '/' :: path, ?_, h.first, h.inScheme, h.inAuthority, ?_⟩
  · rw [hcs, dropTrailing_append tail hlast]
    simp
  · intro c hc
    cases hkept : dropTrailing (· == '/') tail with
    | nil =>
      rw [hkept] at hc
      cases hc
      rfl
    | cons first rest =>
      rw [hkept] at hc
      cases hc
      -- What is kept of the tail starts as the tail does.
      obtain ⟨more, hmore⟩ := dropTrailing_isPrefix (· == '/') tail
      refine h.ended _ ?_
      rw [← hmore, hkept]
      rfl

/-! ## Bringing parts into their usual spelling -/

/-- What scheme and host of an address come from. -/
theorem scheme_host_of_ofWritten {w : Written} {a : Address} (h : ofWritten w = .ok a) :
    a.scheme = (w.scheme.getD []).map lowerAscii ∧
      usualHost (cutAtPort (cutAtUser (w.authority.getD [])).2).1 = .ok a.host := by
  unfold ofWritten at h
  dsimp only at h
  obtain ⟨host, hhost, h⟩ := bind_eq_ok.mp h
  obtain ⟨port, _, h⟩ := bind_eq_ok.mp h
  obtain ⟨_, _, h⟩ := bind_eq_ok.mp h
  cases h
  exact ⟨rfl, hhost⟩

/-- An absolute address was written with a scheme and an authority. -/
theorem written_of_isAbsolute {w : Written} {a : Address} (h : ofWritten w = .ok a)
    (ha : a.isAbsolute = true) :
    ∃ scheme authority, w.scheme = some scheme ∧ scheme ≠ [] ∧ w.authority = some authority ∧
      authority ≠ [] ∧ a.host ≠ [] := by
  obtain ⟨hscheme, hhost⟩ := scheme_host_of_ofWritten h
  simp only [isAbsolute, Bool.and_eq_true, Bool.not_eq_true', List.isEmpty_eq_false_iff] at ha
  have hauthority : w.authority.getD [] ≠ [] := by
    intro hnone
    rw [hnone] at hhost
    exact ha.2 (Except.ok.inj hhost).symm
  cases hws : w.scheme with
  | none =>
    rw [hws] at hscheme
    exact absurd hscheme ha.1
  | some scheme =>
    cases hwa : w.authority with
    | none =>
      rw [hwa] at hauthority
      exact absurd rfl hauthority
    | some authority =>
      rw [hwa] at hauthority
      refine ⟨scheme, authority, rfl, ?_, rfl, hauthority, ha.2⟩
      rintro rfl
      rw [hws] at hscheme
      exact ha.1 hscheme

/-- Scheme and authority alone decide about scheme, user, host and port. -/
theorem ofWritten_congr {w w' : Written} {a : Address} (h : ofWritten w = .ok a)
    (hhost : a.host ≠ []) (hscheme : w'.scheme = w.scheme) (hauthority : w'.authority = w.authority)
    (hpath : w'.path = [] ∨ w'.path.head? = some '/') :
    ∃ a', ofWritten w' = .ok a' ∧ a'.scheme = a.scheme ∧ a'.user = a.user ∧ a'.host = a.host := by
  unfold ofWritten at h ⊢
  rw [hscheme, hauthority]
  dsimp only at h ⊢
  obtain ⟨host, hhostText, h⟩ := bind_eq_ok.mp h
  obtain ⟨port, hportText, h⟩ := bind_eq_ok.mp h
  obtain ⟨_, _, h⟩ := bind_eq_ok.mp h
  cases h
  rw [hhostText, hportText]
  -- With a host in front, a path may be empty or must start with a slash.
  have hstart : checkPath w'.path (!(w.scheme.getD []).isEmpty)
      (!(escapeOutside (fun c => c == '%' || inUser c)
          (cutAtUser (w.authority.getD [])).1).isEmpty ||
        !host.isEmpty || port.isSome) = .ok () := by
    have hsome : host.isEmpty = false := by
      cases host with
      | nil => exact absurd rfl hhost
      | cons c cs => rfl
    simp only [checkPath, hsome, Bool.not_false, Bool.or_true, Bool.true_or, if_true,
      List.isEmpty_iff, hpath]
  exact ⟨_,
    bind_eq_ok.mpr ⟨host, rfl, bind_eq_ok.mpr ⟨port, rfl, bind_eq_ok.mpr ⟨(), hstart, rfl⟩⟩⟩,
    rfl, rfl, rfl⟩

/-! ## Requesting below an address -/

/-- An absolute address is requested as it is spelled. -/
theorem ofChars_of_ofText {s : String} {a : Address} (h : ofText s = .ok a)
    (ha : a.isAbsolute = true) :
    ofChars s.toList = .ok a := by
  obtain ⟨b, hb, h⟩ := bind_eq_ok.mp h
  unfold requestedAt at h
  split at h
  · rwa [← Except.ok.inj h]
  · -- From any other address only a path is requested, which has no scheme.
    obtain ⟨_, _, h⟩ := bind_eq_ok.mp h
    obtain ⟨_, _, h⟩ := bind_eq_ok.mp h
    obtain ⟨scheme, _, hscheme, _⟩ := written_of_isAbsolute h ha
    cases hscheme

/-- **What can be requested at an absolute address can be requested at a path below it**, from the
same host and for the same user. -/
theorem requestable_below {s : String} {a : Address} (h : ofText s = .ok a)
    (ha : a.isAbsolute = true)
    (path : List Char) (hlength : s.length + (path.length + 1) ≤ mostChars)
    (hseen : firstUnseen? path = none) :
    ∃ a', ofText (dropTrailingSlashes s ++ String.ofList ('/' :: path)) = .ok a' ∧
      a'.isAbsolute = true ∧
      a'.user = a.user ∧ a'.host = a.host := by
  have hchars := ofChars_of_ofText h ha
  unfold ofChars at hchars
  split at hchars
  · cases hchars
  split at hchars
  · cases hchars
  rename_i hnone
  obtain ⟨scheme, authority, hscheme, hne, hauthority, hne', hhost⟩ :=
    written_of_isAbsolute hchars ha
  obtain ⟨tail, habsolute⟩ := absolute_of_ofChars hne hscheme hauthority
  obtain ⟨tail', hbelow⟩ := habsolute.below hne' path
  obtain ⟨hscheme', hauthority', hpath'⟩ := ofChars_of_absolute hbelow
  obtain ⟨a', hwritten, hsame, huser, hhost'⟩ :=
    ofWritten_congr hchars hhost (hscheme'.trans hscheme.symm)
    (hauthority'.trans hauthority.symm) hpath'
  have ha' : a'.isAbsolute = true := by
    rw [isAbsolute, hsame, hhost']
    exact ha
  have htext : (dropTrailingSlashes s ++ String.ofList ('/' :: path)).toList =
      dropTrailing (· == '/') s.toList ++ '/' :: path := by
    simp [dropTrailingSlashes]
  have hkept := dropTrailing_isPrefix (· == '/') s.toList
  have hshort : ¬ mostChars < (dropTrailing (· == '/') s.toList ++ '/' :: path).length := by
    have hle := hkept.length_le
    rw [String.length_toList] at hle
    rw [List.length_append, List.length_cons]
    omega
  -- Dropping slashes brings in no character, and the path below has been checked.
  have hvisible : firstUnseen? (dropTrailing (· == '/') s.toList ++ '/' :: path) = none := by
    rw [firstUnseen?_eq_none_iff] at hnone hseen ⊢
    intro c hc
    rcases List.mem_append.mp hc with hc | hc
    · exact hnone c (hkept.subset hc)
    · rcases List.mem_cons.mp hc with rfl | hc
      · decide
      · exact hseen c hc
  refine ⟨a', ?_, ha', huser, hhost'⟩
  have hspelled : ofChars (dropTrailing (· == '/') s.toList ++ '/' :: path) = .ok a' := by
    unfold ofChars
    rw [if_neg hshort, hvisible]
    exact hwritten
  rw [ofText, htext, hspelled]
  exact if_pos ha'

end Address

end Phrasing
