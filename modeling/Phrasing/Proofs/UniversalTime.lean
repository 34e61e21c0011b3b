import Phrasing.Proofs.WireFormat
import Phrasing.Proofs.ZeroOffset

/-! # A final letter Z

A text that ends in the letter Z should stand for a time of day in universal time, that of the text
without the letter (`MeansUniversal`).  It does so exactly if the text without the letter tells a time of
day, with no offset of its own but that of zero (`TellsTime`), and every such text without an offset is
accepted with the letter.

Otherwise the letter goes astray (`Astray`): after a date it gives a local midnight, after a time and one
character more it hides that character, and after an offset that a null character ends it does not
count (`parse_zulu`).
-/

namespace Phrasing

open Calendar

namespace WireValue

/-- A text read with a final letter Z means a time of day in universal time: the date and the time that
the text alone is read as. -/
def MeansUniversal (s : String) (t : Timestamp) : Prop :=
  t.offset = some .utc ∧ ∃ u, Timestamp.ofIso s = .ok u ∧ u.date = t.date ∧ u.time = t.time

/-- A text tells a time of day: it is read alone, goes on after its date, and has no offset but that of
zero. -/
def TellsTime (s : String) : Prop :=
  ∃ u, Timestamp.ofIso s = .ok u ∧ extent? s.toList ≠ some .date ∧
    (u.offset = none ∨ u.offset = some .utc)

/-- How a text is read with a final letter Z that does not count as it should. -/
inductive Astray (s : String) (t : Timestamp) : Prop where
  /-- After a date the letter makes no difference: both give the local midnight. -/
  | date (hextent : extent? s.toList = some .date) (hmidnight : t = .ofDate t.date)
    (hread : Timestamp.ofIso s = .ok t)
  /-- Without the letter one character would be left over. -/
  | leftover (hextent : extent? s.toList = some .clock) (hutc : t.offset = some .utc)
    (hread : Timestamp.ofIso s = .error .unreadable)
  /-- The text has an offset of its own, which stays. -/
  | offset {o : Offset} (hextent : extent? s.toList = some .offset) (hoffset : t.offset = some o)
    (hother : o ≠ .utc) (hread : Timestamp.ofIso s = .ok t)

section Reading

variable {s : String} {letter : Char} {t u : Timestamp}

theorem zuluAsOffset_push (hletter : letter = 'Z' ∨ letter = 'z') (s : String) :
    zuluAsOffset (s.push letter) = String.ofList (s.toList ++ zeroOffset) := by
  unfold zuluAsOffset
  rw [String.toList_push, List.reverse_append, List.reverse_singleton, List.singleton_append]
  rcases hletter with rfl | rfl
  · show String.ofList (s.toList.reverse.reverse ++ _) = _
    rw [List.reverse_reverse]
    rfl
  · show String.ofList (s.toList.reverse.reverse ++ _) = _
    rw [List.reverse_reverse]
    rfl

theorem ofIso_eq_ok_iff :
    Timestamp.ofIso s = .ok t ↔ ∃ raw, readRaw? s.toList = some raw ∧ raw.check = .ok t := by
  unfold Timestamp.ofIso
  cases readRaw? s.toList with
  | none => exact iff_of_false nofun nofun
  | some raw =>
    constructor
    · exact fun h => ⟨raw, rfl, h⟩
    · rintro ⟨_, hraw, h⟩
      cases hraw
      exact h

/-- The written form of a point in time is read by its text. -/
theorem parse_timestamp_iff {text : String} {w : WireValue} :
    parse (form .timestamp (.text text)) = .ok w ↔
      ∃ t, Timestamp.ofIso (zuluAsOffset text) = .ok t ∧ w = .timestamp t (some text) := by
  have hparse : parse (form .timestamp (.text text)) = readTimestamp text := rfl
  rw [hparse]
  rcases readTimestamp_cases text with ⟨t, ht, hread⟩ | ⟨e, m, he, hread⟩
  · rw [hread, ht]
    constructor
    · intro h
      cases h
      exact ⟨t, rfl, rfl⟩
    · rintro ⟨_, heq, rfl⟩
      cases heq
      rfl
  · rw [hread, he]
    exact iff_of_false nofun nofun

/-- What is left over without the letter is not read alone. -/
theorem not_ofIso_of_unreadable (h : readRaw? s.toList = none) : Timestamp.ofIso s = .error .unreadable := by
  unfold Timestamp.ofIso
  rw [h]

theorem midnight_of_checkTime {time : TimeOfDay} (h : checkTime 0 0 0 0 = .ok time) :
    time = .midnight := by
  cases (checkTime_self .midnight).symm.trans h
  rfl

theorem exists_of_checkOffset_some {n : Int} {offset : Option Offset}
    (h : checkOffset (some n) = .ok offset) : ∃ o, offset = some o := by
  unfold checkOffset at h
  cases ho : Offset.of? n with
  | none =>
    simp only [ho] at h
    cases h
  | some o =>
    simp only [ho] at h
    exact ⟨o, (Except.ok.inj h).symm⟩

/-- **A text with a final letter Z is read as it should be or goes astray**, as the text alone decides. -/
theorem meansUniversal_or_astray (h : Timestamp.ofIso (String.ofList (s.toList ++ zeroOffset)) = .ok t) :
    (MeansUniversal s t ∧ TellsTime s) ∨ (Astray s t ∧ ¬ MeansUniversal s t ∧ ¬ TellsTime s) := by
  obtain ⟨raw, hraw, hcheck⟩ := ofIso_eq_ok_iff.mp h
  rw [String.toList_ofList] at hraw
  have hsame : readRaw? s.toList = some raw → Timestamp.ofIso s = .ok t :=
    fun halone => ofIso_eq_ok_iff.mpr ⟨raw, halone, hcheck⟩
  obtain ⟨hoffset, hdate, htime⟩ := RawTimestamp.check_eq_ok_iff.mp hcheck
  cases readBefore_of_append hraw with
  | date hextent hmidnight hread =>
    right
    rw [hmidnight] at hoffset htime
    have hlocal : none = t.offset := Except.ok.inj hoffset
    have htimeless : t.time = .midnight := midnight_of_checkTime htime
    refine ⟨.date hextent ?_ (hsame hread), ?_, ?_⟩
    · obtain ⟨date, time, offset⟩ := t
      cases hlocal
      cases htimeless
      rfl
    · rintro ⟨hutc, _⟩
      cases hlocal.trans hutc
    · rintro ⟨_, _, hgoes, _⟩
      exact hgoes hextent
  | clock hextent hzero hread =>
    left
    rw [hzero] at hoffset
    have hutc : some .utc = t.offset := Except.ok.inj hoffset
    have halone : Timestamp.ofIso s = .ok { t with offset := none } :=
      ofIso_eq_ok_iff.mpr ⟨_, hread, RawTimestamp.check_eq_ok_iff.mpr ⟨rfl, hdate, htime⟩⟩
    refine ⟨⟨hutc.symm, _, halone, rfl, rfl⟩, _, halone, ?_, .inl rfl⟩
    rw [hextent]
    exact nofun
  | leftover hextent hzero hread =>
    right
    rw [hzero] at hoffset
    have hutc : some .utc = t.offset := Except.ok.inj hoffset
    have halone := not_ofIso_of_unreadable hread
    refine ⟨.leftover hextent hutc.symm halone, ?_, ?_⟩
    · rintro ⟨_, u, hu, _⟩
      cases halone.symm.trans hu
    · rintro ⟨u, hu, _⟩
      cases halone.symm.trans hu
  | offset hextent hsome hread =>
    have halone := hsame hread
    obtain ⟨o, ho⟩ : ∃ o, t.offset = some o := by
      rw [hsome] at hoffset
      exact exists_of_checkOffset_some hoffset
    by_cases hutc : o = .utc
    · left
      subst hutc
      refine ⟨⟨ho, t, halone, rfl, rfl⟩, t, halone, ?_, .inr ho⟩
      rw [hextent]
      exact nofun
    · right
      refine ⟨.offset hextent ho hutc halone, ?_, ?_⟩
      · rintro ⟨hzero, _⟩
        exact hutc (Option.some.inj (ho.symm.trans hzero))
      · rintro ⟨u, hu, _, hzero⟩
        cases halone.symm.trans hu
        rcases hzero with hnone | hzero
        · cases ho.symm.trans hnone
        · exact hutc (Option.some.inj (ho.symm.trans hzero))

/-- A time of day without an offset is one of universal time before the offset of zero. -/
theorem ofIso_append_of_clock (hextent : extent? s.toList = some .clock) (h : Timestamp.ofIso s = .ok u) :
    Timestamp.ofIso (String.ofList (s.toList ++ zeroOffset)) = .ok { u with offset := some .utc } := by
  obtain ⟨raw, hraw, hcheck⟩ := ofIso_eq_ok_iff.mp h
  obtain ⟨_, hdate, htime⟩ := RawTimestamp.check_eq_ok_iff.mp hcheck
  refine ofIso_eq_ok_iff.mpr ⟨{ raw with offset := some 0 }, ?_, ?_⟩
  · rw [String.toList_ofList]
    exact readRaw?_append_of_clock hextent hraw
  · exact RawTimestamp.check_eq_ok_iff.mpr ⟨rfl, hdate, htime⟩

/-- **A final letter Z means universal time exactly if the text before it tells a time of day.**  A text
that tells none goes astray with the letter, and a time of day without an offset is accepted with it. -/
theorem parse_zulu (hletter : letter = 'Z' ∨ letter = 'z') (s : String) :
    (∀ w, parse (form .timestamp (.text (s.push letter))) = .ok w →
      ∃ t, w = .timestamp t (some (s.push letter)) ∧ (MeansUniversal s t ↔ TellsTime s) ∧
        (¬ TellsTime s → Astray s t)) ∧
      ∀ u, Timestamp.ofIso s = .ok u → extent? s.toList = some .clock →
        parse (form .timestamp (.text (s.push letter))) =
          .ok (.timestamp { u with offset := some .utc } (some (s.push letter))) := by
  constructor
  · intro w h
    obtain ⟨t, ht, rfl⟩ := parse_timestamp_iff.mp h
    rw [zuluAsOffset_push hletter] at ht
    refine ⟨t, rfl, ?_⟩
    rcases meansUniversal_or_astray ht with ⟨hmeans, htells⟩ | ⟨hastray, hmeans, htells⟩
    · exact ⟨iff_of_true hmeans htells, fun hnot => absurd htells hnot⟩
    · exact ⟨iff_of_false hmeans htells, fun _ => hastray⟩
  · intro u hu hextent
    refine parse_timestamp_iff.mpr ⟨_, ?_, rfl⟩
    rw [zuluAsOffset_push hletter]
    exact ofIso_append_of_clock hextent hu

/-- The first Tuesday of 2019 by its week, with a time in the basic form. -/
theorem parse_zulu_week :
    ∃ t, parse (form .timestamp (.text "2019-W01-2 103000,5z")) =
        .ok (.timestamp t (some "2019-W01-2 103000,5z")) ∧
      MeansUniversal "2019-W01-2 103000,5" t ∧ t.date.iso = "2019-01-01" := by
  have hread : Timestamp.ofIso "2019-W01-2 103000,5" = .ok ⟨⟨2019, 1, 1, by decide⟩,
      ⟨10, 30, 0, 500000, by decide, by decide, by decide, by decide⟩, none⟩ := rfl
  obtain ⟨hafter, haccepted⟩ := parse_zulu (.inr rfl) "2019-W01-2 103000,5"
  have hparse := haccepted _ hread rfl
  obtain ⟨t, ht, hmeans, _⟩ := hafter _ hparse
  cases ht
  exact ⟨_, hparse, hmeans.mpr ⟨_, hread, by decide, .inl rfl⟩, by decide⟩

/-- A final letter Z does not mean universal time after a date. -/
theorem not_meansUniversal_of_date :
    ¬ ∀ s w, parse (form .timestamp (.text (s.push 'Z'))) = .ok w →
      ∃ t, w = .timestamp t (some (s.push 'Z')) ∧ MeansUniversal s t := by
  intro hall
  have hparse : parse (form .timestamp (.text ("2019-01-01".push 'Z'))) =
      .ok (.timestamp (.ofDate ⟨2019, 1, 1, by decide⟩) (some "2019-01-01Z")) :=
    parse_timestamp_iff.mpr ⟨_, rfl, rfl⟩
  obtain ⟨t, ht, hutc, _⟩ := hall _ _ hparse
  cases ht
  cases hutc

end Reading

end WireValue

end Phrasing
