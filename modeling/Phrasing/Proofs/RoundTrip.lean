import Phrasing.Proofs.IsoText
import Phrasing.Proofs.Slots
import Phrasing.Proofs.WireFormat

/-! # What is encoded reads back

The written form of a wire value that was made of a value holds an element of its kind, so it reads
as a wire value of this kind.  Every kind but one keeps its element as it is (`parse_toWire`).  A
point in time is written as a text, which ends in no letter Z and tells the point in time exactly if
its offset is in whole seconds (`parse_toWire_timestamp`).  An integer of too many digits is encoded and reads
back, but its text cannot be told, whichever way one goes about it (`told_of_encode`).
-/

namespace Phrasing

open Calendar

namespace WireValue

/-- A text without the letter Z stays as it is. -/
theorem zuluAsOffset_of_not_mem {text : String} (hupper : 'Z' ∉ text.toList)
    (hlower : 'z' ∉ text.toList) : zuluAsOffset text = text := by
  unfold zuluAsOffset
  split
  · rename_i rest h
    have hlast : 'Z' ∈ text.toList.reverse := h ▸ List.mem_cons_self
    exact absurd (List.mem_reverse.mp hlast) hupper
  · rename_i rest h
    have hlast : 'z' ∈ text.toList.reverse := h ▸ List.mem_cons_self
    exact absurd (List.mem_reverse.mp hlast) hlower
  · rfl

/-- The text of a point in time gives its offset in numbers. -/
theorem zuluAsOffset_iso (t : Timestamp) : zuluAsOffset t.iso = t.iso := by
  have hletter {letter : Char} (hdigit : isDigit letter = false)
      (hmarks : letter ∉ ['-', '+', ':', '.', 'T']) : letter ∉ t.iso.toList := by
    have hall : t.isoChars.all (· != letter) = true := by
      refine t.all_isoChars (fun c hc => ?_) fun c hc => ?_
      · exact bne_iff_ne.mpr (ne_of_isDigit hc hdigit)
      · exact bne_iff_ne.mpr fun h => hmarks (h ▸ hc)
    intro h
    rw [Timestamp.iso, String.toList_ofList] at h
    exact bne_iff_ne.mp (List.all_eq_true.mp hall letter h) rfl
  exact zuluAsOffset_of_not_mem (hletter (by decide) (by decide)) (hletter (by decide) (by decide))

/-- **A wire value reads back from its written form**, unless it is a point in time. -/
theorem parse_toWire {w : WireValue} (h : w.kind ≠ .timestamp) : parse w.toWire = .ok w := by
  have hfits : Fits w.kind w.element := by
    cases w with
    | text s => exact .text s
    | integer n => exact .integer n
    | float x =>
      cases x with
      | int n => exact .whole n
      | float x => exact .float x
    | boolean b => exact .boolean b
    | timestamp t verbatim => exact absurd rfl h
  rw [toWire, parse_of_describes (describes_form hfits)]
  cases w with
  | text s => rfl
  | integer n => rfl
  | float x => cases x <;> rfl
  | boolean b => rfl
  | timestamp t verbatim => exact absurd rfl h

/-- **A point in time reads back as its text tells it**, with that text. -/
theorem parse_toWire_timestamp (t : Timestamp) :
    parse (WireValue.timestamp t none).toWire = .ok (.timestamp t.told (some t.iso)) := by
  have hread : Timestamp.ofIso (zuluAsOffset t.iso) = .ok t.told := by
    rw [zuluAsOffset_iso, Timestamp.ofIso_iso]
  have hfits : Fits .timestamp (.text t.iso) := .timestamp hread
  rw [show (WireValue.timestamp t none).toWire = form .timestamp (.text t.iso) from rfl,
    parse_of_describes (describes_form hfits)]
  simp only [ofElement, readTimestamp, hread]

/-- What a wire value holds of a value: of a date the midnight with which it starts. -/
def held : Value → Value
  | .date d => .timestamp (.ofDate d)
  | v => v

/-- The written form of a wire value reads as a wire value of the same kind that is equal to it and holds that
value.  What comes of telling its text is the same for both and for the written form. -/
def ReadsBack (w : WireValue) (v : Value) : Prop :=
  ∃ read, parse w.toWire = .ok read ∧ read.kind = w.kind ∧ read.same w = true ∧ read.value = v ∧
    read.told = w.told ∧ decode w.toWire = w.told.mapError .mishap

theorem decode_toWire {w read : WireValue} (h : parse w.toWire = .ok read) :
    decode w.toWire = read.told.mapError .mishap := by
  show (parse w.toWire).bind _ = _
  rw [h]
  rfl

theorem readsBack_of_kind {w : WireValue} (hkind : w.kind ≠ .timestamp)
    (hnumber : w ≠ .float (.float .nan)) : ReadsBack w w.value :=
  ⟨w, parse_toWire hkind, rfl, same_self_iff.mpr hnumber, rfl, rfl,
    decode_toWire (parse_toWire hkind)⟩

theorem readsBack_timestamp {t : Timestamp} (ht : t.told = t) :
    ReadsBack (.timestamp t none) (.timestamp t) := by
  have hparse := parse_toWire_timestamp t
  rw [ht] at hparse
  have hdecode := decode_toWire hparse
  exact ⟨_, hparse, rfl, Timestamp.same_self t, rfl, rfl, hdecode⟩

/-- The text of what a value is encoded as can be told exactly if the value can be written. -/
theorem told_of_encode {v : Value} {w : WireValue} (h : encode v = .ok w) :
    w.told = if v.isWritable then .ok w.asText else .error (.tooManyDigits none) := by
  rw [told_eq]
  cases encode_eq_ok h with
  | text s | bool b | int n | timestamp t | date d =>
    cases h
    rfl
  | float hx =>
    rw [encode, if_pos hx] at h
    cases h
    rfl

/-- **Exactly the values with a wire form are encoded, and what was encoded reads back**, where the
offset of a point in time is in whole seconds.  The two ways to the text of what was encoded come to the same:
to its text, or, for an integer of too many digits, to the same mishap. -/
theorem parse_toWire_of_encode {v : Value}
    (hwhole : ∀ t o, v = .timestamp t → t.offset = some o → o.microseconds % 1000000 = 0) :
    ((∃ w, encode v = .ok w) ↔ HasForm v) ∧
      ∀ w, encode v = .ok w → ReadsBack w (held v) ∧
        w.told = if v.isWritable then .ok w.asText else .error (.tooManyDigits none) := by
  refine ⟨⟨?_, fun hv => ?_⟩, fun w hw => ⟨?_, told_of_encode hw⟩⟩
  · rintro ⟨w, hw⟩
    exact encode_eq_ok hw
  · rcases encode_cases v with ⟨_, hw⟩ | ⟨hno, _⟩
    · exact hw
    · exact absurd hv hno
  · cases encode_eq_ok hw with
    | text s =>
      cases hw
      exact readsBack_of_kind (w := .text s) (fun h => by cases h) fun h => by cases h
    | bool b =>
      cases hw
      exact readsBack_of_kind (w := .boolean b) (fun h => by cases h) fun h => by cases h
    | int n =>
      cases hw
      exact readsBack_of_kind (w := .integer n) (fun h => by cases h) fun h => by cases h
    | @float x hx =>
      rw [encode, if_pos hx] at hw
      cases hw
      -- A finite number is not the one that equals nothing.
      refine readsBack_of_kind (w := .float (.float x)) (fun h => by cases h) fun h => ?_
      cases h
      cases hx
    | timestamp t =>
      cases hw
      exact readsBack_timestamp (Timestamp.told_of_whole fun o => hwhole t o rfl)
    | date d =>
      cases hw
      exact readsBack_timestamp (t := .ofDate d) rfl

/-- A time on the first day there is, west of Greenwich by almost a day. -/
def firstDay : Timestamp :=
  ⟨⟨1, 1, 1, by decide⟩, ⟨5, 6, 7, 8, by decide, by decide, by decide, by decide⟩,
    some ⟨-86398000000, by decide⟩⟩

theorem parse_toWire_of_encode_firstDay :
    firstDay.iso = "0001-01-01T05:06:07.000008-23:59:58" ∧
      (∀ o, firstDay.offset = some o → o.microseconds % 1000000 = 0) ∧
      encode (.timestamp firstDay) = .ok (.timestamp firstDay none) ∧
      ReadsBack (.timestamp firstDay none) (.timestamp firstDay) ∧
      (WireValue.timestamp firstDay none).told = .ok "0001-01-01T05:06:07.000008-23:59:58" := by
  have hwhole : ∀ o, firstDay.offset = some o → o.microseconds % 1000000 = 0 := by
    intro o h
    cases h
    rfl
  have hiso : firstDay.iso = "0001-01-01T05:06:07.000008-23:59:58" := by decide
  obtain ⟨hback, htold⟩ := (parse_toWire_of_encode (v := .timestamp firstDay) fun t o ht => by
    cases ht
    exact hwhole o).2 _ rfl
  exact ⟨hiso, hwhole, rfl, hback, htold.trans (congrArg Except.ok hiso)⟩

end WireValue

end Phrasing
