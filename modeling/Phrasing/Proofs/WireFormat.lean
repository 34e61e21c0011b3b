import Phrasing.Proofs.Spelling
import Phrasing.Wire

/-! # The written form of wire values

A value describes a wire value if it is a mapping that names a kind by its number and holds, under
the key of that kind, a list that starts with an element of it (`Describes`).  Exactly these values
are read, and whatever else is refused as malformed (`parse_iff_describes`).  What was read is
written down as its kind and that element and nothing more, and reads as itself again.

The obvious statement misses one thing: the refusal of an unknown kind quotes what stands there, and what
cannot be spelled cannot be quoted (`Unspeakable`).  Nothing that a JSON document holds is like that.
-/

namespace Phrasing

open Calendar

/-- A point in time equals itself. -/
theorem Calendar.Timestamp.same_self (t : Timestamp) : t.same t = true := by
  unfold same
  cases t.instant? <;> simp

namespace WireKind

@[simp] theorem ofCode?_code (kind : WireKind) : ofCode? kind.code = some kind := by
  cases kind <;> rfl

/-- The numbers of kinds are those from 0 to 4, each of another kind. -/
theorem ofCode?_eq_some_iff {n : Int} {kind : WireKind} :
    ofCode? n = some kind ↔ n = kind.code := by
  constructor
  · intro h
    unfold ofCode? at h
    split at h
    all_goals cases h
    all_goals rfl
  · rintro rfl
    exact ofCode?_code kind

theorem arrayKey_ne_kind (kind : WireKind) : Scalar.text "kind" ≠ .text kind.arrayKey := by
  cases kind <;> decide

end WireKind

namespace WireValue

/-! ## Elements -/

/-- The elements that a kind has. -/
inductive Fits : WireKind → Value → Prop where
  | text (s : String) : Fits .text (.text s)
  | integer (n : Int) : Fits .integer (.int n)
  | whole (n : Int) : Fits .float (.int n)
  | float (x : Binary64) : Fits .float (.float x)
  | boolean (b : Bool) : Fits .boolean (.bool b)
  | timestamp {s : String} {t : Timestamp} (h : Timestamp.ofIso (zuluAsOffset s) = .ok t) :
    Fits .timestamp (.text s)

/-- What a text gives as a point in time. -/
theorem readTimestamp_cases (s : String) :
    (∃ t, Timestamp.ofIso (zuluAsOffset s) = .ok t ∧
        readTimestamp s = .ok (.timestamp t (some s))) ∨
      (∃ e m, Timestamp.ofIso (zuluAsOffset s) = .error e ∧
        readTimestamp s = .error (.malformed m)) := by
  unfold readTimestamp
  dsimp only
  cases Timestamp.ofIso (zuluAsOffset s) with
  | ok t => exact .inl ⟨t, rfl, rfl⟩
  | error e => exact .inr ⟨e, _, rfl, rfl⟩

/-- **An element of its kind is read** and kept as it is. -/
theorem ofElement_of_fits {kind : WireKind} {element : Value} (h : Fits kind element) :
    ∃ w, ofElement kind element = .ok w ∧ w.kind = kind ∧ w.element = element := by
  cases h with
  | text s => exact ⟨_, rfl, rfl, rfl⟩
  | integer n => exact ⟨_, rfl, rfl, rfl⟩
  | whole n => exact ⟨_, rfl, rfl, rfl⟩
  | float x => exact ⟨_, rfl, rfl, rfl⟩
  | boolean b => exact ⟨_, rfl, rfl, rfl⟩
  | @timestamp s t ht =>
    rcases readTimestamp_cases s with ⟨t', _, hread⟩ | ⟨e, _, he, _⟩
    · exact ⟨_, hread, rfl, rfl⟩
    · rw [ht] at he
      cases he

/-- **Any other element is refused** as malformed. -/
theorem ofElement_of_not_fits {kind : WireKind} {element : Value} (h : ¬ Fits kind element) :
    ∃ m, ofElement kind element = .error (.malformed m) := by
  unfold ofElement
  split
  · exact absurd (.text _) h
  · exact absurd (.integer _) h
  · exact absurd (.whole _) h
  · exact absurd (.float _) h
  · exact absurd (.boolean _) h
  · rename_i s
    rcases readTimestamp_cases s with ⟨t, ht, _⟩ | ⟨_, m, _, hread⟩
    · exact absurd (.timestamp ht) h
    · exact ⟨m, hread⟩
  · exact ⟨_, rfl⟩

/-! ## Descriptions -/

/-- A value describes a wire value: a mapping that names a kind by its number and holds a list that
starts with an element of that kind under the key that belongs to it. -/
structure Describes (data : Value) (kind : WireKind) (first : Value) : Prop where
  isMapping : ∃ entries, data = .mapping entries
  names : data.get? "kind" = some (.int kind.code)
  holds : ∃ rest, data.get? kind.arrayKey = some (.list (first :: rest))
  fits : Fits kind first

theorem kindOf?_eq_some_iff {data : Value} {kind : WireKind} :
    kindOf? data = some kind ↔ data.get? "kind" = some (.int kind.code) := by
  unfold kindOf?
  split
  · rename_i n hn
    rw [hn, WireKind.ofCode?_eq_some_iff]
    constructor
    · rintro rfl
      rfl
    · intro h
      cases h
      rfl
  · rename_i hno
    constructor
    · intro h
      cases h
    · exact fun h => absurd h (hno _)

/-- A description is read by its element. -/
theorem parse_of_describes {data first : Value} {kind : WireKind}
    (h : Describes data kind first) : parse data = ofElement kind first := by
  obtain ⟨entries, rfl⟩ := h.isMapping
  obtain ⟨rest, hrest⟩ := h.holds
  simp only [parse, kindOf?_eq_some_iff.mpr h.names, hrest]

/-- A mapping has something in the place of a kind that names none and cannot be spelled, for that reason. -/
structure Unspeakable (data : Value) (m : Mishap) : Prop where
  isMapping : ∃ entries, data = .mapping entries
  unknown : kindOf? data = none
  unspelled : (data.getD "kind").checkLiteral Value.mostLevels = .error m

theorem parse_of_unspeakable {data : Value} {m : Mishap} (h : Unspeakable data m) :
    parse data = .error (.mishap m) := by
  obtain ⟨⟨entries, rfl⟩, hunknown, hunspelled⟩ := h
  have hspelled : ((Value.mapping entries).getD "kind").spelled = .error m := by
    rw [Value.spelled, hunspelled]
    rfl
  simp only [parse, hunknown, unknownKind, hspelled]

/-- **What is no description is refused** as malformed, unless the refusal cannot be put into words. -/
theorem parse_of_not_describes {data : Value} (h : ¬ ∃ kind first, Describes data kind first) :
    (∃ m, Unspeakable data m) ∨ ∃ m, parse data = .error (.malformed m) := by
  unfold parse
  split
  · rename_i entries
    split
    · rename_i hunknown
      cases hspelled : ((Value.mapping entries).getD "kind").checkLiteral Value.mostLevels with
      | ok _ =>
        refine .inr ⟨"Unknown wire value kind: " ++ ((Value.mapping entries).getD "kind").literal, ?_⟩
        rw [unknownKind, Value.spelled, hspelled]
        rfl
      | error m => exact .inl ⟨m, ⟨entries, rfl⟩, hunknown, hspelled⟩
    · rename_i kind hkind
      split
      · rename_i first rest hfirst
        refine .inr (ofElement_of_not_fits fun hfits => h ⟨kind, first, ?_⟩)
        exact ⟨⟨entries, rfl⟩, kindOf?_eq_some_iff.mp hkind, ⟨rest, hfirst⟩, hfits⟩
      · exact .inr ⟨_, rfl⟩
  · exact .inr ⟨_, rfl⟩

/-- Nothing that a JSON document holds is unspeakable. -/
theorem not_unspeakable_of_checkLiteral {data : Value} (h : data.checkLiteral Value.mostLevels = .ok ())
    (m : Mishap) : ¬ Unspeakable data m := by
  intro hm
  cases hm.unspelled.symm.trans (Value.checkLiteral_getD h)

/-- **A value is read as a wire value or refused**, and if not as malformed then because it is
unspeakable. -/
theorem parse_cases (data : Value) :
    (∃ w, parse data = .ok w ∧ Describes data w.kind w.element) ∨
      (∃ m, parse data = .error (.malformed m)) ∨
      ∃ m, Unspeakable data m ∧ parse data = .error (.mishap m) := by
  by_cases h : ∃ kind first, Describes data kind first
  · obtain ⟨kind, first, h⟩ := h
    obtain ⟨w, hw, rfl, rfl⟩ := ofElement_of_fits h.fits
    exact .inl ⟨w, (parse_of_describes h).trans hw, h⟩
  · rcases parse_of_not_describes h with ⟨m, hm⟩ | hm
    · exact .inr (.inr ⟨m, hm, parse_of_unspeakable hm⟩)
    · exact .inr (.inl hm)

/-- What is read has the kind and the element that its description names. -/
theorem describes_of_parse {data : Value} {w : WireValue} (h : parse data = .ok w) :
    Describes data w.kind w.element := by
  rcases parse_cases data with ⟨w', hw, hdescribes⟩ | ⟨m, hm⟩ | ⟨m, _, hm⟩
  · cases hw.symm.trans h
    exact hdescribes
  · cases hm.symm.trans h
  · cases hm.symm.trans h

/-! ## Texts -/

/-- The element of a wire value is a scalar. -/
theorem exists_scalar_of_element (w : WireValue) : ∃ s, w.element = .scalar s := by
  cases w with
  | float x => cases x <;> exact ⟨_, rfl⟩
  | text | integer | boolean | timestamp => exact ⟨_, rfl⟩

/-- The text of a wire value can be told exactly if its element can be written. -/
theorem told_eq (w : WireValue) :
    w.told = if w.element.isWritable then .ok w.asText else .error (.tooManyDigits none) := by
  obtain ⟨s, hs⟩ := exists_scalar_of_element w
  rw [told, hs, Value.checkLiteral_scalar, Scalar.checkDigits]
  show _ = if s.isWritable then _ else _
  cases s.isWritable <;> rfl

theorem told_eq_ok {w : WireValue} {text : String} (h : w.told = .ok text) : text = w.asText := by
  rw [told_eq] at h
  split at h
  · exact (Except.ok.inj h).symm
  · cases h

theorem decode_mapping (entries : List (Scalar × Value)) :
    decode (.mapping entries) = (parse (.mapping entries)).bind fun w => w.told.mapError .mishap :=
  rfl

/-- A mapping from which a text can be told: if it reads as a wire value, then as one with a text, and
otherwise it is not unspeakable. -/
structure Telling (written : Value) : Prop where
  told : ∀ w, parse written = .ok w → w.told = .ok w.asText
  speakable : ∀ m, ¬ Unspeakable written m

/-- What stands in a JSON document is telling. -/
theorem telling_of_checkLiteral {written : Value} (h : written.checkLiteral Value.mostLevels = .ok ()) :
    Telling written where
  told := by
    intro w hw
    obtain ⟨_, _, ⟨rest, hrest⟩, _⟩ := describes_of_parse hw
    have hlist := Value.checkLiteral_get? h hrest
    rw [WireValue.told, Value.checkLiteral_of_mem hlist List.mem_cons_self]
    rfl
  speakable := not_unspeakable_of_checkLiteral h

/-- Only a mapping is decoded as the written form of a wire value. -/
theorem decode_of_not_mapping {data : Value} (h : ∀ entries, data ≠ .mapping entries) :
    decode data = .error (.mishap (.notDecodable data.typeName)) := by
  unfold decode
  split
  · exact absurd rfl (h _)
  · rfl

/-- What is not decoded is refused as malformed, or a mishap keeps it from being told. -/
theorem decode_eq_error {data : Value} {fault : Fault} (h : decode data = .error fault) :
    (∃ m, fault = .malformed m) ∨ ∃ m, fault = .mishap m := by
  by_cases hmapping : ∃ entries, data = .mapping entries
  · obtain ⟨entries, rfl⟩ := hmapping
    rw [decode_mapping] at h
    rcases parse_cases (.mapping entries) with ⟨w, hw, _⟩ | ⟨m, hm⟩ | ⟨m, _, hm⟩
    · rw [hw] at h
      obtain ⟨m, _, rfl⟩ := mapError_eq_error.mp h
      exact .inr ⟨m, rfl⟩
    · rw [hm] at h
      cases h
      exact .inl ⟨m, rfl⟩
    · rw [hm] at h
      cases h
      exact .inr ⟨m, rfl⟩
  · rw [decode_of_not_mapping (not_exists.mp hmapping)] at h
    cases h
    exact .inr ⟨_, rfl⟩

/-- A written form describes its element. -/
theorem describes_form {kind : WireKind} {element : Value} (h : Fits kind element) :
    Describes (form kind element) kind element where
  isMapping := ⟨_, rfl⟩
  names := rfl
  holds := by
    refine ⟨[], ?_⟩
    show (if Scalar.text "kind" = .text kind.arrayKey then _ else _) = _
    rw [if_neg kind.arrayKey_ne_kind]
    exact if_pos rfl
  fits := h

/-! ## Equality with oneself -/

/-- A wire value equals itself, unless it is the number that equals nothing. -/
theorem same_self_iff {w : WireValue} : w.same w = true ↔ w ≠ .float (.float .nan) := by
  cases w with
  | text s => simp [same]
  | integer n => simp [same]
  | float x =>
    cases x with
    | int n => simp [same, Numeral.same]
    | float x => cases x <;> simp [same, Numeral.same, Binary64.same]
  | boolean b => simp [same]
  | timestamp t verbatim => simp [same, Timestamp.same_self]

/-! ## Reading -/

/-- Elements after the first and the lists of other kinds do not matter. -/
example :
    (parse (.object [("intValues", .list [.int 3]), ("kind", .int 4),
      ("dateTimeValues", .list [.text "2019-01-01T10:00Z", .null])])).toOption.map toWire =
      some (form .timestamp (.text "2019-01-01T10:00Z")) := by
  rfl

end WireValue

end Phrasing
