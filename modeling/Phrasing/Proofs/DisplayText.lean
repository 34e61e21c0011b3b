import Phrasing.Generation
import Phrasing.Proofs.WireFormat

/-! # What a document has to display

The document that comes back for a reference can be any value.  It is mute if there is no text to
display in it, for whatever reason (`Mute`); otherwise it shows something (`Shows`), which should be
the written form of a wire value.  `Due` says what is due then: a response without a text, one with the
text of the wire value, or a refusal as malformed.

Reading a document comes to what is due for it unless it shows something other than an object.  That
is not looked at as a written form, and so not refused as one: a mishap passes through instead
(`ofValue_reads`, `not_due_of_bare_text`).  A value that no JSON text can hold may besides show something from
which no text can be told, because it has too many digits or goes too deep (`Telling`).
-/

namespace Phrasing

namespace GenerationResponse

open WireValue

/-- A document without a text to display: it is no object; it has no outputs, or they count as nothing
or are no object; or the text in them is absent or null. -/
inductive Mute (data : Value) : Prop where
  | shapeless (h : ∀ entries, data ≠ .mapping entries)
  | noOutputs (h : data.get? "Outputs" = none)
  | vacantOutputs {outputs : Value} (h : data.get? "Outputs" = some outputs)
    (hvacant : outputs.isVacant = true)
  | shapelessOutputs {outputs : Value} (h : data.get? "Outputs" = some outputs)
    (hshapeless : ∀ entries, outputs ≠ .mapping entries)
  | noText {outputs : Value} (h : data.get? "Outputs" = some outputs)
    (hnone : outputs.get? "DisplayText" = none)
  | nullText {outputs : Value} (h : data.get? "Outputs" = some outputs)
    (hnull : outputs.get? "DisplayText" = some .null)

/-- A document shows what stands in its outputs as the text to display, if that is not null. -/
def Shows (data written : Value) : Prop :=
  ∃ outputs, data.get? "Outputs" = some outputs ∧ outputs.get? "DisplayText" = some written ∧
    written ≠ .null

/-- What is due for a document: a response with the template that it reports, without a text if the
document is mute and with the text of the wire value that it shows; or a refusal as malformed. -/
inductive Due (data : Value) : Except Fault GenerationResponse → Prop where
  | mute (h : Mute data) : Due data (.ok ⟨data.getD "templateId", none⟩)
  | shown {written : Value} {w : WireValue} (h : Shows data written) (hw : parse written = .ok w) :
    Due data (.ok ⟨data.getD "templateId", some w.asText⟩)
  | malformed {written : Value} {m : String} (h : Shows data written)
    (hm : parse written = .error (.malformed m)) : Due data (.error (.malformed m))

theorem get?_of_shapeless {v : Value} (h : ∀ entries, v ≠ .mapping entries) (name : String) :
    v.get? name = none := by
  unfold Value.get?
  split
  · exact absurd rfl (h _)
  · rfl

/-- Nothing stands in a value that counts as nothing. -/
theorem get?_of_isVacant {v : Value} (h : v.isVacant = true) (name : String) :
    v.get? name = none := by
  cases v with
  | mapping entries =>
    cases List.isEmpty_iff.mp h
    rfl
  | _ => rfl

/-- The text to display stands in the outputs. -/
theorem displayValue_eq {data outputs : Value} (h : data.get? "Outputs" = some outputs) :
    displayValue data = (outputs.get? "DisplayText").getD .null := by
  simp only [displayValue, Value.getD, h, Option.getD_some]

theorem displayValue_of_none {data : Value} (h : data.get? "Outputs" = none) :
    displayValue data = .null := by
  simp only [displayValue, Value.getD, h, Option.getD_none]
  rfl

theorem displayValue_of_mute {data : Value} (h : Mute data) : displayValue data = .null := by
  cases h with
  | shapeless h => exact displayValue_of_none (get?_of_shapeless h _)
  | noOutputs h => exact displayValue_of_none h
  | vacantOutputs h hvacant => rw [displayValue_eq h, get?_of_isVacant hvacant, Option.getD_none]
  | shapelessOutputs h hshapeless =>
    rw [displayValue_eq h, get?_of_shapeless hshapeless, Option.getD_none]
  | noText h hnone => rw [displayValue_eq h, hnone, Option.getD_none]
  | nullText h hnull => rw [displayValue_eq h, hnull, Option.getD_some]

theorem displayValue_of_shows {data written : Value} (h : Shows data written) :
    displayValue data = written := by
  obtain ⟨outputs, houtputs, hwritten, _⟩ := h
  rw [displayValue_eq houtputs, hwritten, Option.getD_some]

/-- A document shows one thing at most. -/
theorem Shows.unique {data written written' : Value} (h : Shows data written)
    (h' : Shows data written') : written = written' :=
  (displayValue_of_shows h).symm.trans (displayValue_of_shows h')

/-- A document that is not mute shows something. -/
theorem mute_or_shows (data : Value) : Mute data ∨ ∃ written, Shows data written := by
  cases houtputs : data.get? "Outputs" with
  | none => exact .inl (.noOutputs houtputs)
  | some outputs =>
    cases hwritten : outputs.get? "DisplayText" with
    | none => exact .inl (.noText houtputs hwritten)
    | some written =>
      by_cases hnull : written = .null
      · exact .inl (.nullText houtputs (hnull ▸ hwritten))
      · exact .inr ⟨written, outputs, houtputs, hwritten, hnull⟩

/-- A mute document shows nothing. -/
theorem Mute.not_shows {data : Value} (h : Mute data) (written : Value) : ¬ Shows data written := by
  intro hshows
  have hnull := (displayValue_of_shows hshows).symm.trans (displayValue_of_mute h)
  obtain ⟨_, _, _, hne⟩ := hshows
  exact hne hnull

theorem ofValue_of_mute {data : Value} (h : Mute data) :
    ofValue data = .ok ⟨data.getD "templateId", none⟩ := by
  rw [ofValue, displayValue_of_mute h]

theorem ofValue_of_shows {data written : Value} (h : Shows data written) :
    ofValue data = (decode written).map fun text => ⟨data.getD "templateId", some text⟩ := by
  rw [ofValue, displayValue_of_shows h]
  obtain ⟨_, _, _, hne⟩ := h
  split
  · exact absurd rfl hne
  · rfl

/-- A document that shows an object from which a text can be told comes to what is due for it. -/
theorem due_of_telling {data : Value} {entries : List (Scalar × Value)} (hshows : Shows data (.mapping entries))
    (htelling : Telling (.mapping entries)) : Due data (ofValue data) := by
  rw [ofValue_of_shows hshows, decode_mapping]
  rcases parse_cases (.mapping entries) with ⟨w, hw, _⟩ | ⟨m, hm⟩ | ⟨m, hm, _⟩
  · rw [hw]
    show Due data (Except.map _ (w.told.mapError Fault.mishap))
    rw [htelling.told w hw]
    exact .shown hshows hw
  · rw [hm]
    exact .malformed hshows hm
  · exact absurd hm (htelling.speakable m)

/-- One that shows an object from which none can be told comes to a mishap. -/
theorem mishap_of_not_telling {data : Value} {entries : List (Scalar × Value)}
    (hshows : Shows data (.mapping entries)) (htelling : ¬ Telling (.mapping entries)) :
    ∃ m, ofValue data = .error (.mishap m) := by
  rw [ofValue_of_shows hshows, decode_mapping]
  rcases parse_cases (.mapping entries) with ⟨w, hw, _⟩ | ⟨m, hm⟩ | ⟨m, _, hm⟩
  · rw [hw]
    cases htold : w.told with
    | error m => exact ⟨m, congrArg (Except.map _) (congrArg (Except.mapError Fault.mishap) htold)⟩
    | ok text =>
      refine absurd ⟨fun w' hw' => ?_, fun m hm => ?_⟩ htelling
      · cases hw.symm.trans hw'
        rw [htold, told_eq_ok htold]
      · cases hw.symm.trans (parse_of_unspeakable hm)
  · refine absurd ⟨fun w hw => ?_, fun m' hm' => ?_⟩ htelling
    · cases hm.symm.trans hw
    · cases hm.symm.trans (parse_of_unspeakable hm')
  · rw [hm]
    exact ⟨m, rfl⟩

/-- A mishap is never due. -/
theorem not_due_mishap {data : Value} {m : Mishap} : ¬ Due data (.error (.mishap m)) :=
  nofun

/-- How a document is read.  It comes to what is due for it exactly if it shows nothing but an object from which
a text can be told, as every object of a JSON text is; for anything else that it shows a mishap passes through.
And it gives a response without a text exactly if it is mute. -/
structure Reads (data : Value) : Prop where
  due_iff : Due data (ofValue data) ↔
    ∀ written, Shows data written → (∃ entries, written = .mapping entries) ∧ Telling written
  telling : Json.IsDocument data → ∀ written, Shows data written → Telling written
  astray : ∀ written, Shows data written → (∀ entries, written ≠ .mapping entries) →
    ofValue data = .error (.mishap (.notDecodable written.typeName))
  untold : ∀ entries, Shows data (.mapping entries) → ¬ Telling (.mapping entries) →
    ∃ m, ofValue data = .error (.mishap m)
  mute_iff : (∃ r, ofValue data = .ok r ∧ r.displayText = none) ↔ Mute data

theorem ofValue_of_shapeless {data written : Value} (hshows : Shows data written)
    (h : ∀ entries, written ≠ .mapping entries) :
    ofValue data = .error (.mishap (.notDecodable written.typeName)) := by
  rw [ofValue_of_shows hshows, decode_of_not_mapping h]
  rfl

/-- **Every document is read as due, unless it shows something other than an object.** -/
theorem ofValue_reads (data : Value) : Reads data where
  due_iff := by
    constructor
    · intro hdue written hshows
      by_cases hobject : ∃ entries, written = .mapping entries
      · refine ⟨hobject, Classical.byContradiction fun htelling => ?_⟩
        obtain ⟨entries, rfl⟩ := hobject
        obtain ⟨m, hm⟩ := mishap_of_not_telling hshows htelling
        exact not_due_mishap (hm ▸ hdue)
      · exact absurd (ofValue_of_shapeless hshows (not_exists.mp hobject) ▸ hdue) not_due_mishap
    · intro hobjects
      rcases mute_or_shows data with hmute | ⟨written, hshows⟩
      · rw [ofValue_of_mute hmute]
        exact .mute hmute
      · obtain ⟨⟨entries, rfl⟩, htelling⟩ := hobjects written hshows
        exact due_of_telling hshows htelling
  telling := by
    rintro hdocument written ⟨outputs, houtputs, hwritten, _⟩
    exact telling_of_checkLiteral
      (Value.checkLiteral_get? (Value.checkLiteral_get? hdocument.checkLiteral houtputs) hwritten)
  astray := fun _ hshows => ofValue_of_shapeless hshows
  untold := fun _ hshows => mishap_of_not_telling hshows
  mute_iff := by
    constructor
    · rintro ⟨r, hr, hnone⟩
      rcases mute_or_shows data with hmute | ⟨written, hshows⟩
      · exact hmute
      · -- A response to something that is shown has a text.
        rw [ofValue_of_shows hshows] at hr
        obtain ⟨text, _, rfl⟩ := map_eq_ok.mp hr
        cases hnone
    · exact fun hmute => ⟨_, ofValue_of_mute hmute, rfl⟩

/-- A document that shows a text as such. -/
def bare : Value :=
  .object [("Outputs", .object [("DisplayText", .text "hello")]), ("templateId", .text "a")]

/-- **A text that is shown as such is not refused as malformed**, as it should be, although it is no
written form. -/
theorem not_due_of_bare_text :
    Shows bare (.text "hello") ∧
      parse (.text "hello") = .error (.malformed "Wire value must be an object, got str") ∧
      ofValue bare = .error (.mishap (.notDecodable "str")) ∧
      (Mishap.notDecodable "str").label = "AttributeError" ∧ ¬ Due bare (ofValue bare) := by
  have hvalue : ofValue bare = .error (.mishap (.notDecodable "str")) := rfl
  refine ⟨⟨.object [("DisplayText", .text "hello")], rfl, rfl, nofun⟩, rfl, hvalue, rfl, ?_⟩
  rw [hvalue]
  exact nofun

end GenerationResponse

end Phrasing
