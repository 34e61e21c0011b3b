import Phrasing.Proofs.Slots
import Phrasing.Proofs.WireFormat

/-! # What is read is encoded again

The reader accepts a wire value by its element, and `encode` makes one of the value that it holds.  The
two agree on every kind but that of floating-point numbers (`reencodes_iff`).  That kind accepts a number
written as an integer, which is encoded as an integer, and it accepts the infinities and the number that
equals nothing, which have no wire form (`parse_reencodes`).
-/

namespace Phrasing

open Calendar

namespace WireValue

/-- The value that a wire value holds is encoded as this wire value again, of the same kind. -/
def Reencodes (w : WireValue) : Prop :=
  ∃ again, encode w.value = .ok again ∧ again.kind = w.kind ∧ again.same w = true

/-- An element is regular for its kind: as a floating-point number it is a finite one that was not
written as an integer. -/
def Regular (kind : WireKind) (element : Value) : Prop :=
  kind = .float → ∃ x, element = .float x ∧ x.isFinite = true

section Numbers

variable {x : Binary64}

/-- A number written as an integer is encoded as one, whatever its kind was. -/
theorem encode_value_whole (n : Int) : encode (WireValue.float (.int n)).value = .ok (.integer n) :=
  rfl

theorem encode_value_finite (h : x.isFinite = true) :
    encode (WireValue.float (.float x)).value = .ok (.float (.float x)) :=
  if_pos h

/-- A number that is not finite has no wire form. -/
theorem encode_value_not_finite (h : x.isFinite = false) :
    encode (WireValue.float (.float x)).value =
      .error (.unsupported ("Cannot encode non-finite float " ++ x.text)) :=
  if_neg (Bool.eq_false_iff.mp h)

/-- A finite number is not the one that equals nothing. -/
theorem same_self_of_isFinite (h : x.isFinite = true) :
    (WireValue.float (.float x)).same (.float (.float x)) = true := by
  refine same_self_iff.mpr ?_
  rintro ⟨⟩
  cases h

/-- **A floating-point number is encoded again exactly if it is regular.** -/
theorem float_reencodes_iff (number : Numeral) :
    (WireValue.float number).Reencodes ↔ Regular .float number.toValue := by
  cases number with
  | int n =>
    constructor
    · rintro ⟨again, hagain, hkind, _⟩
      cases (encode_value_whole n).symm.trans hagain
      cases hkind
    · intro hregular
      obtain ⟨x, hx, _⟩ := hregular rfl
      cases hx
  | float x =>
    constructor
    · rintro ⟨again, hagain, _⟩ _
      cases hx : x.isFinite with
      | true => exact ⟨x, rfl, hx⟩
      | false => cases (encode_value_not_finite hx).symm.trans hagain
    · intro hregular
      obtain ⟨y, hy, hx⟩ := hregular rfl
      cases hy
      exact ⟨_, encode_value_finite hx, rfl, same_self_of_isFinite hx⟩

end Numbers

/-- **A wire value is encoded again exactly if its element is regular for its kind.** -/
theorem reencodes_iff (w : WireValue) : w.Reencodes ↔ Regular w.kind w.element := by
  cases w with
  | text s => exact iff_of_true ⟨.text s, rfl, rfl, same_self_iff.mpr nofun⟩ nofun
  | integer n => exact iff_of_true ⟨.integer n, rfl, rfl, same_self_iff.mpr nofun⟩ nofun
  | float number => exact float_reencodes_iff number
  | boolean b => exact iff_of_true ⟨.boolean b, rfl, rfl, same_self_iff.mpr nofun⟩ nofun
  | timestamp t verbatim =>
    -- The text it was read from is lost, which makes no difference to its equality.
    exact iff_of_true ⟨.timestamp t none, rfl, rfl, Timestamp.same_self t⟩ nofun

section Reading

variable {data : Value} {w : WireValue}

/-- **What is read is encoded again exactly if its element is regular for its kind.**  Among the numbers
of the kind of floating-point numbers, one that was written as an integer is encoded as this integer, and
one that is not finite is refused. -/
theorem parse_reencodes (h : parse data = .ok w) :
    Describes data w.kind w.element ∧ (w.Reencodes ↔ Regular w.kind w.element) ∧
      (∀ n, w.kind = .float → w.element = .int n → encode w.value = .ok (.integer n)) ∧
      ∀ x, w.kind = .float → w.element = .float x → x.isFinite = false →
        encode w.value = .error (.unsupported ("Cannot encode non-finite float " ++ x.text)) := by
  refine ⟨describes_of_parse h, reencodes_iff w, ?_, ?_⟩
  · intro n hkind helement
    cases w <;> cases hkind
    exact congrArg encode helement
  · intro x hkind helement hx
    cases w <;> cases hkind
    exact (congrArg encode helement).trans (encode_value_not_finite hx)

/-- A time of day in universal time keeps its value and loses its text. -/
theorem parse_reencodes_timestamp :
    ∃ w, parse (form .timestamp (.text "2019-01-01T10:00:00Z")) = .ok w ∧ w.Reencodes ∧
      encode w.value ≠ .ok w := by
  obtain ⟨w, hw⟩ : ∃ w, parse (form .timestamp (.text "2019-01-01T10:00:00Z")) = .ok w := ⟨_, rfl⟩
  refine ⟨w, hw, (parse_reencodes hw).2.1.mpr ?_, ?_⟩
  · cases hw
    exact nofun
  · cases hw
    exact nofun

/-- A number written as an integer is not encoded as the floating-point number it was read as. -/
theorem not_reencodes_whole : ¬ ∀ data w, parse data = .ok w → w.Reencodes := by
  intro hall
  have hregular := (float_reencodes_iff (.int 3)).mp (hall (form .float (.int 3)) _ rfl)
  obtain ⟨x, hx, _⟩ := hregular rfl
  cases hx

end Reading

end WireValue

end Phrasing
