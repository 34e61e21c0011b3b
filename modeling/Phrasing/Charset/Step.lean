/-!
# Decoding step by step

A decoder looks at the bytes that are left, in a state that earlier bytes have brought about, and says what the
first of them stand for.
-/

namespace Phrasing.Charset

/-- What characters some bytes stand for, `none` for bytes that stand for none. -/
abbrev Glyphs := List (Option Char)

/-- A step of a decoder with states of type `σ`. -/
inductive Step (σ : Type) where
  /-- The first `size` bytes are decoded. -/
  | took (glyphs : Glyphs) (size : Nat) (next : σ)
  /-- Bytes are missing to tell. -/
  | more

namespace Step

/-- So many bytes stand for a character, or for none. -/
def one {σ : Type} (state : σ) (size : Nat) (glyph : Option Char) : Step σ :=
  .took [glyph] size state

/-- So many bytes stand for characters where there are some, and otherwise one byte stands for none. -/
def orSkip {σ : Type} (state : σ) (size : Nat) : Option (List Char) → Step σ
  | some cs => .took (cs.map some) size state
  | none => .one state 1 none

end Step

/-- Decodes bytes by steps of at least one byte.  Bytes at the end to which others are missing stand for no
character together; their number is told. -/
def decodeSteps {σ : Type} (step : σ → List UInt8 → Step σ) : (fuel : Nat) → σ → List UInt8 → Glyphs × Nat
  | 0, _, _ | _ + 1, _, [] => ([], 0)
  | fuel + 1, state, b :: rest =>
    match step state (b :: rest) with
    | .more => ([none], rest.length + 1)
    | .took glyphs size next =>
      let (more, missing) := decodeSteps step fuel next (rest.drop (size - 1))
      (glyphs ++ more, missing)

/-- Decodes bytes from a state on. -/
def decodeAll {σ : Type} (step : σ → List UInt8 → Step σ) (start : σ) (bytes : List UInt8) : Glyphs × Nat :=
  decodeSteps step bytes.length start bytes

end Phrasing.Charset
