import Phrasing.Deflate.Envelope
import Phrasing.Exchange.Message
import Phrasing.Text.Blank

/-!
# Content codings

A header field of a reply names the codings that were applied to its body, the first one first.  They are
undone in the opposite order; codings that are not known leave the body as it is.
-/

namespace Phrasing

open Text

/-- A coding of a body. -/
inductive Coding where
  | gzip
  | deflate
  deriving DecidableEq, Repr

namespace Coding

/-- The coding with a name. -/
def ofName? (name : List Char) : Option Coding :=
  let name := (trim name).map lowerAscii
  if name = "gzip".toList then some .gzip
  else if name = "deflate".toList then some .deflate
  else none

/-- Undoes a coding.  Deflated data comes in an envelope, and where it cannot be opened as one it is taken to
come without. -/
def undo : Coding → List UInt8 → Except Deflate.Stop (List UInt8)
  | .gzip, bytes => Deflate.Envelope.checked.contents bytes
  | .deflate, bytes =>
    match Deflate.Envelope.summed.contents bytes with
    | .ok contents => .ok contents
    | .error _ => Deflate.Envelope.bare.contents bytes

end Coding

namespace Reply

/-- The codings of a body, the first one first. -/
def codings (r : Reply) : List Coding :=
  (splitAtEach ',' ((r.header? "content-encoding").getD "").toList).filterMap Coding.ofName?

/-- A reply with the codings of its body undone. -/
def expanded (r : Reply) : Except Deflate.Stop Reply :=
  (r.codings.reverse.foldlM (fun bytes (c : Coding) => c.undo bytes) r.body).map fun body => { r with body }

end Reply

end Phrasing
