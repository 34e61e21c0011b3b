import Phrasing.Exchange.Coding

/-!
# Receiving answers

Before an answer is judged, the codings of its body are undone, it is made sure that the request went to a place
that can be told from others, and the place that the reply may refer to has to make sense; it is not gone to.
-/

namespace Phrasing

open Text

/-- The statuses of replies that refer to another place. -/
def referralStatuses : List Nat := [301, 302, 303, 307, 308]

/-- The place that a reply refers to. -/
def Reply.location? (r : Reply) : Option String :=
  if referralStatuses.contains r.status then r.header? "location" else none

namespace Address

/-- The path that a relative one leads to from a path. -/
def joinPath (base path : List Char) : List Char :=
  if path.head? = some '/' then resolvePath path
  else resolvePath ('/' :: List.intercalate ['/'] (((segments base).drop 1).dropLast ++ segments path))

/-- An address seen from the place of another one, which is absolute. -/
def seenFrom (base a : Address) : Written :=
  let near := base.respell
  if !a.authority.isEmpty then { a.respell with scheme := near.scheme }
  else if a.path.isEmpty then
    { near with query := a.query.or near.query, fragment := a.fragment }
  else { near with path := joinPath base.path a.path, query := a.query, fragment := a.fragment }

/-- Checks the place that a reply to a request refers to once it could be read. -/
def checkReferral (base place : Address) : Except Mishap Unit := do
  place.checkHost
  let place ←
    if !place.scheme.isEmpty && place.host.isEmpty then
      ofWritten { place.respell with authority := some { place with host := base.host }.authority }
    else pure place
  let place ← if place.isAbsolute then pure place else ofChars (← ofWritten (seenFrom base place)).toChars
  let inherited := unescape (base.fragment.getD [])
  if !inherited.isEmpty && (unescape (place.fragment.getD [])).isEmpty then checkPart "fragment" inherited
  place.checkHost

end Address

/-- Receives an answer to a request at an address. -/
def Answer.received (address : Address) : Answer → Except Mishap Answer
  | .failure f => .ok (.failure f)
  | .reply r =>
    match r.expanded with
    | .error stop => .ok (.failure ⟨"DecodingError", stop.text⟩)
    | .ok r =>
      if !address.isAbsolute then
        .error (.reported "ValueError" ("unknown url type: " ++ quoted address.text))
      else
        match r.location? with
        | none => .ok (.reply r)
        | some place =>
          match Address.ofChars place.toList with
          | .error m =>
            .ok (.failure ⟨"RemoteProtocolError", "Invalid URL in location header: " ++ m.text ++ "."⟩)
          | .ok place => (address.checkReferral place).map fun () => .reply r

end Phrasing
