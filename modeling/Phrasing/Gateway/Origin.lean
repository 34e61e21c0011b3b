import Phrasing.Gateway.Message

/-!
# Requests from other origins

A browser names the origin of a page that makes a request and looks for the permission of that origin in the
reply.  The gateway permits every origin, every method and credentials.  A browser may ask beforehand whether
a method is permitted, and whether a private network may be reached, which it may not; such a question is answered
without looking at the path.
-/

namespace Phrasing.Gateway.Origin

/-- The methods that may be asked for. -/
def methods : List String := ["DELETE", "GET", "HEAD", "OPTIONS", "PATCH", "POST", "PUT", "QUERY"]

/-- The permission of an origin and of credentials. -/
def permission (origin : String) : List (String × String) :=
  [("access-control-allow-origin", origin), ("access-control-allow-credentials", "true")]

/-- A question asked beforehand. -/
structure Question where
  origin : String
  method : String
  /-- It is also asked about a private network. -/
  isPrivate : Bool
  deriving DecidableEq, Repr

/-- The question that a request asks beforehand. -/
def question? (q : Inquiry) : Option Question :=
  if q.method = "OPTIONS" then
    match q.header? "origin", q.header? "access-control-request-method" with
    | some origin, some method =>
      some ⟨origin, method, (q.header? "access-control-request-private-network").isSome⟩
    | _, _ => none
  else none

/-- What is not permitted of what a question asks for. -/
def Question.failures (q : Question) : List String :=
  (if methods.contains q.method then [] else ["method"]) ++ (if q.isPrivate then ["private-network"] else [])

/-- The answer to a question asked beforehand. -/
def Question.answer (q : Question) : Reply :=
  match q.failures with
  | [] => ⟨200, permission q.origin, .text "OK"⟩
  | failures => ⟨400, permission q.origin, .text ("Disallowed CORS " ++ ", ".intercalate failures)⟩

/-- A reply with the permission of the origin that a request names. -/
def permit (q : Inquiry) (r : Reply) : Reply :=
  match q.header? "origin" with
  | none => r
  | some origin => { r with headers := r.headers ++ permission origin }

end Phrasing.Gateway.Origin
