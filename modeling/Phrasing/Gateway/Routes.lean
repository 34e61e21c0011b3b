import Phrasing.Gateway.Origin
import Phrasing.Gateway.Submission
import Phrasing.Resolver
import Phrasing.Settings.Source

/-!
# The gateway

The gateway answers on two paths: at one it tells how it is, at the other it resolves activities through the
resolver that it was started with.  Without a usable configuration it starts all the same and refuses to
resolve.  `answer` is the whole of its behaviour for one request.
-/

namespace Phrasing.Gateway

variable {σ : Type}

/-- What answering a request leaves behind. -/
structure Outcome (σ : Type) where
  reply : Reply
  session : Session σ
  /-- The journal of the call, if one was written. -/
  journal : Option Journal.Writer

/-- A resource of the gateway. -/
inductive Resource where
  | health
  | resolution
  deriving DecidableEq, Repr

namespace Resource

/-- The path of a resource. -/
def path : Resource → String
  | .health => "/health"
  | .resolution => "/activities/resolve"

/-- The method that a resource takes. -/
def method : Resource → String
  | .health => "GET"
  | .resolution => "POST"

/-- The resource at a path.  Slashes at the end of the path do not count, nor does a line end after it. -/
def at? (path : String) : Option Resource :=
  let bare := Text.dropTrailingSlashes path
  [Resource.health, Resource.resolution].find? fun r => r.path = bare ∨ r.path ++ "\n" = bare

end Resource

/-- Where a request goes. -/
def Inquiry.direction (q : Inquiry) : Except Refusal Resource :=
  match Resource.at? q.path with
  | some r => if q.method = r.method then .ok r else .error (.otherMethod r.method)
  | none => .error .notFound

mutual

/-- A document whose numbers are all finite: null stands for the others. -/
def finite : Value → Value
  | .float x => if x.isFinite then .float x else .null
  | .list items => .list (finiteItems items)
  | .mapping entries => .mapping (finiteEntries entries)
  | v => v

/-- The items of a collection with finite numbers. -/
def finiteItems : List Value → List Value
  | [] => []
  | v :: rest => finite v :: finiteItems rest

/-- The members of an object with finite numbers. -/
def finiteEntries : List (Scalar × Value) → List (Scalar × Value)
  | [] => []
  | (k, v) :: rest => (k, finite v) :: finiteEntries rest

end

mutual

/-- How many values stand in each other. -/
def depth : Value → Nat
  | .list items | .tuple items | .set items => depthOfItems items + 1
  | .mapping entries => depthOfEntries entries + 1
  | .scalar _ | .record _ => 1

/-- How many of the items of a collection, or of their parts, stand in each other. -/
def depthOfItems : List Value → Nat
  | [] => 0
  | v :: rest => max (depth v) (depthOfItems rest)

/-- How many of the members of an object, or of their parts, stand in each other. -/
def depthOfEntries : List (Scalar × Value) → Nat
  | [] => 0
  | (_, v) :: rest => max (depth v) (depthOfEntries rest)

end

/-- The most values that may stand in each other in a member of an activity that is sent back. -/
def mostLevels : Nat := 255

/-- How the gateway is, at a time. -/
def healthDocument (resolver : Option Resolver) (now : String) : Value :=
  .object [("status", .text "healthy"), ("resolver_configured", .bool resolver.isSome), ("timestamp", .text now)]

/-- The reply with a resolved activity and the references that it held before, unless that is too deep. -/
def resolvedReply (a : Activity) (references : List String) : Option Reply :=
  if mostLevels + 1 < depth a.toWire then none
  else Reply.ofDocument 200 [] (.object [("activity", finite a.toWire), ("references", .texts references)])

/-- Reads what is submitted, unless it is no JSON or there is no resolver. -/
def accept (resolver : Option Resolver) (q : Inquiry) : Except Refusal (Resolver × Submission) := do
  let document ← Submission.documentIn (q.header? "content-type") q.body
  match resolver with
  | none => throw .unconfigured
  | some resolver => return (resolver, ← Submission.ofDocument document)

/-- Resolves what is submitted.  There is no reply where the request breaks off. -/
def resolution (service : Service σ) (resolver : Option Resolver) (callId : String) (q : Inquiry)
    (session : Session σ) : Option Reply × Session σ × Option Journal.Writer :=
  match accept resolver q with
  | .error refusal => (refusal.reply?, session, none)
  | .ok (resolver, submission) =>
    let references := submission.activity.references
    let o := resolver.resolve service callId (some (.activity submission.activity)) submission.entities session
    let reply := match o.result, o.subject with
      | .ok (), some (.activity a) => resolvedReply a references
      | .ok (), _ => none
      | .error fault, _ => (Refusal.failed fault).reply?
    (reply, o.session, o.journal)

/-- The reply to a request that goes past all questions of origin. -/
def handle (service : Service σ) (resolver : Option Resolver) (callId now : String) (q : Inquiry)
    (session : Session σ) : Option Reply × Session σ × Option Journal.Writer :=
  match q.direction with
  | .ok .health => (Reply.ofDocument 200 [] (healthDocument resolver now), session, none)
  | .ok .resolution => resolution service resolver callId q session
  | .error refusal => (refusal.reply?, session, none)

/-- Answers a request. -/
def answer (service : Service σ) (resolver : Option Resolver) (callId now : String) (q : Inquiry)
    (session : Session σ) : Outcome σ :=
  match Origin.question? q with
  | some question => ⟨question.answer, session, none⟩
  | none =>
    match handle service resolver callId now q session with
    | (some reply, session, journal) => ⟨Origin.permit q reply, session, journal⟩
    | (none, session, journal) => ⟨.internalError, session, journal⟩

/-- The resolver that the gateway starts with.  Without a usable configuration there is none, and a notice says
why; any other mishap keeps the gateway from starting. -/
def start [Settings.Complaints] (tree : FileTree) (env : Settings.Environment) : Except Fault (Option Resolver × List Notice) :=
  match Settings.atStart tree env with
  | .ok (endpoint, options) => .ok (some ⟨endpoint, options⟩, [])
  | .error fault@(.configuration _) => .ok (none, [⟨.error, "LG resolver not configured: " ++ fault.message⟩])
  | .error fault => .error fault

end Phrasing.Gateway
