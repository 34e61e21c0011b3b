import Phrasing.Endpoint
import Phrasing.Text.FilePath

/-!
# Settings

An endpoint and the options of its client come from the environment or from the `lg` section of a
configuration document.  The environment holds texts only; a document holds values of any kind, so
reading it can fail in more ways.
-/

namespace Phrasing

open Text

/-- The options of a client. -/
structure Options where
  /-- Stands in for the locale of an activity without one. -/
  locale : Value
  /-- Seconds that an exchange may take. -/
  timeout : Binary64
  /-- Where the journals of calls are written, if anywhere. -/
  logDir : Option String

namespace Options

/-- The seconds that an exchange may take unless another number is given. -/
def defaultTimeout : Binary64 := .ofInt 30

/-- The options when none are given. -/
def default : Options := ⟨.null, defaultTimeout, none⟩

end Options

namespace Settings

/-- The number that a value stands for. -/
def number : Value → Except Mishap Binary64
  | .float x => .ok x
  | .bool b => .ok (.ofInt (if b then 1 else 0))
  | .int n =>
    let x := Binary64.ofInt n
    if x.isFinite then .ok x else .error .tooLarge
  | .text s =>
    match Binary64.read? s with
    | some x => .ok x
    | none => .error (.notANumberText (quoted s))
  | .bytes bs =>
    match if bs.all (· < 0x80) then Binary64.read? (String.ofList (bs.map fun b => Char.ofNat b.toNat)) else none with
    | some x => .ok x
    | none => .error (.notANumberText (quotedBytes bs))
  | .scalar (.decimal spelling) =>
    match Binary64.read? spelling with
    | some x => .ok x
    | none => .error (.notANumberText (quoted spelling))
  | v => .error (.notNumeric v.typeName)

/-- The directory that a value names; a vacant value names none. -/
def directory (v : Value) : Except Mishap (Option String) :=
  if v.isVacant then .ok none
  else match v with
    | .text s => .ok (some (usualPath s))
    | v => .error (.notAPath v.typeName)

/-- The variables of an environment. -/
abbrev Environment := Entries String String

/-- Checks that an environment can be one: no null character stands in it. -/
def checkEnvironment (env : Environment) : Except Mishap Unit :=
  if env.any fun (name, s) => name.toList.contains '\x00' || s.toList.contains '\x00' then
    .error (.reported "ValueError" "embedded null byte")
  else .ok ()

/-- A variable as a value, another one in place of it if it is not set. -/
def setting (env : Environment) (name : String) (other : Value) : Value :=
  match env.get? name with
  | some s => .text s
  | none => other

/-- The endpoint that an environment describes. -/
def endpointOfEnvironment (env : Environment) : Except Fault Endpoint :=
  Endpoint.of (setting env "LG_ENDPOINT_KEY" (.text "")) (setting env "LG_APP_ID" (.text ""))
    (setting env "LG_ENDPOINT_URI" (.text ""))
    ((setting env "LG_TOKEN_URI" .null).orElse .null)

/-- The options that an environment describes. -/
def optionsOfEnvironment (env : Environment) : Except Fault Options := do
  let timeout ← (number (setting env "LG_TIMEOUT" (.text "30.0"))).mapError .mishap
  let logDir ← (directory (setting env "LG_LOG_DIR" .null)).mapError .mishap
  return ⟨(setting env "LG_LOCALE" .null).orElse .null, timeout, logDir⟩

/-- A field of a section, another value in place of an absent one. -/
def field (s : Value) (name : String) (other : Value) : Value :=
  (s.get? name).getD other

/-- The endpoint that a section describes. -/
def endpointOfSection (s : Value) : Except Fault Endpoint :=
  Endpoint.of (field s "endpoint_key" (.text "")) (field s "app_id" (.text ""))
    (field s "endpoint_uri" (.text "")) (field s "token_uri" .null)

/-- The options that a section describes. -/
def optionsOfSection (s : Value) : Except Fault Options := do
  let timeout ← (number (field s "timeout" (.float Options.defaultTimeout))).mapError .mishap
  let logDir ← (directory (field s "log_dir" .null)).mapError .mishap
  return ⟨field s "locale" .null, timeout, logDir⟩

/-- The `lg` section of a document read from a path. -/
def sectionOf (path : String) (document : Value) : Except Fault Value :=
  match document.get? "lg" with
  | some (.mapping entries) => .ok (.mapping entries)
  | _ => .error (.configuration ("Missing 'lg' section in " ++ path))

/-- The endpoint and the options that a document read from a path describes. -/
def ofDocument (path : String) (document : Value) : Except Fault (Endpoint × Options) := do
  let s ← sectionOf path document
  let endpoint ← endpointOfSection s
  let options ← optionsOfSection s
  return (endpoint, options)

/-- The endpoint and the options that an environment describes. -/
def ofEnvironment (env : Environment) : Except Fault (Endpoint × Options) := do
  let endpoint ← endpointOfEnvironment env
  let options ← optionsOfEnvironment env
  return (endpoint, options)

end Settings

end Phrasing
