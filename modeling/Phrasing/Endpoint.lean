import Phrasing.Client
import Phrasing.Text.Blank

/-!
# Endpoints

The credentials and addresses of an application of the service.  Key, application and address must not
be blank; the address is kept without slashes at its end, and the token service is at a path of its own
below it unless another address is given.
-/

namespace Phrasing

open Text

/-- An application of the service: the key that is exchanged for tokens, the name of the application,
the address of the service and that of the token service. -/
structure Endpoint where
  key : Value
  app : Value
  uri : String
  tokenUri : Value

namespace Endpoint

/-- Where the token service is below the address of the service. -/
def defaultTokenPath : String := "/sts/v1.0/issueToken"

/-- Whether a value gives nothing, or a text of blanks. -/
def isBlank (v : Value) : Except Mishap Bool :=
  if v.isVacant then .ok true
  else if v.isWritable then .ok (isBlankText v.display)
  else .error (.tooManyDigits none)

/-- The name of the first of some values that is blank. -/
def firstBlank? : List (String × Value) → Except Mishap (Option String)
  | [] => .ok none
  | (name, v) :: rest =>
    (isBlank v).bind fun blank => if blank then .ok (some name) else firstBlank? rest

/-- The address of the service as a text without slashes at its end. -/
def baseAddress : Value → Except Fault String
  | .text s => .ok (dropTrailingSlashes s)
  | .bytes _ => .error (.mishap .bytesAndText)
  | v => .error (.mishap (.noAttribute v.typeName "rstrip"))

/-- The endpoint with these values, if none that it needs is blank. -/
def of (key app uri tokenUri : Value) : Except Fault Endpoint :=
  match firstBlank? [("endpoint_key", key), ("lg_app_id", app), ("endpoint_uri", uri)] with
  | .error m => .error (.mishap m)
  | .ok (some name) => .error (.configuration (name ++ " must not be empty"))
  | .ok none =>
    (baseAddress uri).map fun uri =>
      ⟨key, app, uri, tokenUri.orElse (.text (uri ++ defaultTokenPath))⟩

/-- An endpoint in messages, without its key. -/
def display (e : Endpoint) : String :=
  "LGEndpoint(lg_app_id=" ++ e.app.literal ++ ", endpoint_uri=" ++ quoted e.uri ++ ")"

/-- Where the client of an endpoint sends its requests. -/
def location (e : Endpoint) : Client.Location :=
  ⟨dropTrailingSlashes e.uri, e.tokenUri⟩

end Endpoint

end Phrasing
