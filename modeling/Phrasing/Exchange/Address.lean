import Phrasing.Domain.Name
import Phrasing.Domain.Numeric
import Phrasing.Number.Integer
import Phrasing.Text.Base64
import Phrasing.Text.Percent
import Phrasing.Unicode.Case

/-!
# Addresses

An address is taken apart into scheme, user, host, port, path, query and fragment, and every part is brought
into its usual spelling: scheme and host in lower case, a host of any script in ASCII, the usual port of the
scheme left out, dot segments resolved, and characters that may not stand in an address as percent escapes.
-/

namespace Phrasing

open Text

/-- The parts of an address in their usual spelling; where there is none of scheme, user, host and path, the
part is empty. -/
structure Address where
  scheme : List Char
  user : List Char
  /-- The host, a numeric one without the brackets around it. -/
  host : List Char
  port : Option Int
  path : List Char
  query : Option (List Char)
  fragment : Option (List Char)
  deriving DecidableEq, Repr

namespace Address

/-! ### Taking apart -/

/-- The parts of an address as they are written. -/
structure Written where
  scheme : Option (List Char)
  authority : Option (List Char)
  path : List Char
  query : Option (List Char)
  fragment : Option (List Char)
  deriving DecidableEq, Repr

/-- Cuts characters at the first one of a class, which stays with the second part. -/
def cutAt (p : Char → Bool) (cs : List Char) : List Char × List Char :=
  (cs.takeWhile (!p ·), cs.dropWhile (!p ·))

/-- A character that a scheme may hold after its first letter. -/
def inScheme (c : Char) : Bool :=
  isLetterOrDigit c || c == '+' || c == '.' || c == '-'

/-- The scheme of an address, which may be empty, and what follows its colon. -/
def takeScheme (cs : List Char) : Option (List Char) × List Char :=
  match cs.takeWhile inScheme, cs.dropWhile inScheme with
  | [], ':' :: rest => (some [], rest)
  | first :: more, ':' :: rest =>
    if isLetter first then (some (first :: more), rest) else (none, cs)
  | _, _ => (none, cs)

/-- Takes an address apart. -/
def Written.ofChars (cs : List Char) : Written :=
  let (scheme, rest) := takeScheme cs
  let (authority, rest) := match rest with
    | '/' :: '/' :: rest =>
      let (authority, rest) := cutAt (fun c => c == '/' || c == '?' || c == '#') rest
      (some authority, rest)
    | rest => (none, rest)
  let (path, rest) := cutAt (fun c => c == '?' || c == '#') rest
  let (query, rest) := match rest with
    | '?' :: rest => let (query, rest) := cutAt (· == '#') rest; (some query, rest)
    | rest => (none, rest)
  let fragment := match rest with
    | '#' :: fragment => some fragment
    | _ => none
  ⟨scheme, authority, path, query, fragment⟩

/-- The parts of an authority before and after its last at sign. -/
def cutAtUser (cs : List Char) : List Char × List Char :=
  if cs.contains '@' then
    let host := (cs.reverse.takeWhile (· ≠ '@')).reverse
    (cs.take (cs.length - host.length - 1), host)
  else ([], cs)

/-- The host, which ends at the last bracket if it starts with one or else at the first colon, and the text of
the port. -/
def cutAtPort (cs : List Char) : List Char × List Char :=
  let (host, rest) :=
    if cs.head? = some '[' ∧ cs.contains ']' then
      let rest := (cs.reverse.takeWhile (· ≠ ']')).reverse
      (cs.take (cs.length - rest.length), rest)
    else cutAt (· == ':') cs
  (host, match rest with | ':' :: port => port | port => port)

/-! ### Spelling -/

/-- A visible character of ASCII other than the given ones. -/
def visibleExcept (excluded : List Char) (c : Char) : Bool :=
  0x21 ≤ c.toNat && c.toNat ≤ 0x7E && !excluded.contains c

/-- A character that may stand in a path. -/
def inPath : Char → Bool :=
  visibleExcept ['\x22', '#', '<', '>', '?', '\x60', '\x7b', '\x7d']

/-- A character that may stand in the part about the user. -/
def inUser (c : Char) : Bool :=
  inPath c && visibleExcept ['/', ';', '=', '@', '[', '\\', ']', '^', '|'] c

/-- A character that may stand in a query. -/
def inQuery : Char → Bool :=
  visibleExcept ['\x22', '#', '<', '>']

/-- A character that may stand in a fragment. -/
def inFragment : Char → Bool :=
  visibleExcept ['\x22', '<', '>', '\x60']

/-- A character that may stand in the name of a host. -/
def inHost (c : Char) : Bool :=
  isLetterOrDigit c || "-._~!$&'()*+,;=\x22\x60\x7b\x7d%|\\".toList.contains c

/-- The segments of a path. -/
def segments (path : List Char) : List (List Char) :=
  splitAtEach '/' path

/-- The segments that are left when dot segments are resolved. -/
def resolveSegments (parts : List (List Char)) : List (List Char) :=
  parts.foldl (fun kept part =>
    if part = ['.'] then kept
    else if part = ['.', '.'] then (if kept.length = 0 ∨ kept = [[]] then kept else kept.dropLast)
    else kept ++ [part]) []

/-- A path with its dot segments resolved. -/
def resolvePath (path : List Char) : List Char :=
  let parts := segments path
  if parts.any fun part => part = ['.'] ∨ part = ['.', '.'] then
    List.intercalate ['/'] (resolveSegments parts)
  else path

/-- What keeps an address from being requested. -/
def invalid {α : Type} (text : String) : Except Mishap α :=
  .error (.invalidAddress text)

/-- Whether a host looks like four numbers: runs of digits with one character between them. -/
def looksLikeFourNumbers (cs : List Char) : Bool :=
  runs 4 cs
where
  /-- So many more runs of digits, the next of which starts here, make up the text. -/
  runs : Nat → List Char → Bool
    | 0, _ => false
    | more + 1, cs => within more cs
  /-- A run of digits with so many more after it. -/
  within (more : Nat) : List Char → Bool
    | [] => false
    | c :: rest =>
      c.isDigit && (within more rest ||
        match more, rest with
        | 0, rest => rest.isEmpty
        | more + 1, _ :: rest => within more rest
        | _ + 1, [] => false)

/-- A host in its usual spelling. -/
def usualHost (host : List Char) : Except Mishap (List Char) :=
  if host.isEmpty then .ok []
  else if looksLikeFourNumbers host then
    if Domain.isFourNumbers host then .ok host
    else invalid ("Invalid IPv4 address: " ++ quoted (String.ofList host))
  else if host.head? = some '[' ∧ host.getLast? = some ']' ∧ 2 ≤ host.length then
    let inner := (host.drop 1).dropLast
    if Domain.isZonedNumber inner then .ok inner
    else invalid ("Invalid IPv6 address: " ++ quoted (String.ofList host))
  else if host.all isAscii then .ok (escapeOutside inHost (host.map lowerAscii))
  else
    match Domain.Name.toAscii false (Unicode.lower host) with
    | .ok name => .ok name
    | .error _ => invalid ("Invalid IDNA hostname: " ++ quoted (String.ofList host))

/-- The port that a scheme uses when none is given. -/
def usualPort? (scheme : List Char) : Option Int :=
  if scheme = "http".toList ∨ scheme = "ws".toList then some 80
  else if scheme = "https".toList ∨ scheme = "wss".toList then some 443
  else if scheme = "ftp".toList then some 21
  else none

/-- The port that a text gives, unless the scheme, which counts as it is written, uses it anyway. -/
def port? (scheme text : List Char) : Except Mishap (Option Int) :=
  if text.isEmpty then .ok none
  else
    match readInteger? 10 text with
    | none => invalid ("Invalid port: " ++ quoted (String.ofList text))
    | some n => .ok (if usualPort? scheme = some n then none else some n)

/-- The first character of ASCII that cannot be seen, with its place. -/
def firstUnseen? (cs : List Char) : Option (Char × Nat) :=
  cs.zipIdx.find? fun (c, _) => c.toNat < 0x20 || c.toNat == 0x7F

/-- The most characters of an address. -/
def mostChars : Nat := 65536

/-- Checks how a path starts. -/
def checkPath (path : List Char) (hasScheme hasAuthority : Bool) : Except Mishap Unit :=
  if hasAuthority then
    if path.isEmpty ∨ path.head? = some '/' then .ok ()
    else invalid "For absolute URLs, path must be empty or begin with '/'"
  else if hasScheme then .ok ()
  else if "//".toList.isPrefixOf path then invalid "Relative URLs cannot have a path starting with '//'"
  else if path.head? = some ':' then invalid "Relative URLs cannot have a path starting with ':'"
  else .ok ()

/-- Brings the parts of an address into their usual spelling. -/
def ofWritten (w : Written) : Except Mishap Address := do
  let scheme := w.scheme.getD []
  let (user, rest) := cutAtUser (w.authority.getD [])
  let (hostText, portText) := cutAtPort rest
  let user := escapeOutside (fun c => c == '%' || inUser c) user
  let host ← usualHost hostText
  let port ← port? scheme portText
  let hasScheme := !scheme.isEmpty
  let hasAuthority := !user.isEmpty || !host.isEmpty || port.isSome
  checkPath w.path hasScheme hasAuthority
  let path := if hasScheme || hasAuthority then resolvePath w.path else w.path
  return ⟨scheme.map lowerAscii, user, host, port, escapeOutside inPath path,
    w.query.map (escapeOutside inQuery), w.fragment.map (escapeOutside inFragment)⟩

/-- The address that a text spells. -/
def ofChars (cs : List Char) : Except Mishap Address :=
  if mostChars < cs.length then invalid "URL too long"
  else
    match firstUnseen? cs with
    | some (c, i) =>
      invalid ("Invalid non-printable ASCII character in URL, " ++ quoted (String.singleton c) ++
        " at position " ++ toString i ++ ".")
    | none => ofWritten (.ofChars cs)

/-! ### Putting together -/

/-- User, host and port together. -/
def authority (a : Address) : List Char :=
  (if a.user.isEmpty then [] else a.user ++ ['@']) ++
    (if a.host.contains ':' then '[' :: a.host ++ [']'] else a.host) ++
    (match a.port with
      | some n => ':' :: (toString n).toList
      | none => [])

/-- An optional part after its mark. -/
def marked (mark : Char) : Option (List Char) → List Char
  | some cs => mark :: cs
  | none => []

/-- The text of an address. -/
def toChars (a : Address) : List Char :=
  (if a.scheme.isEmpty then [] else a.scheme ++ [':']) ++
    (if a.authority.isEmpty then [] else '/' :: '/' :: a.authority) ++
    a.path ++ marked '?' a.query ++ marked '#' a.fragment

/-- The text of an address. -/
def text (a : Address) : String := String.ofList a.toChars

/-- An address with both a scheme and a host can be reached from anywhere. -/
def isAbsolute (a : Address) : Bool :=
  !a.scheme.isEmpty && !a.host.isEmpty

/-- Path and query, as the target of a request. -/
def target (a : Address) : List Char :=
  (if a.path.isEmpty then ['/'] else a.path) ++ marked '?' a.query

/-- The parts of an address to be spelled again with some of them changed. -/
def respell (a : Address) : Written :=
  ⟨some a.scheme, some a.authority, a.path, a.query, a.fragment⟩

/-- Checks a part of an address that was changed. -/
def checkPart (name : String) (cs : List Char) : Except Mishap Unit :=
  if mostChars < cs.length then invalid ("URL component '" ++ name ++ "' too long")
  else
    match firstUnseen? cs with
    | some (c, i) =>
      invalid ("Invalid non-printable ASCII character in URL " ++ name ++ " component, " ++
        quoted (String.singleton c) ++ " at position " ++ toString i ++ ".")
    | none => .ok ()

/-- The address that a request is sent to from a place with a scheme and an authority, or with neither: an absolute
one itself, and of any other only path and query at that place. -/
def requestedAt (scheme authority : Option (List Char)) (a : Address) : Except Mishap Address :=
  if a.isAbsolute then .ok a
  else do
    let (path, query) := cutAt (· == '?') ('/' :: a.target.dropWhile (· == '/'))
    checkPart "path" path
    checkPart "query" (query.drop 1)
    ofWritten ⟨scheme, authority, path, if query.isEmpty then none else some (query.drop 1), none⟩

/-- The address that a text asks for. -/
def ofText (s : String) : Except Mishap Address :=
  (ofChars s.toList).bind (requestedAt none none)

/-- Checks that the host can be shown with all its characters, if its first label is written in Punycode. -/
def checkHost (a : Address) : Except Mishap Unit :=
  if Domain.punycodePrefix.isPrefixOf a.host then
    match Domain.Name.toUnicode a.host with
    | .ok _ => .ok ()
    | .error e => .error e.mishap
  else .ok ()

/-- The credentials that an address carries, as the value of a header field. -/
def credentials? (a : Address) : Option String :=
  let (name, password) := cutAt (· == ':') a.user
  let name := unescape name
  let password := unescape (password.drop 1)
  if name.isEmpty ∧ password.isEmpty then none
  else
    some ("Basic " ++ String.ofList (toBase64 (utf8Bytes (String.ofList (name ++ ':' :: password)))))

end Address

end Phrasing
