import Phrasing.Exchange.Address
import Phrasing.Text.Blank

/-!
# Addresses of a gateway

Before a request goes to a gateway its address is brought into one spelling: scheme and host in lower case,
dot segments resolved, escapes in upper case and only where they are needed.  An address needs a scheme and a
host; one with a scheme other than that of the web is left as it is and cannot be requested.
-/

namespace Phrasing.Remote

open Text

/-! ### Characters -/

/-- A character that never needs an escape. -/
def isUnreserved (c : Char) : Bool :=
  isLetterOrDigit c || "._-~".toList.contains c

/-- A character that may stand in the name of a host. -/
def inName (c : Char) : Bool :=
  isUnreserved c || "!$&'()*+,;=".toList.contains c

/-- A character that may stand in the part about the user. -/
def inUser (c : Char) : Bool :=
  inName c || c == ':'

/-- A character that may stand in a path. -/
def inPath (c : Char) : Bool :=
  inUser c || c == '@' || c == '/'

/-- A character that may stand in a query or a fragment. -/
def inQuery (c : Char) : Bool :=
  inPath c || c == '?'

/-- A character that may stand anywhere in an address. -/
def inAddress (c : Char) : Bool :=
  isUnreserved c || "!#$&'()*+,/:;=?@[]~".toList.contains c

/-! ### Escapes -/

/-- Escapes with their digits in upper case. -/
def upperEscapes : List Char → List Char
  | [] => []
  | '%' :: a :: b :: rest =>
    if isHexDigit a && isHexDigit b then '%' :: upperAscii a :: upperAscii b :: upperEscapes rest
    else '%' :: upperEscapes (a :: b :: rest)
  | c :: rest => c :: upperEscapes rest

/-- Whether every percent sign starts an escape. -/
def allEscapes : List Char → Bool
  | [] => true
  | '%' :: a :: b :: rest => isHexDigit a && isHexDigit b && allEscapes rest
  | c :: rest => c != '%' && allEscapes rest

/-- A part of an address with escapes for what may not stand in it.  Percent signs stay if all of them start
escapes. -/
def spelled (allowed : Char → Bool) (cs : List Char) : List Char :=
  escapeOutside (fun c => allowed c || (c == '%' && allEscapes cs)) (upperEscapes cs)

/-- An address with plain characters for the escapes of unreserved ones.  There is none if some letters or
digits after a percent sign are no escape. -/
def plainEscapes? : List Char → Option (List Char)
  | [] => some []
  | '%' :: a :: b :: rest =>
    if isLetterOrDigit a && isLetterOrDigit b then
      (escapeByte? a b).bind fun byte =>
        let c := Char.ofNat byte.toNat
        (plainEscapes? rest).map ((if isUnreserved c then [c] else ['%', a, b]) ++ ·)
    else (plainEscapes? (a :: b :: rest)).map ('%' :: ·)
  | c :: rest => (plainEscapes? rest).map (c :: ·)

/-- A whole address with escapes only where they are needed. -/
def respelled (cs : List Char) : List Char :=
  match plainEscapes? cs with
  | some cs => escapeOutside (fun c => c == '%' || inAddress c) cs
  | none => escapeOutside inAddress cs

/-! ### Hosts -/

/-- A path with its dot segments resolved. -/
def resolveDots (path : List Char) : List Char :=
  let kept := (Address.segments path).foldl (fun kept part =>
    if part = ['.'] then kept else if part = ['.', '.'] then kept.dropLast else kept ++ [part]) []
  let rooted := if path.head? = some '/' ∧ kept.head? ≠ some [] then [] :: kept else kept
  let closed :=
    if "/.".toList.isSuffixOf path || "/..".toList.isSuffixOf path then rooted ++ [[]] else rooted
  List.intercalate ['/'] closed

/-- Four numbers of up to three digits with points between them. -/
def looksLikeFourNumbers (cs : List Char) : Bool :=
  let parts := splitAtEach '.' cs
  parts.length == 4 && parts.all fun part => !part.isEmpty && part.length ≤ 3 && part.all Char.isDigit

/-- The name of a zone: unreserved characters and escapes. -/
def isZoneName (cs : List Char) : Bool :=
  !cs.isEmpty && allEscapes cs && cs.all fun c => isUnreserved c || c == '%'

/-- The name of the zone after the percent sign, which may be an escape itself. -/
def zoneName? (cs : List Char) : Option (List Char) :=
  let rest := cs.drop 1
  if "25".toList.isPrefixOf rest ∧ isZoneName (rest.drop 2) then some (rest.drop 2)
  else if isZoneName rest then some rest
  else none

/-- A numeric host between brackets in its usual spelling. -/
def longHost? (cs : List Char) : Option (List Char) :=
  let (number, zone) := Address.cutAt (· == '%') (cs.drop 1).dropLast
  let between (zone : List Char) : List Char := '[' :: number.map lowerAscii ++ zone ++ [']']
  if cs.head? ≠ some '[' ∨ cs.getLast? ≠ some ']' ∨ !Domain.isLongNumberWith looksLikeFourNumbers number then none
  else if zone.isEmpty then some (between [])
  else (zoneName? zone).map fun name => between ('%' :: spelled isUnreserved name)

/-- A label of the name of a host in ASCII. -/
def usualLabel? (label : List Char) : Option (List Char) :=
  if label.all isAscii then some (label.map lowerAscii)
  else (Domain.Name.toAscii true (Unicode.lower label)).toOption

/-- The name of a host in its usual spelling.  Its escapes are resolved first, and none may stand for a control
character. -/
def usualName? (host : List Char) : Option (List Char) :=
  let plain := unescape host
  if plain.any fun c => c.toNat < 0x20 || c.toNat == 0x7F then none
  else ((splitAtEach '.' plain).mapM usualLabel?).map fun labels =>
    escapeOutside inName (List.intercalate ['.'] labels)

/-- The port that a text gives, nothing if it is empty.  Zeros before it do not count, nor does a line end after
it. -/
def port? (cs : List Char) : Option (Option Nat) :=
  let digits := if cs.getLast? = some '\n' then cs.dropLast else cs
  let counted := digits.dropWhile (· == '0')
  let port := counted.foldl (fun n c => 10 * n + (c.toNat - '0'.toNat)) 0
  if digits.isEmpty then some none
  else if digits.all Char.isDigit ∧ counted.length ≤ 5 ∧ port ≤ 65535 then some (some port)
  else none

/-- Cuts the host from what follows it. -/
def cutHost (cs : List Char) : List Char × List Char :=
  match cs with
  | '[' :: _ =>
    let (inner, rest) := Address.cutAt (· == ']') cs
    (inner ++ rest.take 1, rest.drop 1)
  | cs => Address.cutAt (· == ':') cs

/-- A host as it is written: a number between brackets, or a name in which every percent sign starts an escape. -/
def isHost (cs : List Char) : Bool :=
  (longHost? cs).isSome || (allEscapes cs && !cs.contains '[' && !cs.contains ']')

/-- Host and port as they are written. -/
def hostAndPort? (cs : List Char) : Option (List Char × Option Nat) :=
  let (host, rest) := cutHost cs
  if !isHost host then none
  else
    match rest with
    | [] | ['\n'] => some (host, none)
    | ':' :: port => (port? port).map fun port => (host, port)
    | _ => none

/-- A host in its usual spelling.  Four numbers are left as they are, with a line end after them if there is
one. -/
def usualHost? (host : List Char) : Option (List Char) :=
  if host.head? = some '[' then longHost? host
  else if looksLikeFourNumbers (if host.getLast? = some '\n' then host.dropLast else host) then some host
  else usualName? host

/-! ### Addresses -/

/-- Whether an address starts with a scheme or with a slash. -/
def isRooted (cs : List Char) : Bool :=
  match cs with
  | '/' :: _ => true
  | c :: rest =>
    let inScheme (c : Char) : Bool := isLetterOrDigit c || c == '+' || c == '-'
    isLetter c && (rest.dropWhile inScheme).head? = some ':'
  | [] => false

/-- Takes an address apart; what comes first in one without a scheme is its host, and a backslash starts a
path. -/
def taken (cs : List Char) : Address.Written :=
  let w := Address.Written.ofChars (if isRooted cs then cs else '/' :: '/' :: cs)
  let (authority, more) := Address.cutAt (· == '\\') (w.authority.getD [])
  { w with authority := w.authority.map fun _ => authority, path := more ++ w.path }

/-- An address that lacks a part, or has one that cannot be read. -/
def badAddress {α : Type} (label text : String) : Except Mishap α :=
  .error (.reported label text)

/-- The schemes of the web. -/
def webSchemes : List (List Char) := ["http".toList, "https".toList]

/-- The part of an address under a scheme, with what it becomes under one of the web.  Under any other scheme it
stays as it is written. -/
def partUnder (scheme : List Char) (usual : List Char → List Char) (part : List Char) : List Char :=
  if webSchemes.contains scheme then usual part else part

/-- An optional part after its mark, nothing for an empty one. -/
def markedPart (scheme : List Char) (mark : Char) (part : Option (List Char)) : List Char :=
  match part with
  | none | some [] => []
  | some cs => mark :: partUnder scheme (spelled inQuery) cs

/-- The part about the user before its at sign. -/
def userPart (scheme user : List Char) : List Char :=
  if user.isEmpty then [] else partUnder scheme (spelled inUser) user ++ ['@']

/-- The path of an address, which starts with a slash. -/
def usualPath (scheme path : List Char) : List Char :=
  let path := partUnder scheme (fun path => spelled inPath (resolveDots path)) path
  if path.head? = some '/' then path else '/' :: path

/-- A host in the spelling that it has under a scheme. -/
def hostUnder? (scheme host : List Char) : Option (List Char) :=
  if webSchemes.contains scheme then usualHost? host
  else if host.all isAscii then some host
  else (Domain.Name.toAscii false (Unicode.lower host)).toOption

/-- An address with a scheme in its one spelling. -/
def addressUnder (s : String) (w : Address.Written) (scheme : List Char) : Except Mishap String :=
  let (user, rest) := Address.cutAtUser (w.authority.getD [])
  match (hostAndPort? rest).bind fun (host, port) => (hostUnder? scheme host).map fun host => (host, port) with
  | none => badAddress "InvalidURL" ("Failed to parse: " ++ s)
  | some (host, port) =>
    if host.isEmpty then badAddress "InvalidURL" ("Invalid URL " ++ quoted s ++ ": No host supplied")
    else if host.head? = some '*' ∨ host.head? = some '.' then
      badAddress "InvalidURL" "URL has an invalid label."
    else
      let portPart := match port with
        | none | some 0 => []
        | some n => ':' :: (toString n).toList
      .ok (String.ofList (respelled (scheme ++ "://".toList ++ userPart scheme user ++ host ++ portPart ++
        usualPath scheme w.path ++ markedPart scheme '?' w.query ++ markedPart scheme '#' w.fragment)))

/-- An address in its one spelling, or what keeps it from being requested. -/
def usualAddress (s : String) : Except Mishap String :=
  let cs := s.toList.dropWhile isBlank
  if cs.contains ':' && !"http".toList.isPrefixOf (cs.map lowerAscii) then .ok (String.ofList cs)
  else
    let w := taken cs
    match w.scheme with
    | some scheme => addressUnder s w (scheme.map lowerAscii)
    | none =>
      if (hostAndPort? (Address.cutAtUser (w.authority.getD [])).2).any fun (host, _) => (usualHost? host).isSome then
        badAddress "MissingSchema" ("Invalid URL " ++ quoted s ++ ": No scheme supplied")
      else badAddress "InvalidURL" ("Failed to parse: " ++ s)

/-- An address that requests can be sent to. -/
def isWebAddress (address : String) : Bool :=
  let lower := address.toList.map lowerAscii
  "http://".toList.isPrefixOf lower || "https://".toList.isPrefixOf lower

end Phrasing.Remote
