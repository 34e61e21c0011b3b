import Phrasing.Fault
import Phrasing.Number.Integer
import Phrasing.Text.Encoding
import Phrasing.Value.Basic

/-!
# Reading JSON

`Json.parse` reads one JSON document from a text.  Integers may have thousands of digits, other numbers
become floating-point numbers, and the names `NaN`, `Infinity` and `-Infinity` are accepted.  Of equal keys
in an object the last one counts, at the place of the first.  A refusal says what was expected and where, or
that a number is too long or collections stand too deep in each other.
Texts consist of characters: where the code for half of one stands alone, a replacement character is read, so
keys that differ in such halves only are equal here.
`Json.parseBytes` first decodes bytes as UTF-8, UTF-16 or UTF-32, whichever their start shows.
-/

namespace Phrasing.Json

open Text

/-- What is wrong at the place where reading stopped. -/
inductive Complaint where
  | noValue
  | noName
  | noColon
  | noComma
  | openString
  | controlCharacter
  | badEscape
  | badCodeEscape
  | extraText
  | byteOrderMark
  /-- An integer has that many digits, which is too many. -/
  | tooManyDigits (count : Nat)
  /-- An array, or else an object, stands too deep in others. -/
  | tooDeep (inArray : Bool)
  deriving DecidableEq, Repr

/-- The mishap that a complaint about size stands for; any other complaint is one about the form. -/
def Complaint.excess? : Complaint → Option Mishap
  | .tooManyDigits count => some (.tooManyDigits (some count))
  | .tooDeep inArray =>
    some (.tooDeep (" while decoding a JSON " ++ (if inArray then "array" else "object") ++ " from a unicode string"))
  | _ => none

/-- A complaint in words. -/
def Complaint.text : Complaint → String
  | .noValue => "Expecting value"
  | .noName => "Expecting property name enclosed in double quotes"
  | .noColon => "Expecting ':' delimiter"
  | .noComma => "Expecting ',' delimiter"
  | .openString => "Unterminated string starting at"
  | .controlCharacter => "Invalid control character at"
  | .badEscape => "Invalid \\escape"
  | .badCodeEscape => "Invalid \\uXXXX escape"
  | .extraText => "Extra data"
  | .byteOrderMark => "Unexpected UTF-8 BOM (decode using utf-8-sig)"
  | .tooManyDigits _ => "Too many digits"
  | .tooDeep _ => "Too deep"

/-- A refusal: the complaint, and how many characters of the text were left at its place. -/
structure Refusal where
  complaint : Complaint
  left : Nat
  deriving DecidableEq, Repr

/-- What a step of the reader yields: a result and the rest of the text. -/
abbrev Read (α : Type) := Except Refusal (α × List Char)

/-- A complaint at the start of a rest of the text. -/
def refuse {α : Type} (complaint : Complaint) (rest : List Char) : Except Refusal α :=
  .error ⟨complaint, rest.length⟩

/-- The space that JSON allows between its parts. -/
def isSpace (c : Char) : Bool :=
  c == ' ' || c == '\t' || c == '\n' || c == '\r'

/-- The text after any space. -/
def skipSpace (cs : List Char) : List Char :=
  cs.dropWhile isSpace

/-- The value of a hexadecimal digit. -/
def hexValue? (c : Char) : Option Nat :=
  if '0' ≤ c ∧ c ≤ '9' then some (c.toNat - '0'.toNat)
  else if 'a' ≤ c ∧ c ≤ 'f' then some (c.toNat - 'a'.toNat + 10)
  else if 'A' ≤ c ∧ c ≤ 'F' then some (c.toNat - 'A'.toNat + 10)
  else none

/-- Four hexadecimal digits. -/
def fourHex? : List Char → Option (Nat × List Char)
  | a :: b :: c :: d :: rest => do
    let a ← hexValue? a
    let b ← hexValue? b
    let c ← hexValue? c
    let d ← hexValue? d
    return (((a * 16 + b) * 16 + c) * 16 + d, rest)
  | _ => none

/-- The character of an escape of one letter. -/
def shortEscape? : Char → Option Char
  | '\x22' => some '\x22'
  | '\\' => some '\\'
  | '/' => some '/'
  | 'b' => some '\x08'
  | 'f' => some '\x0C'
  | 'n' => some '\n'
  | 'r' => some '\r'
  | 't' => some '\t'
  | _ => none

/-- The code escape after the letter `u`, whose rest of the text is `start` with that letter.  At least one
more character must follow the digits.  Two escapes that are halves of a pair make one character; a half
alone makes a replacement character. -/
def codeEscape? (start rest : List Char) : Read Char :=
  match fourHex? rest with
  | none => refuse .badCodeEscape start
  | some (_, []) => refuse .badCodeEscape start
  | some (n, rest) =>
    if isHighSurrogate n && !(rest.drop 6).isEmpty then
      match rest with
      | '\\' :: 'u' :: tail =>
        match fourHex? tail with
        | none => refuse .badCodeEscape ('u' :: tail)
        | some (m, tail) =>
          if isLowSurrogate m then .ok (joinSurrogates n m, tail) else .ok ('\uFFFD', rest)
      | _ => .ok ('\uFFFD', rest)
    else if isHighSurrogate n || isLowSurrogate n then .ok ('\uFFFD', rest)
    else .ok (Char.ofNat n, rest)

/-- One character of a string, or nothing at its closing quote; `opening` is the text from the opening
quote on. -/
def stringChar (opening : List Char) : List Char → Read (Option Char)
  | [] => refuse .openString opening
  | '\x22' :: rest => .ok (none, rest)
  | '\\' :: rest =>
    match rest with
    | [] => refuse .openString opening
    | 'u' :: tail => (codeEscape? rest tail).map fun (c, rest) => (some c, rest)
    | c :: tail =>
      match shortEscape? c with
      | some e => .ok (some e, tail)
      | none => refuse .badEscape ('\\' :: rest)
  | c :: rest =>
    if c.toNat ≤ 0x1F then refuse .controlCharacter (c :: rest) else .ok (some c, rest)

/-- The characters of a string up to its closing quote. -/
def stringChars (opening : List Char) : (fuel : Nat) → List Char → Read (List Char)
  | 0, _ => refuse .openString opening
  | fuel + 1, cs =>
    match stringChar opening cs with
    | .error e => .error e
    | .ok (none, rest) => .ok ([], rest)
    | .ok (some c, rest) => (stringChars opening fuel rest).map fun (s, rest) => (c :: s, rest)

/-- A string after its opening quote. -/
def stringAfterQuote (rest : List Char) : Read String :=
  (stringChars ('\x22' :: rest) (rest.length + 1) rest).map fun (s, rest) => (String.ofList s, rest)

/-- ASCII digits and what follows them. -/
def spanDigits (cs : List Char) : List Nat × List Char :=
  ((cs.takeWhile fun c => (asciiDigit? c).isSome).filterMap asciiDigit?,
    cs.dropWhile fun c => (asciiDigit? c).isSome)

/-- The whole part of a number: a zero alone, or digits that start with another one. -/
def wholePart? : List Char → Option (List Nat × List Char)
  | '0' :: rest => some ([0], rest)
  | cs =>
    match spanDigits cs with
    | ([], _) => none
    | found => some found

/-- The fraction of a number, empty where no digit follows a point. -/
def fractionPart : List Char → List Nat × List Char
  | '.' :: rest =>
    match spanDigits rest with
    | ([], _) => ([], '.' :: rest)
    | found => found
  | cs => ([], cs)

/-- The exponent of a number, absent where no digit follows the letter. -/
def exponentPart (cs : List Char) : Option Int × List Char :=
  match cs with
  | c :: rest =>
    if c = 'e' ∨ c = 'E' then
      let (negative, rest) := Binary64.takeSign rest
      match spanDigits rest with
      | ([], _) => (none, cs)
      | (ds, rest) =>
        let n : Int := Binary64.ofDigits ds
        (some (if negative then -n else n), rest)
    else (none, cs)
  | [] => (none, [])

/-- A number whose sign is already read. -/
def magnitude? (negative : Bool) (cs : List Char) : Option (Read Value) :=
  (wholePart? cs).map fun (whole, rest) =>
    let (fraction, rest) := fractionPart rest
    let (exponent, rest) := exponentPart rest
    if fraction.isEmpty && exponent.isNone then
      if mostDigits < whole.length then refuse (.tooManyDigits whole.length) rest
      else
        let n : Int := Binary64.ofDigits whole
        .ok (.int (if negative then -n else n), rest)
    else
      .ok (.float (.ofDecimal negative (Binary64.ofDigits (whole ++ fraction))
        (exponent.getD 0 - fraction.length)), rest)

/-- A number. -/
def number? : List Char → Option (Read Value)
  | '-' :: rest => magnitude? true rest
  | cs => magnitude? false cs

/-- The names of constants with what they stand for. -/
def constants : List (List Char × Value) := [
  ("null".toList, .null), ("true".toList, .bool true), ("false".toList, .bool false),
  ("NaN".toList, .float .nan), ("Infinity".toList, .float (.infinite false)),
  ("-Infinity".toList, .float (.infinite true))]

/-- A constant by its name. -/
def constant? (cs : List Char) : Option (Value × List Char) :=
  constants.findSome? fun (name, v) =>
    if name.isPrefixOf cs then some (v, cs.drop name.length) else none

/-- A value that is neither a string nor a collection. -/
def bareValue (cs : List Char) : Read Value :=
  match constant? cs with
  | some found => .ok found
  | none =>
    (number? cs).getD (refuse .noValue cs)

/-- The most collections that may stand in each other. -/
def mostLevels : Nat := Value.mostLevels

mutual

/-- A value, with nothing before it; so many more levels of collections may start with it. -/
def value : (levels fuel : Nat) → List Char → Read Value
  | _, 0, cs => refuse .noValue cs
  | levels, fuel + 1, cs =>
    match cs, levels with
    | '\x22' :: rest, _ => (stringAfterQuote rest).map fun (s, rest) => (.text s, rest)
    | '[' :: _, 0 => refuse (.tooDeep true) cs
    | '[' :: rest, levels + 1 =>
      match skipSpace rest with
      | ']' :: rest => .ok (.list [], rest)
      | rest => (items levels fuel rest).map fun (vs, rest) => (.list vs, rest)
    | '\x7b' :: _, 0 => refuse (.tooDeep false) cs
    | '\x7b' :: rest, levels + 1 =>
      match skipSpace rest with
      | '\x7d' :: rest => .ok (.mapping [], rest)
      | rest => (members levels fuel rest).map fun (fields, rest) =>
          (.mapping (Entries.ofPairs fields), rest)
    | cs, _ => bareValue cs
termination_by structural _ fuel => fuel

/-- The items of an array from one of them on. -/
def items : (levels fuel : Nat) → List Char → Read (List Value)
  | _, 0, cs => refuse .noValue cs
  | levels, fuel + 1, cs =>
    match value levels fuel cs with
    | .error e => .error e
    | .ok (v, rest) =>
      match skipSpace rest with
      | ']' :: rest => .ok ([v], rest)
      | ',' :: rest => (items levels fuel (skipSpace rest)).map fun (vs, rest) => (v :: vs, rest)
      | rest => refuse .noComma rest
termination_by structural _ fuel => fuel

/-- The members of an object from one of them on. -/
def members : (levels fuel : Nat) → List Char → Read (List (Scalar × Value))
  | _, 0, cs => refuse .noName cs
  | levels, fuel + 1, cs =>
    match cs with
    | '\x22' :: rest =>
      match stringAfterQuote rest with
      | .error e => .error e
      | .ok (name, rest) =>
        match skipSpace rest with
        | ':' :: rest =>
          match value levels fuel (skipSpace rest) with
          | .error e => .error e
          | .ok (v, rest) =>
            match skipSpace rest with
            | '\x7d' :: rest => .ok ([(.text name, v)], rest)
            | ',' :: rest =>
              (members levels fuel (skipSpace rest)).map fun (fields, rest) => ((.text name, v) :: fields, rest)
            | rest => refuse .noComma rest
        | rest => refuse .noColon rest
    | cs => refuse .noName cs
termination_by structural _ fuel => fuel

end

/-- Every value takes at least one character, and so does every item after the first. -/
def enoughFuel (cs : List Char) : Nat :=
  2 * cs.length + 2

/-- A whole document. -/
def document (cs : List Char) : Except Refusal Value :=
  match value mostLevels (enoughFuel cs) (skipSpace cs) with
  | .error e => .error e
  | .ok (v, rest) =>
    match skipSpace rest with
    | [] => .ok v
    | rest => refuse .extraText rest

/-- The place of a refusal in the text. -/
def Refusal.place (cs : List Char) (r : Refusal) : Nat :=
  cs.length - r.left

/-- A refusal in words, with line, column and place in the text. -/
def Refusal.message (cs : List Char) (r : Refusal) : String :=
  let pos := r.place cs
  let before := cs.take pos
  let line := before.count '\n' + 1
  let column := (before.reverse.takeWhile (· ≠ '\n')).length + 1
  r.complaint.text ++ ": line " ++ toString line ++ " column " ++ toString column ++
    " (char " ++ toString pos ++ ")"

/-- A refusal as a mishap. -/
def Refusal.mishap (cs : List Char) (r : Refusal) : Mishap :=
  r.complaint.excess?.getD (.notJson (r.message cs))

/-- Reads a JSON document from the characters of a text, which no byte order mark may start. -/
def parseChars (cs : List Char) : Except Mishap Value :=
  let read := match cs with
    | '\uFEFF' :: _ => refuse .byteOrderMark cs
    | cs => document cs
  read.mapError (·.mishap cs)

/-- Reads a JSON document from a text, or tells what is wrong with it. -/
def parse (s : String) : Except Mishap Value :=
  parseChars s.toList

/-- The encoding that the first bytes of a JSON document show. -/
def detectEncoding (bytes : List UInt8) : Encoding :=
  let fourBytes (first second third fourth : UInt8) : Encoding :=
    if first = 0 then (if second = 0 then .utf32 true else .utf16 true)
    else if second = 0 then (if third = 0 ∧ fourth = 0 then .utf32 false else .utf16 false)
    else .utf8
  if [0x00, 0x00, 0xFE, 0xFF].isPrefixOf bytes || [0xFF, 0xFE, 0x00, 0x00].isPrefixOf bytes then .utf32Marked
  else if [0xFF, 0xFE].isPrefixOf bytes || [0xFE, 0xFF].isPrefixOf bytes then .utf16Marked
  else if [0xEF, 0xBB, 0xBF].isPrefixOf bytes then .utf8Signed
  else
    match bytes with
    | first :: second :: third :: fourth :: _ => fourBytes first second third fourth
    | [first, second] => if first = 0 then .utf16 true else if second = 0 then .utf16 false else .utf8
    | _ => .utf8

/-- Why bytes are no JSON document. -/
inductive Unreadable where
  /-- They are no text. -/
  | undecodable (text : String)
  /-- The text that they are is no document. -/
  | refused (cs : List Char) (r : Refusal)
  deriving DecidableEq, Repr

/-- What is wrong with bytes, as a mishap. -/
def Unreadable.mishap : Unreadable → Mishap
  | .undecodable text => .undecodable text
  | .refused cs r => r.mishap cs

/-- Reads a JSON document from bytes. -/
def readBytes (bytes : List UInt8) : Except Unreadable Value :=
  let encoding := detectEncoding bytes
  match encoding.decodeStrict true bytes with
  | .error m => .error (.undecodable (encoding.report bytes m))
  | .ok cs => (document cs).mapError (.refused cs)

/-- Reads a JSON document from bytes, or tells what is wrong with them. -/
def parseBytes (bytes : List UInt8) : Except Mishap Value :=
  (readBytes bytes).mapError Unreadable.mishap

end Phrasing.Json
