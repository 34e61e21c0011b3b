import Phrasing.Fault
import Phrasing.Json.Parser
import Phrasing.Value.Display

/-!
# Writing JSON

`Json.render` writes any value as JSON in ASCII, with a space after every comma and colon; a value that
JSON has no form for is written as a string with its display text.  `Json.check` refuses what cannot be
written even so: an integer of too many digits, a key that is no basic scalar, and what stands too deep.
`Json.sendable` is the stricter reading of a value that is to leave as the body of a request: it yields the
document the other side will read, or says why there is none.
-/

namespace Phrasing.Json

open Text

/-- A code escape of four digits. -/
def fourDigitEscape (n : Nat) : List Char :=
  '\\' :: 'u' :: hexDigits 4 n

/-- A character inside a string of ASCII characters. -/
def escapeChar (c : Char) : List Char :=
  match c with
  | '\x22' => ['\\', '\x22']
  | '\\' => ['\\', '\\']
  | '\n' => ['\\', 'n']
  | '\r' => ['\\', 'r']
  | '\t' => ['\\', 't']
  | '\x08' => ['\\', 'b']
  | '\x0C' => ['\\', 'f']
  | c =>
    let n := c.toNat
    if 0x20 ≤ n ∧ n < 0x7F then [c]
    else if n < 0x10000 then fourDigitEscape n
    else
      fourDigitEscape (0xD800 + (n - 0x10000) / 0x400) ++
        fourDigitEscape (0xDC00 + (n - 0x10000) % 0x400)

/-- A string. -/
def renderText (s : String) : List Char :=
  '\x22' :: s.toList.flatMap escapeChar ++ ['\x22']

/-- A floating-point number; the infinities are spelled out. -/
def renderFloat : Binary64 → List Char
  | .nan => "NaN".toList
  | .infinite negative => if negative then "-Infinity".toList else "Infinity".toList
  | x => x.text.toList

/-- A scalar. -/
def renderScalar : Scalar → List Char
  | .null => "null".toList
  | .bool b => if b then "true".toList else "false".toList
  | .int n => (toString n).toList
  | .float x => renderFloat x
  | .text s => renderText s
  | s => renderText (Value.scalar s).display

/-- The text of a key that can be written: a scalar other than a text is written as JSON would write it. -/
def keyText : Scalar → String
  | .text s => s
  | k@(.null) | k@(.bool _) | k@(.int _) | k@(.float _) => String.ofList (renderScalar k)
  | k => (Value.scalar k).display

/-- Parts with a comma and a space between them. -/
def joinParts : List (List Char) → List Char
  | [] => []
  | [part] => part
  | part :: rest => part ++ ',' :: ' ' :: joinParts rest

mutual

/-- The characters of a value. -/
def renderChars : Value → List Char
  | .scalar s => renderScalar s
  | .list items | .tuple items => '[' :: joinParts (renderItems items) ++ [']']
  | .mapping entries => '\x7b' :: joinParts (renderEntries entries) ++ ['\x7d']
  | v@(.set _) | v@(.record _) => renderText v.display

/-- The items of a collection. -/
def renderItems : List Value → List (List Char)
  | [] => []
  | v :: rest => renderChars v :: renderItems rest

/-- The members of an object. -/
def renderEntries : List (Scalar × Value) → List (List Char)
  | [] => []
  | (k, v) :: rest => (renderText (keyText k) ++ ':' :: ' ' :: renderChars v) :: renderEntries rest

end

/-- A value as JSON. -/
def render (v : Value) : String :=
  String.ofList (renderChars v)

/-! ### What cannot be written -/

/-- Refuses a key that is neither a text nor null, a truth value or a number, or that has too many digits. -/
def checkKey : Scalar → Except Mishap Unit
  | k@(.null) | k@(.bool _) | k@(.int _) | k@(.float _) | k@(.text _) => k.checkDigits
  | k => .error (.keyNotWritable k.typeName)

mutual

/-- Refuses a value that cannot be written: what is wrong with it first, from the front. -/
def check : (levels : Nat) → Value → Except Mishap Unit
  | _, .scalar s => s.checkDigits
  | levels, v@(.set _) | levels, v@(.record _) => v.checkLiteral levels
  | 0, _ => .error (.tooDeep " while encoding a JSON object")
  | levels + 1, .list items | levels + 1, .tuple items => checkItems levels items
  | levels + 1, .mapping entries => checkEntries levels entries

/-- Refuses items that cannot be written. -/
def checkItems (levels : Nat) : List Value → Except Mishap Unit
  | [] => .ok ()
  | v :: rest => do
    check levels v
    checkItems levels rest

/-- Refuses members that cannot be written. -/
def checkEntries (levels : Nat) : List (Scalar × Value) → Except Mishap Unit
  | [] => .ok ()
  | (k, v) :: rest => do
    checkKey k
    check levels v
    checkEntries levels rest

end

/-! ### Bodies of requests -/

/-- A scalar as a body holds it.  An integer of too many digits is not written. -/
def sendableScalar : Scalar → Except Mishap Scalar
  | .float x => if x.isFinite then .ok (.float x) else .error .notFinite
  | s@(.null) | s@(.bool _) | s@(.int _) | s@(.text _) =>
    if s.isWritable then .ok s else .error (.tooManyDigits none)
  | s => .error (.notWritable s.typeName)

/-- A key as a body holds it. -/
def sendableKey : Scalar → Except Mishap Scalar
  | .float x => if x.isFinite then .ok (.text x.text) else .error .notFinite
  | k@(.null) | k@(.bool _) | k@(.int _) | k@(.text _) =>
    if k.isWritable then .ok (.text (keyText k)) else .error (.tooManyDigits none)
  | k => .error (.keyNotWritable k.typeName)

mutual

/-- The document that the other side reads when a value is sent, or the first part that cannot be
written. -/
def sendable : Value → Except Mishap Value
  | .scalar s => (sendableScalar s).map .scalar
  | .list items | .tuple items => (sendableItems items).map .list
  | .mapping entries => (sendableEntries entries).map fun fields => .mapping (Entries.ofPairs fields)
  | v => .error (.notWritable v.typeName)

/-- The items of a collection as a body holds them. -/
def sendableItems : List Value → Except Mishap (List Value)
  | [] => .ok []
  | v :: rest => do
    let v ← sendable v
    let rest ← sendableItems rest
    return v :: rest

/-- The members of an object as a body holds them. -/
def sendableEntries : List (Scalar × Value) → Except Mishap (List (Scalar × Value))
  | [] => .ok []
  | (k, v) :: rest => do
    let k ← sendableKey k
    let v ← sendable v
    let rest ← sendableEntries rest
    return (k, v) :: rest

end

end Phrasing.Json
