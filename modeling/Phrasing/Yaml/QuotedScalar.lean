import Phrasing.Json.Parser
import Phrasing.Yaml.Cursor
import Phrasing.Yaml.Token

/-!
# Quoted scalars

In single quotes only a doubled quote stands for something else, itself once.  In double quotes a backslash
starts an escape: a letter for one character, a code of two, four or eight hexadecimal digits, or a line break
that is left out together with the indentation after it.  In either kind lines are folded into one.
-/

namespace Phrasing.Yaml

/-- The character of an escape of one letter. -/
def shortEscape? : Char → Option Char
  | '0' => some '\x00'
  | 'a' => some '\x07'
  | 'b' => some '\x08'
  | 't' | '\t' => some '\t'
  | 'n' => some '\n'
  | 'v' => some '\x0B'
  | 'f' => some '\x0C'
  | 'r' => some '\r'
  | 'e' => some '\x1B'
  | ' ' => some ' '
  | '\x22' => some '\x22'
  | '\\' => some '\\'
  | '/' => some '/'
  | 'N' => some '\x85'
  | '_' => some '\xA0'
  | 'L' => some '\u2028'
  | 'P' => some '\u2029'
  | _ => none

/-- How many hexadecimal digits follow the letter of a code escape. -/
def codeLength? : Char → Option Nat
  | 'x' => some 2
  | 'u' => some 4
  | 'U' => some 8
  | _ => none

/-- The number that exactly `count` hexadecimal digits spell. -/
def hexNumber? (count : Nat) (cs : List Char) : Option Nat :=
  let digits := (cs.take count).filterMap Json.hexValue?
  if digits.length = count then some (digits.foldl (fun n d => 16 * n + d) 0) else none

/-- The character with a code; half of a surrogate pair is replaced. -/
def codeChar (code : Nat) : Except Trouble Char :=
  if 0x10FFFF < code then .error (.mishap (.noSuchCharacter code))
  else if 0xD800 ≤ code ∧ code ≤ 0xDFFF then .ok '\uFFFD'
  else .ok (Char.ofNat code)

/-- The line breaks that come next, and the place after the indentation that follows them. -/
def quotedBreaks : (fuel : Nat) → Cursor → Except Trouble (List Char × Cursor)
  | 0, p => .ok ([], p)
  | fuel + 1, p =>
    if p.atDocumentMark then .error .malformed
    else
      let p := p.skipWhile isGap
      match p.lineBreak? with
      | none => .ok ([], p)
      | some (b, p) => (quotedBreaks fuel p).map fun (bs, p) => (b :: bs, p)

/-- What an escape after its backslash stands for. -/
def escaped (p : Cursor) : Except Trouble (List Char × Cursor) :=
  match p.peek with
  | none => .error .malformed
  | some c =>
    match shortEscape? c, codeLength? c, p.lineBreak? with
    | some e, _, _ => .ok ([e], p.next)
    | none, some count, _ =>
      match hexNumber? count p.next.rest with
      | some code => (codeChar code).map fun e => ([e], p.next.skip count)
      | none => .error .malformed
    | none, none, some (_, p) => quotedBreaks (p.rest.length + 1) p
    | none, none, none => .error .malformed

/-- Spaces and tabulators inside of a line, or what joins two lines. -/
def quotedGap (p : Cursor) : Except Trouble (List Char × Cursor) :=
  let (spaces, p) := p.span isGap
  match p.lineBreak? with
  | some (b, p) => (quotedBreaks (p.rest.length + 1) p).map fun (bs, p) => (foldBreaks b bs, p)
  | none => .ok (spaces, p)

/-- The text of a scalar up to its closing quote, and the place after that. -/
def quotedScalar (quote : Char) : (fuel : Nat) → Cursor → Except Trouble (List Char × Cursor)
  | 0, _ => .error .malformed
  | fuel + 1, p =>
    let continued (part : List Char × Cursor) : Except Trouble (List Char × Cursor) :=
      (quotedScalar quote fuel part.2).map fun (more, p) => (part.1 ++ more, p)
    match p.peek with
    | none => .error .malformed
    | some c =>
      if c == quote then
        if quote == '\x27' && p.peekAt 1 == some quote then continued ([quote], p.skip 2)
        else .ok ([], p.next)
      else if c == '\\' && quote == '\x22' then
        match escaped p.next with
        | .ok part => continued part
        | .error e => .error e
      else if isGap c || isBreak c then
        match quotedGap p with
        | .ok part => continued part
        | .error e => .error e
      else continued ([c], p.next)

end Phrasing.Yaml
