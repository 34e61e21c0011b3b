import Phrasing.Yaml.Cursor
import Phrasing.Yaml.Token

/-!
# Block scalars

A block scalar is a run of indented lines under a header.  The header says whether the lines are kept as they
are or folded, how far they are indented if not as far as the first of them, and what becomes of the
breaks at the end: all but one are dropped, or all of them, or none.
-/

namespace Phrasing.Yaml

/-- What becomes of the line breaks at the end of a block scalar. -/
inductive Chomping where
  | strip
  | clip
  | keep
  deriving DecidableEq, Repr

/-- The chomping that a sign asks for. -/
def chomping? : Char → Option Chomping
  | '+' => some .keep
  | '-' => some .strip
  | _ => none

/-- An indicator of a header read off the next character. -/
def indicator? {α : Type} (read : Char → Option α) (p : Cursor) : Option (α × Cursor) :=
  (p.peek.bind read).map fun a => (a, p.next)

/-- The digit of an indentation indicator. -/
def indentDigit? (c : Char) : Option Nat :=
  if '0' ≤ c ∧ c ≤ '9' then some (c.toNat - '0'.toNat) else none

/-- The chomping and the indentation that a header asks for, in either order, and the place after them. -/
def blockIndicators (p : Cursor) : Chomping × Option Nat × Cursor :=
  match indicator? chomping? p with
  | some (chomping, p) =>
    match indicator? indentDigit? p with
    | some (n, p) => (chomping, some n, p)
    | none => (chomping, none, p)
  | none =>
    match indicator? indentDigit? p with
    | none => (.clip, none, p)
    | some (n, p) =>
      match indicator? chomping? p with
      | some (chomping, p) => (chomping, some n, p)
      | none => (.clip, some n, p)

/-- Spaces up to a column. -/
def indentTo (column : Nat) (p : Cursor) : Cursor :=
  p.skip ((p.rest.take (column - p.column)).takeWhile (· == ' ')).length

/-- The breaks of the blank lines that come next, whose indentation does not go past a column, and the
place after the indentation of the first other line. -/
def blockBreaks (column : Nat) : (fuel : Nat) → Cursor → List Char × Cursor
  | 0, p => ([], p)
  | fuel + 1, p =>
    let p := indentTo column p
    match p.lineBreak? with
    | none => ([], p)
    | some (b, p) =>
      let (bs, p) := blockBreaks column fuel p
      (b :: bs, p)

/-- The breaks of the blank lines that come next, the column of the furthest indentation among them and the
first other line, and the place where that line starts. -/
def leadingBreaks : (fuel : Nat) → (widest : Nat) → Cursor → List Char × Nat × Cursor
  | 0, widest, p => ([], widest, p)
  | fuel + 1, widest, p =>
    let p := p.skipWhile (· == ' ')
    let widest := max widest p.column
    match p.lineBreak? with
    | none => ([], widest, p)
    | some (b, p) =>
      let (bs, widest, p) := leadingBreaks fuel widest p
      (b :: bs, widest, p)

/-- The lines of a block scalar from one that is not blank on.  `breaks` are the breaks before it.  The
results are the text up to the last line, the break at its end, if any, the breaks of the blank lines
after it, and the place after those. -/
def blockLines (folded : Bool) (column : Nat) :
    (fuel : Nat) → (breaks : List Char) → Cursor → List Char × List Char × List Char × Cursor
  | 0, breaks, p => ([], [], breaks, p)
  | fuel + 1, breaks, p =>
    if p.column ≠ column ∨ p.rest.isEmpty then ([], [], breaks, p)
    else
      let startsGap (p : Cursor) : Bool := p.peek.any isGap
      let flush := !startsGap p
      let (line, p) := p.span (!isBreak ·)
      let (ending, p) := match p.lineBreak? with
        | some (b, p) => ([b], p)
        | none => ([], p)
      let (after, p) := blockBreaks column (p.rest.length + 1) p
      if p.column = column ∧ ¬ p.rest.isEmpty then
        let joint :=
          if folded && ending == ['\n'] && flush && !startsGap p then (if after.isEmpty then [' '] else [])
          else ending
        let (more, last, trailing, p) := blockLines folded column fuel after p
        (breaks ++ line ++ joint ++ more, last, trailing, p)
      else (breaks ++ line, ending, after, p)

/-- The text of a block scalar after its first mark, and the place after it.  Its lines start at column
`margin` or further right. -/
def blockScalar (folded : Bool) (margin : Nat) (p : Cursor) : Except Trouble (List Char × Cursor) :=
  let (chomping, indent, p) := blockIndicators p
  if indent = some 0 ∨ ¬ endsWord p.peek then .error .malformed
  else
    match p.restOfLine? with
    | none => .error .malformed
    | some p =>
      let p := p.afterBreak
      let fuel := p.rest.length + 1
      let least := max margin 1
      let (breaks, column, p) := match indent with
        | none =>
          let (breaks, widest, p) := leadingBreaks fuel 0 p
          (breaks, max least widest, p)
        | some n =>
          let column := least + n - 1
          let (breaks, p) := blockBreaks column fuel p
          (breaks, column, p)
      let (text, last, trailing, p) := blockLines folded column fuel breaks p
      .ok (match chomping with
        | .strip => text
        | .clip => text ++ last
        | .keep => text ++ last ++ trailing, p)

end Phrasing.Yaml
