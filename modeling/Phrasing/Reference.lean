import Phrasing.Entries

/-!
# Bracketed references

A text may name phrases to be filled in later: `[name]` is a reference to `name` when `name` is not
empty and holds no bracket.  `pieces` cuts a text into references and single characters from left to
right; listing the names and filling them in are both read off that one cut, so they always agree on
where the references stand.
-/

namespace Phrasing

/-- A piece of a text: a character that stands for itself, or a reference by its name. -/
inductive Piece where
  | char (c : Char)
  | reference (name : List Char)
  deriving DecidableEq, Repr

namespace Piece

/-- The text a piece was cut from. -/
def source : Piece → List Char
  | .char c => [c]
  | .reference name => '[' :: name ++ [']']

/-- The name of a reference. -/
def name? : Piece → Option String
  | .char _ => none
  | .reference name => some (String.ofList name)

end Piece

namespace Reference

/-- The two characters that delimit references. -/
def isBracket (c : Char) : Bool :=
  c == '[' || c == ']'

/-- What follows an opening bracket, as a name, with the text after its closing bracket. -/
def cut? (rest : List Char) : Option (List Char × List Char) :=
  match rest.takeWhile (!isBracket ·), rest.dropWhile (!isBracket ·) with
  | c :: name, ']' :: tail => some (c :: name, tail)
  | _, _ => none

theorem length_of_cut? {rest name tail : List Char} (h : cut? rest = some (name, tail)) :
    tail.length < rest.length := by
  unfold cut? at h
  split at h
  · rename_i heq
    cases h
    have := (List.dropWhile_sublist (!isBracket ·) (l := rest)).length_le
    rw [heq] at this
    exact this
  · cases h

/-- Cuts a text into references and single characters. -/
def pieces : List Char → List Piece
  | [] => []
  | '[' :: rest =>
    match _h : cut? rest with
    | some (name, tail) => .reference name :: pieces tail
    | none => .char '[' :: pieces rest
  | c :: rest => .char c :: pieces rest
termination_by text => text.length
decreasing_by
  · exact Nat.lt_succ_of_lt (length_of_cut? _h)
  all_goals simp

/-- The names a text refers to, in order of appearance, repeats included. -/
def names (text : String) : List String :=
  (pieces text.toList).filterMap Piece.name?

/-- Resolved phrases under the names of references. -/
abbrev Table := Entries String String

/-- The text of a piece once the references that the table knows are filled in. -/
def fillPiece (table : Table) : Piece → List Char
  | .char c => [c]
  | .reference name =>
    match table.get? (String.ofList name) with
    | some phrase => phrase.toList
    | none => (Piece.reference name).source

/-- Fills in every reference that the table knows; the others stay as they are. -/
def fill (table : Table) (text : String) : String :=
  String.ofList ((pieces text.toList).flatMap (fillPiece table))

end Reference

end Phrasing
