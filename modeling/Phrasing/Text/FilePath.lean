/-!
# Paths as texts

A path is kept in one spelling: no empty and no `.` segments, a dot for the empty path, and at the start
one slash for the root, or two where exactly two were written.
-/

namespace Phrasing.Text

/-- The segments of a path, empty ones included. -/
def pathSegments : List Char → List (List Char)
  | [] => [[]]
  | '/' :: rest => [] :: pathSegments rest
  | c :: rest =>
    match pathSegments rest with
    | part :: more => (c :: part) :: more
    | [] => [[c]]

/-- The root that the slashes at the start of a path stand for. -/
def pathRoot (cs : List Char) : List Char :=
  match (cs.takeWhile (· == '/')).length with
  | 0 => []
  | 2 => ['/', '/']
  | _ => ['/']

/-- The names that a path goes through. -/
def pathNames (cs : List Char) : List (List Char) :=
  (pathSegments cs).filter fun part => part ≠ [] ∧ part ≠ ['.']

/-- The path from a root through names. -/
def spellPath (root : List Char) (names : List (List Char)) : List Char :=
  match root ++ List.intercalate ['/'] names with
  | [] => ['.']
  | path => path

/-- The characters of a path in its one spelling. -/
def usualPathChars (cs : List Char) : List Char :=
  spellPath (pathRoot cs) (pathNames cs)

/-- A path in its one spelling. -/
def usualPath (s : String) : String :=
  String.ofList (usualPathChars s.toList)

/-- The path of an entry of a directory. -/
def entryPath (directory name : String) : String :=
  if directory = "." then name
  else if directory.endsWith "/" then directory ++ name
  else directory ++ "/" ++ name

end Phrasing.Text
