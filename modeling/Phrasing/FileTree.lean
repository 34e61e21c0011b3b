import Phrasing.Entries
import Phrasing.Fault
import Phrasing.Text.FilePath
import Phrasing.Text.Lines

/-!
# File trees

The files and directories that a program can see from where it stands, each under its path in its one
spelling.  Every directory on the way to an entry is an entry too.
-/

namespace Phrasing

open Text

/-- A file with its bytes, or a directory. -/
inductive FileNode where
  | directory
  | file (content : List UInt8)
  deriving DecidableEq, Repr

/-- Files and directories by their paths. -/
abbrev FileTree := Entries String FileNode

namespace FileTree

/-- The name at the end of a path. -/
def baseName (path : String) : String :=
  String.ofList (path.toList.reverse.takeWhile (· ≠ '/')).reverse

/-- The directory that a path lies in. -/
def parent (path : String) : String :=
  match path.toList.reverse.dropWhile (· ≠ '/') with
  | [] => "."
  | ['/'] => "/"
  | _ :: rest => String.ofList rest.reverse

/-- The directories on the way to a path, outermost first; `depth` bounds how many there are. -/
def ancestors : (depth : Nat) → String → List String
  | 0, _ => []
  | depth + 1, path =>
    let up := parent path
    if up = "." ∨ up = "/" then [] else ancestors depth up ++ [up]

/-- Names without a name and the way up after it; from the root no way leads up. -/
def settle (rooted : Bool) : (kept names : List (List Char)) → List (List Char)
  | kept, [] => kept.reverse
  | kept, name :: rest =>
    if name = ['.', '.'] then
      match kept with
      | [] => settle rooted (if rooted then [] else [name]) rest
      | last :: below => settle rooted (if last = name then name :: kept else below) rest
    else settle rooted (name :: kept) rest

/-- A path that goes up only at its start, and not from the root. -/
def settled (path : String) : String :=
  let cs := path.toList
  let rooted : Bool := cs.head? = some '/'
  String.ofList (spellPath (if rooted then ['/'] else []) (settle rooted [] (pathNames cs)))

/-- Adds an entry and the directories on the way to it. -/
def add (path : String) (node : FileNode) (tree : FileTree) : FileTree :=
  let path := settled path
  let withParents := (ancestors path.length path).foldl
    (fun tree up => if (tree.get? up).isSome then tree else tree.put up .directory) tree
  withParents.put path node

/-- The place where a program stands, what lies above it, and the root. -/
def isAbove (path : String) : Bool :=
  path = "." || path = "/" || (pathSegments path.toList).all (· == ['.', '.'])

/-- The entry at a path. -/
def find? (tree : FileTree) (path : String) : Option FileNode :=
  let path := settled path
  if isAbove path then some .directory else tree.get? path

/-- The names in a directory. -/
def names (tree : FileTree) (directory : String) : List String :=
  (tree.keys.filter fun path => parent path = settled directory).map baseName

/-- Writes bytes behind those of the file at a path, which is made if need be. -/
def append (path : String) (bytes : List UInt8) (tree : FileTree) : FileTree :=
  let before := match tree.find? path with
    | some (.file content) => content
    | _ => []
  tree.put (settled path) (.file (before ++ bytes))

/-! ### Ways to an entry -/

/-- The most bytes that a name may have. -/
def mostNameBytes : Nat := 255

/-- The most bytes that a path may have. -/
def mostPathBytes : Nat := 4095

/-- A path that is too long, or that has a name that is. -/
def tooLong {α : Type} (path : String) : Except Mishap α :=
  .error (.reported "OSError" ("[Errno 36] File name too long: " ++ quoted path))

/-- A path to nothing. -/
def noEntry {α : Type} (path : String) : Except Mishap α :=
  .error (.noFile ("[Errno 2] No such file or directory: " ++ quoted path))

/-- Checks that a whole path can be one. -/
def checkPath (path : String) : Except Mishap Unit :=
  if path.toList.contains '\x00' then .error (.reported "ValueError" "embedded null byte")
  else if mostPathBytes < path.utf8ByteSize then tooLong path
  else .ok ()

/-- Checks that a path can be one, and each of its segments a name. -/
def checkNames (path : String) : Except Mishap Unit := do
  checkPath path
  if (pathSegments path.toList).any fun name => mostNameBytes < (String.ofList name).utf8ByteSize then
    tooLong path

/-- Follows a path from an entry through the places that are left. -/
def follow (tree : FileTree) (path : String) : FileNode → List String → Except Mishap FileNode
  | node, [] => .ok node
  | .file _, _ :: _ => .error (.reported "NotADirectoryError" ("[Errno 20] Not a directory: " ++ quoted path))
  | .directory, place :: rest =>
    if mostNameBytes < (baseName place).utf8ByteSize then tooLong path
    else
      match tree.find? place with
      | none => noEntry path
      | some node => follow tree path node rest

/-- The entry that a path leads to. -/
def reach (tree : FileTree) (path : String) : Except Mishap FileNode := do
  checkPath path
  let path := usualPath path
  follow tree path .directory (ancestors path.length path ++ [path])

/-! ### Reading -/

/-- The mishap of bytes that fit no character. -/
def undecodable (bytes : List UInt8) (m : Misfit) : Mishap :=
  .undecodable (Encoding.utf8.report bytes m)

/-- The bytes of a file. -/
def readBytes (tree : FileTree) (path : String) : Except Mishap (List UInt8) :=
  match tree.reach path with
  | .error m => .error m
  | .ok .directory => .error (.isDirectory path)
  | .ok (.file bytes) => .ok bytes

/-- The characters of a text file. -/
def readText (tree : FileTree) (path : String) : Except Mishap (List Char) := do
  let bytes ← tree.readBytes path
  (Encoding.utf8.decodeStrict false bytes).mapError (undecodable bytes)

/-- The lines of a text file as far as it can be read, and the mishap that stops the reader. -/
def readLines (tree : FileTree) (path : String) : List (List Char) × Option Mishap :=
  match tree.readBytes path with
  | .error m => ([], some m)
  | .ok bytes => (linesOfBytes bytes).map id (Option.map (undecodable bytes))

end FileTree

end Phrasing
