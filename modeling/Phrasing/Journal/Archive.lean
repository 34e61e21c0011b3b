import Phrasing.FileTree
import Phrasing.Journal.Reader

/-!
# Archives of journals

A directory of journals, to which every call adds a file of its own.  The latest come first: their names
start with the time of the call, so descending order is by age.  `failedCalls` reads all journals of a
directory and reports the calls that failed; it stops at the first one that cannot be read.
-/

namespace Phrasing.Journal

open Text

/-- Writes a journal that is started at a time to its file in a directory. -/
def Writer.saveIn (directory stamp : String) (w : Writer) (tree : FileTree) : FileTree :=
  tree.append (entryPath (usualPath directory) (w.fileName stamp)) (utf8Bytes (String.ofList w.content))

/-- The name of a journal. -/
def isJournalName (name : String) : Bool :=
  ".jsonl".toList.isSuffixOf name.toList

/-- The paths of the journals in a directory, in descending order. -/
def journalPaths (tree : FileTree) (directory : String) : List String :=
  let directory := usualPath directory
  match tree.reach directory with
  | .ok .directory =>
    let names := (tree.names directory).filter isJournalName
    (names.mergeSort fun a b => decide (b ≤ a)).map (entryPath directory)
  | _ => []

/-- Loads the journal at a path. -/
def load (tree : FileTree) (path : String) : Except Mishap (List Value) × List Notice :=
  match tree.reach path with
  | .error _ => (.error (.noFile ("Log file not found: " ++ path)), [])
  | .ok _ =>
    let (lines, stop) := tree.readLines path
    readLines path stop 1 lines

/-- The journals at some paths that record a failed call, each with its summary. -/
def failedAmong (tree : FileTree) :
    List String → Except Mishap (List (String × Summary)) × List Notice
  | [] => (.ok [], [])
  | path :: rest =>
    let (entries, notices) := load tree path
    match entries.bind summary with
    | .error m => (.error m, notices)
    | .ok s =>
      let (failed, more) := failedAmong tree rest
      let failed := if s.status = .failed then failed.map ((path, s) :: ·) else failed
      (failed, notices ++ more)

/-- The failed calls that a directory of journals records. -/
def failedCalls (tree : FileTree) (directory : String) :
    Except Mishap (List (String × Summary)) × List Notice :=
  failedAmong tree (journalPaths tree directory)

end Phrasing.Journal
