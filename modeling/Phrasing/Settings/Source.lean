import Phrasing.FileTree
import Phrasing.Settings
import Phrasing.Text.Lines
import Phrasing.Yaml.Document

/-!
# Where settings come from

Settings come from a configuration file if the environment names one, and from the environment itself
otherwise.  A configuration file is a YAML document.
-/

namespace Phrasing.Settings

open Text

/-- The words for what is wrong with a text that is no YAML document. -/
class Complaints where
  text? : List Char → Option String

/-- There are none unless something else is said. -/
instance : Complaints where
  text? _ := none

/-- The document in a configuration file.  A vacant one counts as an empty mapping. -/
def documentAt [Complaints] (tree : FileTree) (path : String) : Except Fault Value :=
  match tree.readText path with
  | .error (.noFile _) => .error (.configuration ("Config file not found: " ++ path))
  | .error m => .error (.mishap m)
  | .ok cs =>
    match Yaml.load (unifyLineEnds cs) with
    | .ok document => .ok (document.orElse (.mapping []))
    | .error .malformed =>
      let words := ((Complaints.text? cs).map (": " ++ ·)).getD ""
      .error (.configuration ("Invalid YAML in " ++ path ++ words))
    | .error (.mishap m) => .error (.mishap m)

/-- The endpoint and the options that a configuration file describes. -/
def ofFile [Complaints] (tree : FileTree) (path : String) : Except Fault (Endpoint × Options) := do
  let path := usualPath path
  ofDocument path (← documentAt tree path)

/-- The endpoint and the options at the start of a program. -/
def atStart [Complaints] (tree : FileTree) (env : Environment) : Except Fault (Endpoint × Options) := do
  (checkEnvironment env).mapError .mishap
  match env.get? "LG_CONFIG" with
  | none | some "" => ofEnvironment env
  | some path => ofFile tree path

end Phrasing.Settings
