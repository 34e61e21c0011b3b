import Phrasing.Fault

/-!
# Tokens of a YAML stream

A stream is a sequence of tokens: marks of its structure, properties of nodes, and scalars.  Where a
collection is written by indentation alone, tokens for its start and end stand in the sequence all the same.
A stream that cannot be read to its end has the tokens up to there all the same, since what they spell may be wrong
before that.
-/

namespace Phrasing.Yaml

/-- Why a stream cannot be read. -/
inductive Trouble where
  /-- It is no YAML that can be loaded. -/
  | malformed
  /-- A scalar of it stands for a value that does not exist. -/
  | mishap (cause : Mishap)
  deriving DecidableEq, Repr

/-- A tag as written: a handle that stands for the start of its name, if any, and the rest of the name. -/
structure TagSpelling where
  handle : Option String
  rest : String
  deriving DecidableEq, Repr

/-- A directive before a document. -/
inductive Directive where
  /-- The version of YAML; the major number of it. -/
  | version (major : Nat)
  /-- A handle for tags and what it stands for. -/
  | handle (name meaning : String)
  | other
  deriving DecidableEq, Repr

/-- A token. -/
inductive Token where
  | directive (d : Directive)
  | documentStart
  | documentEnd
  | blockSequence
  | blockMapping
  | blockEnd
  | blockEntry
  | flowSequence
  | flowSequenceEnd
  | flowMapping
  | flowMappingEnd
  | flowEntry
  | key
  | value
  | anchor (name : String)
  | aliasOf (name : String)
  | tag (spelling : TagSpelling)
  /-- A scalar; a plain one has no quotes and is not a block. -/
  | scalar (plain : Bool) (text : String)
  deriving DecidableEq, Repr

/-- The tokens of a stream as far as it can be read, and what is met after them if that is not its end. -/
structure TokenRun where
  tokens : List Token
  trouble : Option Trouble
  deriving DecidableEq, Repr

end Phrasing.Yaml
