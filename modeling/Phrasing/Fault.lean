import Phrasing.Text.Quoted

/-!
# Faults

What a call can end in instead of a result.  Most faults are the resolver's own and say which stage
failed; a `Mishap` is anything else that went wrong on the way.  Every fault has a `label` that names
its kind and a `message` for people; some also carry the status of the service's reply or the list of
references that stayed unresolved.  A demand to stop a call ends it like a fault, but is not handled like one.
-/

namespace Phrasing

open Text

/-- Something that went wrong outside the rules of the resolver. -/
inductive Mishap where
  /-- A failure that another party reports by name. -/
  | reported (label text : String)
  /-- A demand to stop, which is no failure and is not handled like one. -/
  | interrupted (label text : String)
  /-- A value other than a wire value was to be decoded. -/
  | notDecodable (typeName : String)
  /-- References were looked for in something that is not a text. -/
  | notSearchable (typeName : String)
  /-- References were looked for in bytes. -/
  | bytesSearched
  /-- The items of something without items were asked for. -/
  | notIterable (typeName : String)
  /-- The length of something without a length was asked for. -/
  | noLength (typeName : String)
  /-- Something without that attribute was asked for it. -/
  | noAttribute (typeName name : String)
  /-- Bytes were to be treated as a text. -/
  | bytesAndText
  /-- A text does not spell a number. -/
  | notANumberText (literal : String)
  /-- A value of that kind is not a number. -/
  | notNumeric (typeName : String)
  /-- An integer is too large for a floating-point number. -/
  | tooLarge
  /-- A value of that kind is not a path. -/
  | notAPath (typeName : String)
  /-- A directory was to be read as a file. -/
  | isDirectory (path : String)
  /-- The bytes of a text could not be decoded. -/
  | undecodable (text : String)
  /-- A file to be read does not exist. -/
  | noFile (text : String)
  /-- A request was made through a closed client. -/
  | clientClosed
  /-- A header value has characters outside ASCII, from one position to another. -/
  | headerNotAscii (first last : Nat) (c : Char)
  /-- A header value is neither text nor bytes. -/
  | headerNotText (typeName : String)
  /-- An address cannot be requested. -/
  | invalidAddress (text : String)
  /-- An address is not a text. -/
  | addressNotText (typeName literal : String)
  /-- A number to be sent is not finite. -/
  | notFinite
  /-- A value of that kind cannot be written as JSON. -/
  | notWritable (typeName : String)
  /-- A key of that kind cannot be written as JSON. -/
  | keyNotWritable (typeName : String)
  /-- A closed log was written to. -/
  | logClosed
  /-- A line of a log holds JSON of a kind that has no members to write to. -/
  | entryNotObject (typeName : String)
  /-- A received text is not JSON. -/
  | notJson (text : String)
  /-- A text does not spell an integer. -/
  | notAnIntegerText (literal : String)
  /-- A number was looked for in an empty text. -/
  | emptyNumber
  /-- A text is not a word for a truth value. -/
  | notATruthWord (literal : String)
  /-- A text does not spell a point in time. -/
  | notATimeText
  /-- A point in time does not exist. -/
  | noSuchTime (text : String)
  /-- No character has that code. -/
  | noSuchCharacter (code : Nat)
  /-- An integer has too many digits: that many, where a text spells it. -/
  | tooManyDigits (count : Option Nat)
  /-- Something stands too deep in itself, which was found in the course of some work. -/
  | tooDeep (work : String)
  deriving DecidableEq, Repr

namespace Mishap

/-- The kind of a mishap. -/
def label : Mishap → String
  | .reported label _ | .interrupted label _ => label
  | .notDecodable _ | .noAttribute _ _ | .notATimeText => "AttributeError"
  | .notSearchable _ | .bytesSearched | .bytesAndText | .notIterable _ | .noLength _ | .notNumeric _ | .notAPath _
  | .headerNotText _ | .addressNotText _ _ | .notWritable _ | .keyNotWritable _ | .entryNotObject _ => "TypeError"
  | .notANumberText _ | .notAnIntegerText _ | .noSuchTime _ | .notFinite | .logClosed => "ValueError"
  | .tooLarge => "OverflowError"
  | .noSuchCharacter code => if code < Nat.pow 2 31 then "ValueError" else "OverflowError"
  | .emptyNumber => "IndexError"
  | .notATruthWord _ => "KeyError"
  | .isDirectory _ => "IsADirectoryError"
  | .undecodable _ => "UnicodeDecodeError"
  | .noFile _ => "FileNotFoundError"
  | .clientClosed => "RuntimeError"
  | .headerNotAscii _ _ _ => "UnicodeEncodeError"
  | .invalidAddress _ => "InvalidURL"
  | .notJson _ => "JSONDecodeError"
  | .tooManyDigits _ => "ValueError"
  | .tooDeep _ => "RecursionError"

/-- The text of a mishap. -/
def text : Mishap → String
  | .reported _ text | .interrupted _ text | .undecodable text | .noFile text | .notJson text | .invalidAddress text
  | .noSuchTime text | .notATruthWord text => text
  | .notDecodable typeName => "'" ++ typeName ++ "' object has no attribute 'as_text'"
  | .notSearchable typeName => "expected string or bytes-like object, got '" ++ typeName ++ "'"
  | .bytesSearched => "cannot use a string pattern on a bytes-like object"
  | .bytesAndText => "a bytes-like object is required, not 'str'"
  | .notIterable typeName => "'" ++ typeName ++ "' object is not iterable"
  | .noLength typeName => "object of type '" ++ typeName ++ "' has no len()"
  | .noAttribute typeName name => "'" ++ typeName ++ "' object has no attribute '" ++ name ++ "'"
  | .notANumberText literal => "could not convert string to float: " ++ literal
  | .notNumeric typeName =>
    "float() argument must be a string or a real number, not '" ++ typeName ++ "'"
  | .tooLarge => "int too large to convert to float"
  | .notAPath typeName => "expected str, bytes or os.PathLike object, not " ++ typeName
  | .isDirectory path => "[Errno 21] Is a directory: " ++ quoted path
  | .clientClosed => "Cannot send a request, as the client has been closed."
  | .headerNotAscii first last c =>
    let place :=
      if first = last then
        "character " ++ String.ofList ('\x27' :: codeEscape c.toNat ++ ['\x27']) ++
          " in position " ++ toString first
      else "characters in position " ++ toString first ++ "-" ++ toString last
    "'ascii' codec can't encode " ++ place ++ ": ordinal not in range(128)"
  | .headerNotText typeName =>
    "Header value must be str or bytes, not <class '" ++ typeName ++ "'>"
  | .addressNotText typeName literal =>
    "Invalid type for url.  Expected str or httpx.URL, got <class '" ++ typeName ++ "'>: " ++ literal
  | .notFinite => "Out of range float values are not JSON compliant"
  | .notWritable typeName => "Object of type " ++ typeName ++ " is not JSON serializable"
  | .keyNotWritable typeName => "keys must be str, int, float, bool or None, not " ++ typeName
  | .logClosed => "I/O operation on closed file."
  | .entryNotObject typeName => "'" ++ typeName ++ "' object does not support item assignment"
  | .notAnIntegerText literal => "invalid literal for int() with base 10: " ++ literal
  | .emptyNumber => "string index out of range"
  | .notATimeText => "'NoneType' object has no attribute 'groupdict'"
  | .noSuchCharacter _ => "chr() arg not in range(0x110000)"
  | .tooManyDigits count =>
    let value := (count.map fun n => ": value has " ++ toString n ++ " digits").getD ""
    "Exceeds the limit (4300 digits) for integer string conversion" ++ value ++
      "; use sys.set_int_max_str_digits() to increase the limit"
  | .tooDeep work => "maximum recursion depth exceeded" ++ work

end Mishap

/-- What a call ends in instead of a result. -/
inductive Fault where
  /-- A failure of the resolver without a kind of its own. -/
  | resolver (message : String)
  /-- Credentials or identifiers are missing. -/
  | configuration (message : String)
  /-- An argument cannot be used. -/
  | argument (message : String)
  /-- The credential was refused. -/
  | authentication (message : String) (status : Option Nat)
  /-- The service or the way to it failed. -/
  | service (message : String) (status : Option Nat)
  /-- An entity has no wire form. -/
  | unsupported (message : String)
  /-- A wire value cannot be decoded. -/
  | malformed (message : String)
  /-- These references got no phrase. -/
  | incomplete (missing : List String)
  /-- Anything else. -/
  | mishap (cause : Mishap)
  deriving DecidableEq, Repr

namespace Fault

/-- The kind of a fault. -/
def label : Fault → String
  | .resolver _ => "LGResolverError"
  | .configuration _ => "InvalidConfigurationError"
  | .argument _ => "InvalidArgumentError"
  | .authentication _ _ => "AuthenticationError"
  | .service _ _ => "ServiceError"
  | .unsupported _ => "UnsupportedValueTypeError"
  | .malformed _ => "MalformedWireValueError"
  | .incomplete _ => "IncompleteResolutionError"
  | .mishap cause => cause.label

/-- The text of a fault. -/
def message : Fault → String
  | .resolver m | .configuration m | .argument m | .unsupported m | .malformed m => m
  | .authentication m _ | .service m _ => m
  | .incomplete missing => "No resolution returned for: " ++ ", ".intercalate missing
  | .mishap cause => cause.text

/-- The status of the reply behind a fault. -/
def status? : Fault → Option Nat
  | .authentication _ status | .service _ status => status
  | _ => none

/-- The references that stayed unresolved. -/
def missing? : Fault → Option (List String)
  | .incomplete missing => some missing
  | _ => none

/-- A fault of the resolver's own. -/
def isOwn : Fault → Bool
  | .mishap _ => false
  | _ => true

/-- A demand to stop. -/
def isInterruption : Fault → Bool
  | .mishap (.interrupted _ _) => true
  | _ => false

end Fault

end Phrasing
