/-!
# Entries under keys

An association kept as a list of pairs, in the order in which its keys were first written.  Writing a
key again replaces its value where it stands, so every key occurs at most once in what `put` and
`ofPairs` build.
-/

namespace Phrasing

/-- An association in the order its keys were first written. -/
abbrev Entries (κ ν : Type) := List (κ × ν)

namespace Entries

variable {κ ν : Type} [DecidableEq κ]

/-- The value under a key. -/
def get? (key : κ) : Entries κ ν → Option ν
  | [] => none
  | (k, v) :: rest => if k = key then some v else get? key rest

/-- Writes a value under a key: in place if the key is there, at the end otherwise. -/
def put (key : κ) (value : ν) : Entries κ ν → Entries κ ν
  | [] => [(key, value)]
  | (k, v) :: rest => if k = key then (k, value) :: rest else (k, v) :: put key value rest

/-- The association that results from writing pairs one after another. -/
def ofPairs (pairs : List (κ × ν)) : Entries κ ν :=
  pairs.foldl (fun entries (k, v) => entries.put k v) []

/-- The association without a key. -/
def erase (key : κ) (entries : Entries κ ν) : Entries κ ν :=
  entries.filter fun (k, _) => k ≠ key

/-- The keys, in order. -/
def keys (entries : Entries κ ν) : List κ :=
  entries.map Prod.fst

end Entries

end Phrasing
