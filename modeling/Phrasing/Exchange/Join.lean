/-!
# Joining concurrent results

Things that run at the same time finish in an order that depends on their delays.  `completions` is that
order: by delay, and by the place of the start among equal delays.  `join` puts what has finished back
into the order of the starts, whatever the order in which it finished.
-/

namespace Phrasing.Join

/-- Things in the order they finish, each with the place of its start. -/
def completions {α : Type} (delay : α → Nat) (started : List α) : List (α × Nat) :=
  started.zipIdx.mergeSort fun a b => delay a.1 ≤ delay b.1

/-- The thing that was started at a place. -/
def startedAt? {α : Type} (finished : List (α × Nat)) (place : Nat) : Option α :=
  (finished.find? fun (_, i) => i == place).map Prod.fst

/-- The first `count` things in the order of their starts. -/
def join {α : Type} (count : Nat) (finished : List (α × Nat)) : List α :=
  (List.range count).filterMap (startedAt? finished)

/-- The results of all, or the first failure. -/
def results {ε α : Type} : List (Except ε α) → Except ε (List α)
  | [] => .ok []
  | .error e :: _ => .error e
  | .ok a :: rest => (results rest).map (a :: ·)

/-- How many of the results are failures. -/
def failureCount {ε α : Type} (xs : List (Except ε α)) : Nat :=
  xs.countP fun
    | .error _ => true
    | .ok _ => false

end Phrasing.Join
