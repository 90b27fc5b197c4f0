import Bookmarks.Sorting.Run
import Bookmarks.Sorting.Merge

/-! Sorting by merging runs. Runs wait to be merged until the boundary to a later run lies less deep
than theirs in a tree that is balanced by lengths; in the end all that wait are merged. Elements of
which none is less than the other keep their order. -/

namespace Bookmarks.Sorting

variable {α : Type}

/-- A run that waits, with its position and the depth of its boundary to the next run. -/
structure Waiting (α : Type) where
  start : Nat
  run : List α
  depth : Nat := 0

/-- The shortest run that is not extended: a length divided by two, rounded up in the end, until it
has at most six binary digits. -/
def shortestRun (length : Nat) : Nat :=
  let halvings := length.log2 - 5
  (length + (1 <<< halvings) - 1) >>> halvings

/-- The depth of the boundary between neighbours: the number of binary places after which their
middles, as parts of the whole, are told apart. -/
def boundaryDepth (total start left right : Nat) : Nat :=
  let middle := 2 * start + left
  let next := middle + left + right
  ((List.range (total.log2 + 2)).find? fun places =>
    (middle <<< places) / total != (next <<< places) / total).getD total

/-- Merges the last run with those before it that lie deeper than a new boundary. -/
def absorb (less : α → α → Bool) (depth threshold : Nat) (last : Waiting α) :
    List (Waiting α) → List (Waiting α) × Nat
  | [] => ([{ last with depth }], threshold)
  | before :: rest =>
    if depth < before.depth then
      let (run, threshold) := merge less threshold before.run last.run
      absorb less depth threshold { before with run } rest
    else ({ last with depth } :: before :: rest, threshold)

/-- Adds a run behind those that wait, of which the last one stands first. -/
def add (less : α → α → Bool) (total : Nat) (state : List (Waiting α) × Nat) (run : List α) :
    List (Waiting α) × Nat :=
  match state with
  | ([], threshold) => ([{ start := 0, run }], threshold)
  | (last :: rest, threshold) =>
    let depth := boundaryDepth total last.start last.run.length run.length
    let (waiting, threshold) := absorb less depth threshold last rest
    ({ start := last.start + last.run.length, run } :: waiting, threshold)

/-- Merges all runs, of which the last one stands first. The last but one goes with the shorter of
its neighbours. -/
def mergeAll (less : α → α → Bool) (threshold : Nat) : List (List α) → List α
  | [] => []
  | [run] => run
  | [last, before] => (merge less threshold before last).1
  | last :: before :: first :: rest =>
    if first.length < last.length then
      let (run, threshold) := merge less threshold first before
      mergeAll less threshold (last :: run :: rest)
    else
      let (run, threshold) := merge less threshold before last
      mergeAll less threshold (run :: first :: rest)
termination_by runs => runs.length

def sort (less : α → α → Bool) (xs : List α) : List α :=
  let (waiting, threshold) :=
    (runs less (shortestRun xs.length) xs).foldl (add less xs.length) ([], 7)
  mergeAll less threshold (waiting.map (·.run))

end Bookmarks.Sorting
