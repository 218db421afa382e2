import ParamSql.Sorting.Merge

/-!
Sorting by merging runs.

The keys are cut into runs that are sorted already; short ones are filled up by insertion. When all
keys are halved again and again, the boundary between two runs lies at the depth at which their
middles first fall into different parts. Runs are gone through from the left, and two neighbours are
merged once a boundary is met that is less deep than the one between them; the runs that are left in
the end are merged from the right. Keys that are equal keep their order.
-/

namespace ParamSql.Sorting

variable {α : Type}

/-- How many keys go on the run ending in `last`: in a falling run each key comes before the one to
its left, in any other run none does. -/
def runAfter? (less? : α → α → Option Bool) (falling : Bool) (last : α) : List α → Option Nat
  | [] => some 0
  | key :: others => do
    if (← less? key last) == falling then
      let further ← runAfter? less? falling key others
      some (further + 1)
    else some 0

/-- A key put into its place among sorted keys; it goes behind the keys that are equal to it. -/
def insert? (less? : α → α → Option Bool) (sorted : List α) (key : α) : Option (List α) := do
  let place ← countHalving? .front (fun x => (less? key x).map not) sorted
  some (sorted.take place ++ key :: sorted.drop place)

/-- The least length of a run other than the last, for the number of all keys. Fewer than 64 keys
make one run; more are cut into runs of 32 to 64 keys, a power of two of them or slightly fewer. -/
def leastLength (count : Nat) : Nat :=
  if count < 64 then count
  else
    -- The six highest bits of the count, rounded up.
    let unit := Nat.pow 2 (count.log2 - 5)
    (count + unit - 1) / unit

/-- The keys as sorted runs. A falling run is turned round, and a short one is filled up with the
keys behind it. -/
def runs? (less? : α → α → Option Bool) (least : Nat) : List α → Option (List (List α))
  | [] => some []
  | first :: others => do
    let falling ← others.head?.elim (some false) fun second => less? second first
    let further ← runAfter? less? falling first others
    let run := first :: others.take further
    let missing := least - run.length
    let filled ← ((others.drop further).take missing).foldlM (insert? less?)
      (if falling then run.reverse else run)
    let runs ← runs? less? least ((others.drop further).drop missing)
    some (filled :: runs)
termination_by keys => keys.length
decreasing_by
  simp only [List.length_drop, List.length_cons]
  omega

/-- The depth of the boundary between two neighbouring runs of the given lengths, the left one of
which starts at `start`. -/
def boundaryDepth (count start left right : Nat) : Nat :=
  -- Both middles are doubled, so that they are whole.
  let middle := 2 * start + left
  let nextMiddle := middle + left + right
  ((List.range count).find? fun depth =>
    Nat.pow 2 depth * middle / count != Nat.pow 2 depth * nextMiddle / count).getD count

/-- A run that waits to be merged, and the depth of the boundary behind it. -/
structure Waiting (α : Type) where
  keys : List α
  depth : Nat

/-- The last run merged with those of the waiting ones, the nearest first, whose boundary lies
deeper than the given one. -/
def mergeDeeper? (less? : α → α → Option Bool) (depth : Nat) :
    List (Waiting α) → Merged α → Option (List (Waiting α) × Merged α)
  | [], last => some ([], last)
  | run :: waiting, last => do
    if depth < run.depth then
      let merged ← merge? less? last.patience run.keys last.keys
      mergeDeeper? less? depth waiting merged
    else some (run :: waiting, last)

/-- All runs merged, the nearest first; but the two before the last one go first if the further one
of them is shorter than the last one. -/
def mergeAll? (less? : α → α → Option Bool) : List (List α) → Merged α → Option (List α)
  | [], last => some last.keys
  | [run], last => do
    let merged ← merge? less? last.patience run last.keys
    some merged.keys
  | run :: further :: waiting, last => do
    if further.length < last.keys.length then
      let merged ← merge? less? last.patience further run
      mergeAll? less? (merged.keys :: waiting) ⟨last.keys, merged.patience⟩
    else
      let merged ← merge? less? last.patience run last.keys
      mergeAll? less? (further :: waiting) merged
termination_by runs => runs.length

/-- The runs merged from the left, given the last run so far, where it starts, and those that wait
before it, the nearest first. -/
def mergeRuns? (less? : α → α → Option Bool) (count start : Nat) (waiting : List (Waiting α))
    (last : Merged α) : List (List α) → Option (List α)
  | [] => mergeAll? less? (waiting.map Waiting.keys) last
  | next :: runs => do
    let depth := boundaryDepth count start last.keys.length next.length
    let (waiting, merged) ← mergeDeeper? less? depth waiting last
    mergeRuns? less? count (start + last.keys.length) (⟨merged.keys, depth⟩ :: waiting)
      ⟨next, merged.patience⟩ runs

/-- The keys in ascending order; `none` if two that have to be compared cannot be. -/
def sort? (less? : α → α → Option Bool) (keys : List α) : Option (List α) := do
  match ← runs? less? (leastLength keys.length) keys with
  | [] => some []
  | first :: runs => mergeRuns? less? keys.length 0 [] ⟨first, longStretch⟩ runs

end ParamSql.Sorting
