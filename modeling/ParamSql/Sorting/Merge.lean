import ParamSql.Sorting.Search

/-!
Merging two neighbouring sorted runs.

Keys of the left run that come before the right run, and keys of the right run that come behind the
left run, stay where they are. The others are merged from the end at which the shorter run lies.
Keys are compared one by one until one run has given several in a row; then stretches are taken,
found by galloping, for as long as they are long. How many keys in a row it takes is the patience.
It falls with every further round of galloping, rises when galloping ends, and is handed from merge
to merge.

Of keys that are totally ordered any two runs have one merge, and all this only saves comparisons.
Of other keys, where a key ends up hangs on which comparisons are made.
-/

namespace ParamSql.Sorting

variable {α : Type}

/-- Merged keys, and the patience with which the next merge starts. -/
structure Merged (α : Type) where
  keys : List α
  patience : Nat

def Merged.prepend (keys : List α) (merged : Merged α) : Merged α :=
  ⟨keys ++ merged.keys, merged.patience⟩

/-- The length from which on a stretch is long, and the patience of the first merge. -/
def longStretch : Nat := 7

/-- What has been taken last. -/
inductive Pace where
  /-- So many keys in a row of the left run or of the right run. -/
  | stepping (lefts rights : Nat)
  /-- A stretch of the left run, in a round of galloping. -/
  | halfway (lefts : Nat)
  /-- A stretch of either run, in a round of galloping. -/
  | galloped (lefts rights : Nat)
  deriving DecidableEq, Repr

/-- What is taken next. -/
inductive Move where
  /-- The key that comes first, after so many in a row of the left run or of the right run. -/
  | step (lefts rights : Nat)
  /-- A stretch of the left run and a key of the right one. -/
  | leftStretch
  /-- A stretch of the right run and a key of the left one. -/
  | rightStretch (lefts : Nat)
  deriving DecidableEq, Repr

/-- The next move, and the patience from then on. -/
def Pace.next (patience : Nat) : Pace → Move × Nat
  | stepping lefts rights =>
    if patience ≤ max lefts rights then (.leftStretch, patience)
    else (.step lefts rights, patience)
  | halfway lefts => (.rightStretch lefts, patience)
  | galloped lefts rights =>
    if longStretch ≤ max lefts rights then (.leftStretch, max (patience - 1) 1)
    else (.step 0 0, patience + 1)

/-- Whether a key of the right run is taken before one of the left run: from the front if it comes
before that one, from the back if it does not. -/
def rightFirst? (less? : α → α → Option Bool) (side : Side) (left right : α) : Option Bool :=
  (less? right left).map fun before => if side = .front then before else !before

/-- The merge of what is left of two runs, both in the order in which they are gone through. From
the front, a key that is left alone of the left run comes behind what is left of the right run
without being compared; from the back, so does one of the right run. -/
def mergeOn? (less? : α → α → Option Bool) (side : Side) (patience : Nat) (pace : Pace) :
    List α → List α → Option (Merged α)
  | a :: as, b :: bs =>
    if side = .front ∧ as = [] then some ⟨b :: bs ++ [a], patience⟩
    else if side = .back ∧ bs = [] then some ⟨a :: as ++ [b], patience⟩
    else
      match pace.next patience with
      | (.step lefts rights, patience) => do
        if ← rightFirst? less? side a b then
          let rest ← mergeOn? less? side patience (.stepping 0 (rights + 1)) (a :: as) bs
          some (rest.prepend [b])
        else
          let rest ← mergeOn? less? side patience (.stepping (lefts + 1) 0) as (b :: bs)
          some (rest.prepend [a])
      | (.leftStretch, patience) => do
        let lefts ← gallop? side (fun x => (rightFirst? less? side x b).map not) (a :: as)
        let rest ← mergeOn? less? side patience (.halfway lefts) ((a :: as).drop lefts) bs
        some (rest.prepend ((a :: as).take lefts ++ [b]))
      | (.rightStretch lefts, patience) => do
        let rights ← gallop? side (rightFirst? less? side a) (b :: bs)
        let rest ← mergeOn? less? side patience (.galloped lefts rights) as ((b :: bs).drop rights)
        some (rest.prepend ((b :: bs).take rights ++ [a]))
  | left, right => some ⟨left ++ right, patience⟩
termination_by left right => left.length + right.length
decreasing_by
  all_goals simp only [List.length_cons, List.length_drop]; omega

/-- The merge of two runs of which the first key of the right one comes before all keys of the left
one, and the last key of the left one behind all keys of the right one. -/
def mergeOverlap? (less? : α → α → Option Bool) (patience : Nat) (left right : List α) :
    Option (Merged α) :=
  if left.length ≤ right.length then do
    let rest ← mergeOn? less? .front patience (.stepping 0 0) left (right.drop 1)
    some (rest.prepend (right.take 1))
  else do
    let rest ← mergeOn? less? .back patience (.stepping 0 0) (left.reverse.drop 1) right.reverse
    let merged := rest.prepend (left.reverse.take 1)
    some ⟨merged.keys.reverse, merged.patience⟩

def merge? (less? : α → α → Option Bool) (patience : Nat) (left right : List α) :
    Option (Merged α) :=
  match right with
  | [] => some ⟨left, patience⟩
  | first :: _ => do
    let before ← gallop? .front (fun x => (less? first x).map not) left
    match (left.drop before).getLast? with
    | none => some ⟨left ++ right, patience⟩
    | some last =>
      let behind ← gallop? .back (fun x => (less? x last).map not) right.reverse
      let overlap := right.length - behind
      if overlap = 0 then some ⟨left ++ right, patience⟩
      else
        let merged ← mergeOverlap? less? patience (left.drop before) (right.take overlap)
        some ⟨left.take before ++ merged.keys ++ right.drop overlap, merged.patience⟩

end ParamSql.Sorting
