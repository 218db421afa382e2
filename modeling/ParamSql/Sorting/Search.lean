/-!
Counting the keys at the start of a list that pass a test.

The test is meant to hold of a stretch at the start and of nothing behind it. The end of the stretch
is found by halving the list, or by galloping: the keys that are tried lie twice as far apart each
time, and only the keys between the last two are halved. Where the test holds of keys here and
there, the answers for the keys that are tried settle the count. The test may fail, and then there
is none.
-/

namespace ParamSql.Sorting

/-- The end from which keys are gone through; from the back they are given in reverse. -/
inductive Side where
  | front
  | back
  deriving DecidableEq, Repr

/-- The place of the middle one of so many keys; of two in the middle it is the one that lies
further to the back. -/
def Side.middle (side : Side) (count : Nat) : Nat :=
  match side with
  | .front => count / 2
  | .back => (count - 1) / 2

variable {α : Type}

theorem length_of_drop {keys others : List α} {key : α} {n : Nat}
    (h : keys.drop n = key :: others) : n + others.length + 1 = keys.length := by
  have hl := congrArg List.length h
  simp only [List.length_drop, List.length_cons] at hl
  omega

/-- How many keys pass, found by halving. -/
def countHalving? (side : Side) (passes? : α → Option Bool) (keys : List α) : Option Nat :=
  match h : keys.drop (side.middle keys.length) with
  | [] => some 0
  | key :: others => do
    have := length_of_drop h
    if ← passes? key then
      let further ← countHalving? side passes? others
      some (side.middle keys.length + 1 + further)
    else countHalving? side passes? (keys.take (side.middle keys.length))
termination_by keys.length
decreasing_by
  · omega
  · rw [List.length_take]
    omega

/-- How many keys pass behind those that have passed, found by galloping: the next key that is tried
lies as many keys further on as have passed. -/
def countGalloping? (side : Side) (passes? : α → Option Bool) (passed : Nat) (keys : List α) :
    Option Nat :=
  let stretch := max passed 1
  match h : keys.drop (stretch - 1) with
  | [] => countHalving? side passes? keys
  | key :: others => do
    have := length_of_drop h
    if ← passes? key then
      let further ← countGalloping? side passes? (passed + stretch) others
      some (stretch + further)
    else countHalving? side passes? (keys.take (stretch - 1))
termination_by keys.length
decreasing_by omega

def gallop? (side : Side) (passes? : α → Option Bool) (keys : List α) : Option Nat :=
  countGalloping? side passes? 0 keys

end ParamSql.Sorting
