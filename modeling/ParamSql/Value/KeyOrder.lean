import ParamSql.Value.Key
import ParamSql.Sorting.Run

/-!
The order of keys.

Texts and bytes are ordered by their characters, numbers and truth values by their numeric value,
tuples by the first items that differ; other keys, and keys of different kinds, cannot be compared.
-/

namespace ParamSql

namespace Value

def compareBytes : List UInt8 → List UInt8 → Ordering
  | [], [] => .eq
  | [], _ => .lt
  | _, [] => .gt
  | a :: as, b :: bs =>
    match compare a.toNat b.toNat with
    | .eq => compareBytes as bs
    | o => o

mutual

/-- Whether the first key comes before the second; `none` if the two cannot be compared. -/
def precedes? : Value → Value → Option Bool
  | bytes a, bytes b => some (compareBytes a b == .lt)
  | tuple a, tuple b => precedesItems? a b
  | a, b =>
    match a.text?, b.text? with
    | some s, some t => some (decide (s < t))
    | none, none =>
      match a.numeric?, b.numeric? with
      | some m, some n => some (m.compare? n == some .lt)
      | _, _ => none
    | _, _ => none

/-- The order of tuples is decided by the first items that differ. -/
def precedesItems? : List Value → List Value → Option Bool
  | [], [] => some false
  | [], _ :: _ => some true
  | _ :: _, [] => some false
  | a :: as, b :: bs => if sameKey a b then precedesItems? as bs else precedes? a b

end

/-- Keys in ascending order; `none` if two of them cannot be compared. What is no number compares as
neither smaller nor greater, so that where such a key ends up hangs on the keys around it. -/
def sortKeys? (keys : List Value) : Option (List Value) := Sorting.sort? precedes? keys

end Value

end ParamSql
