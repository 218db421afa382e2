import ParamSql.Value
import ParamSql.Decimal.Binary64

/-!
Keys of mappings: when two keys are the same key, and how a mapping is built from pairs.

Texts are compared by their characters and a constant counts as its text; truth values, integers
and floating-point numbers are compared by their exact numeric value. A key that is given again
keeps its first position and form and takes the last value.
-/

namespace ParamSql

/-- A numeric value: a multiple of a power of two, an infinity, or no number. -/
inductive Numeric where
  | nan
  | below
  | above
  | scaled (n : Int) (exponent : Int)
  deriving DecidableEq, Repr

namespace Numeric

def ofBinary64 (x : Binary64) : Numeric :=
  match x.reading with
  | .nan => .nan
  | .infinite negative => if negative then .below else .above
  | .finite negative m e => .scaled (Binary64.signed negative m) e

def compare? : Numeric → Numeric → Option Ordering
  | .nan, _ | _, .nan => none
  | .below, .below | .above, .above => some .eq
  | .below, _ | _, .above => some .lt
  | _, .below | .above, _ => some .gt
  | .scaled m e, .scaled n f =>
    let left : Nat := Nat.pow 2 (e - f).toNat
    let right : Nat := Nat.pow 2 (f - e).toNat
    some (compare (m * (left : Int)) (n * (right : Int)))

end Numeric

namespace Value

def numeric? : Value → Option Numeric
  | bool b => some (.scaled (if b then 1 else 0) 0)
  | int n => some (.scaled n 0)
  | float x => some (.ofBinary64 x)
  | _ => none

mutual

/-- Whether two values are the same key. -/
def sameKey : Value → Value → Bool
  | null, null => true
  | unset, unset => true
  | bytes a, bytes b => a == b
  | tuple a, tuple b => sameKeys a b
  | a, b =>
    match a.text?, b.text? with
    | some s, some t => s == t
    | _, _ =>
      match a.numeric?, b.numeric? with
      | some m, some n => m.compare? n == some .eq
      | _, _ => false

def sameKeys : List Value → List Value → Bool
  | [], [] => true
  | a :: as, b :: bs => sameKey a b && sameKeys as bs
  | _, _ => false

end

mutual

/-- The kind of the first value that cannot be a key at all: lists, mappings and records, also
inside a tuple. -/
def unfitForKey? : Value → Option String
  | list _ => some "list"
  | mapping _ => some "dict"
  | record schema _ => some schema.title
  | tuple items => unfitItem? items
  | _ => none

def unfitItem? : List Value → Option String
  | [] => none
  | item :: rest => (unfitForKey? item).orElse fun _ => unfitItem? rest

end

def lookupText (name : String) : List (Value × Value) → Option Value
  | [] => none
  | (k, v) :: rest => if k.text? == some name then some v else lookupText name rest

/-- Entries with one more: a key that is already there keeps its place and its form. -/
def putEntry (key value : Value) : List (Value × Value) → List (Value × Value)
  | [] => [(key, value)]
  | (k, v) :: rest =>
    if sameKey k key then (k, value) :: rest else (k, v) :: putEntry key value rest

def ofPairs (pairs : List (Value × Value)) : Value :=
  mapping (pairs.foldl (fun entries p => putEntry p.1 p.2 entries) [])

/-- Entries by name with one more: a name that is already there keeps its place. -/
def putNamed {α : Type} (name : String) (value : α) : List (String × α) → List (String × α)
  | [] => [(name, value)]
  | (n, v) :: rest => if n == name then (n, value) :: rest else (n, v) :: putNamed name value rest

end Value

end ParamSql
