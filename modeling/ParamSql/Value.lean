import ParamSql.Constant
import ParamSql.Decimal.Binary64

/-!
The values that specifications hold and statements bind.

`null` is a value like any other and binds as SQL `NULL`; `unset` says that no value was given. A
mapping is a list of entries in key order, and its keys may be any values. A `record` is a schema
instance: the fields of a checked schema in declaration order.
-/

namespace ParamSql

/-- The schemas that a record can be an instance of. -/
inductive SchemaName where
  | rawQuery
  | join
  | select
  | create
  | update
  | delete
  deriving DecidableEq, Repr

namespace SchemaName

def all : List SchemaName :=
  [rawQuery, join, select, create, update, delete]

def title : SchemaName → String
  | rawQuery => "RawQuery"
  | join => "JoinClause"
  | select => "SelectSchema"
  | create => "CreateSchema"
  | update => "UpdateSchema"
  | delete => "DeleteSchema"

def ofTitle? (s : String) : Option SchemaName :=
  all.find? fun n => n.title == s

end SchemaName

inductive Value where
  | null
  | unset
  | bool (b : Bool)
  | int (n : Int)
  | float (x : Binary64)
  | text (s : String)
  | bytes (bs : List UInt8)
  | constant (c : Constant)
  | list (items : List Value)
  | tuple (items : List Value)
  | mapping (entries : List (Value × Value))
  | record (schema : SchemaName) (fields : List (String × Value))
  deriving Repr, Inhabited

namespace Value

/-- The text a value counts as: a text is itself, a constant is its text. -/
def text? : Value → Option String
  | text s => some s
  | constant c => some c.text
  | _ => none

def isUnset : Value → Bool
  | unset => true
  | _ => false

def isNull : Value → Bool
  | null => true
  | _ => false

/-- Whether the value counts as true: nothing empty, zero, `null` or `unset` does. -/
def isTrue : Value → Bool
  | null | unset => false
  | bool b => b
  | int n => n != 0
  | float x => !x.isZero
  | text s => !s.isEmpty
  | bytes bs => !bs.isEmpty
  | constant c => !c.text.isEmpty
  | list items | tuple items => !items.isEmpty
  | mapping entries => !entries.isEmpty
  | record _ _ => true

def typeName : Value → String
  | null => "NoneType"
  | unset => "_Unset"
  | bool _ => "bool"
  | int _ => "int"
  | float _ => "float"
  | text _ => "str"
  | bytes _ => "bytes"
  | constant c => c.family
  | list _ => "list"
  | tuple _ => "tuple"
  | mapping _ => "dict"
  | record schema _ => schema.title

def namedFields (fields : List (String × Value)) : List Value :=
  fields.map fun f => tuple [text f.1, f.2]

/-- The values met when a value is walked through, if it can be: the items of a list or a tuple, the
characters of a text, the numbers of a byte string, the keys of a mapping, the fields of a record.
-/
def elements? : Value → Option (List Value)
  | list items | tuple items => some items
  | text s => some (s.toList.map fun c => text c.toString)
  | constant k => some (k.text.toList.map fun c => text c.toString)
  | bytes bs => some (bs.map fun b => int b.toNat)
  | mapping entries => some (entries.map Prod.fst)
  | record _ fields => some (namedFields fields)
  | _ => none

/-- The entries whose value is given, order preserved. -/
def dropUnset {α : Type} (entries : List (α × Value)) : List (α × Value) :=
  entries.filter fun e => !e.2.isUnset

end Value

end ParamSql
