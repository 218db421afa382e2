import ParamSql.Error
import ParamSql.Identifier
import ParamSql.Schema.Check

/-!
Rows: results with their keys in camel case, read into typed models.

A result is one row, a list of rows, or nothing. Keys are converted first, at every depth.
-/

namespace ParamSql

namespace Row

mutual

/-- The value with every key of every mapping in camel case; tuples become lists. -/
def camelKeys : Value → Value
  | .mapping es => .mapping (camelEntries [] es)
  | .list items => .list (camelItems items)
  | .tuple items => .list (camelItems items)
  | v => v

def camelItems : List Value → List Value
  | [] => []
  | v :: rest => camelKeys v :: camelItems rest

/-- Entries with their keys converted, put one by one to those converted before: a key that occurs
again keeps its place and takes the later value. -/
def camelEntries (done : List (Value × Value)) : List (Value × Value) → List (Value × Value)
  | [] => done
  | (k, v) :: rest =>
    camelEntries
      (Value.putEntry (.text (Identifier.camel k.plain)) (camelKeys v) done) rest

end

end Row

structure RowModel (α : Type) where
  name : String
  check : Check α

namespace RowModel

variable {α : Type}

def read (model : RowModel α) (row : Value) : Except Error α :=
  match model.check row with
  | .valid a => .ok a
  | .invalid issues => .error (.invalidRow model.name issues row)

/-- The row that stands for a result: the first of a list, else the result itself. -/
def firstRow : Value → Value
  | .list [] => .null
  | .list (row :: _) => row
  | row => row

/-- The first row of a result with converted keys, read into the model. -/
def first (model : RowModel α) (result : Value) : Except Error α :=
  match firstRow result with
  | .null => .error (.data .noRow)
  | row => model.read row

def rows : Value → List Value
  | .null => []
  | .list items => items
  | row => [row]

/-- Every row of a result with converted keys, read into the model. -/
def all (model : RowModel α) (result : Value) : Except Error (List α) :=
  (rows result).mapM model.read

end RowModel

inductive FieldKind where
  | text
  | optionalText
  | integer
  | flag
  | texts
  deriving DecidableEq, Repr

def FieldKind.check : FieldKind → Check Value
  | text => Check.text.map .text
  | optionalText => (Check.nullable .text).map (fun s => (s.map Value.text).getD .null)
  | integer => Check.integer.map .int
  | flag => Check.flag.map .bool
  | texts => (Check.listOf .text).map fun ss => .list (ss.map .text)

/-- A field of a simple model, with its value for when it is not given. -/
structure Field where
  name : String
  kind : FieldKind
  fallback : Option Value
  deriving Repr

namespace Field

/-- The fields of a mapping, in declaration order; other entries are ignored. -/
def readAll (es : List (Value × Value)) : List Field → Checked (List (String × Value))
  | [] => .valid []
  | field :: rest =>
    let value : Checked Value :=
      match field.fallback with
      | some v => FieldName.optional field.name v field.kind.check es
      | none => FieldName.required field.name field.kind.check es
    List.cons <$> (value.map fun v => (field.name, v)) <*> readAll es rest

def check (fields : List Field) : Check (List (String × Value))
  | .mapping es => readAll es fields
  | _ => .refuse .notSchema

end Field

end ParamSql
