import ParamSql.Identifier
import ParamSql.KeyPath
import ParamSql.Schema.Statement
import ParamSql.Sql.Draft

/-!
What the clauses have in common: specifications that are text, nothing or a mapping, verbatim
queries, comma-separated lists, and the column that an operator stands under.
-/

namespace ParamSql.Clause

/-- The fragments of a specification: none for nothing and for blank text, the text itself, or what
`walk` makes of the entries of a mapping. -/
def ofSpec (clause : ClauseName) (walk : List (Value × Value) → Draft (List Sql))
    (path : KeyPath) (spec : Value) : Draft (List Sql) :=
  match spec.text? with
  | some s => pure (if Text.isBlank s then [] else [.verbatim s])
  | none =>
    match spec with
    | .null | .unset => pure []
    | .mapping es => walk es
    | _ => .fault clause (.unsupported spec) path.keys

/-- A verbatim query: its text, after room for the values that it binds. -/
def rawQuery (clause : ClauseName) (path : KeyPath) (value : Value) : Draft Sql :=
  match value with
  | .text _ | .constant _ => pure (.verbatim value.plain)
  | .mapping _ =>
    match RawQuery.check value with
    | .valid q => do
      let room ← Draft.params q.values
      pure (room ++ Sql.verbatim q.query)
    | .invalid issues => .fault clause (.invalidRaw issues) path.keys
  | _ => .fault clause (.unsupportedRaw value) path.keys

/-- The texts of items with commas between them. -/
def commaJoined (items : List Value) : String :=
  ",".intercalate (items.map Value.plain)

/-- A comma-separated list: a text as it is, or the texts of items with commas between them. -/
def commaList (clause : ClauseName) (path : KeyPath) (key value : Value) : Draft Value :=
  match value with
  | .text _ | .constant _ => pure value
  | .list items | .tuple items => pure (.text (commaJoined items))
  | _ => .fault clause (.expectsList key value) path.keys

/-- The column that the operator at the end of a path applies to: the key above it, which may not be
a keyword. -/
def operand (clause : ClauseName) (isKeyword : String → Bool) (path : KeyPath) (key : Value) :
    Draft String :=
  match path.parent? with
  | some parent =>
    if isKeyword parent then .fault clause (.notUnderColumn key) path.keys
    else pure (Identifier.snake parent)
  | none => .fault clause (.notUnderColumn key) path.keys

end ParamSql.Clause
