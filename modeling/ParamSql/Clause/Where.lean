import ParamSql.Clause.Registry
import ParamSql.Clause.Spec
import ParamSql.Sql.Dialect

/-!
WHERE conditions.

A condition is a mapping from columns to values, joined by `AND`. The keys `and` and `or` hold a
nested mapping whose conditions form a group in parentheses; `in`, `isNull`, `ilike` and `raw` stand
below a column and apply to it. A column that holds a mapping adds the conditions of that mapping
to those around it.
-/

namespace ParamSql.Where

/-- What an entry of a condition means. -/
inductive Rule where
  /-- A group of conditions, with the word between them. -/
  | group (joiner : String)
  /-- The column above is in a comma-separated list. -/
  | membership
  /-- The column above is null, or is not. -/
  | nullTest
  /-- The column above contains a term. -/
  | substring
  /-- The column above equals a verbatim query. -/
  | verbatim
  /-- A column that equals a value, or a mapping of conditions on it. -/
  | column
  deriving DecidableEq, Repr

def registry : Registry WhereKeyword Rule :=
  (Registry.new "WHERE")
    |>.register .conjunction (.group " AND ")
    |>.register .disjunction (.group " OR ")
    |>.register .membership .membership
    |>.register .nullTest .nullTest
    |>.register .substring .substring
    |>.register .verbatim .verbatim
    |>.registerFallback .column

def rule (key : String) : Rule :=
  (registry.handler? key).getD .column

def operand (path : KeyPath) (key : Value) : Draft String :=
  Clause.operand .where registry.isKeyword path key

/-- The condition of an operator that does not look into nested mappings. -/
def operator (path : KeyPath) (name : String) (key value : Value) : Rule → Draft Sql
  | .membership => do
    let column ← operand path key
    let list ← Clause.commaList .where path key value
    let parameter ← Draft.param list
    pure (Dialect.inList column parameter)
  | .nullTest => do
    let column ← operand path key
    match value with
    | .bool false => pure (.verbatim (column ++ " IS NOT NULL"))
    | _ => pure (.verbatim (column ++ " IS NULL"))
  | .substring => do
    let column ← operand path key
    match value with
    | .mapping _ | .list _ | .tuple _ => .fault .where .expectsTerm path.keys
    | _ => do
      let parameter ← Draft.param value
      pure (Dialect.contains column parameter)
  | .verbatim => do
    let column ← operand path key
    let query ← Clause.rawQuery .where path value
    pure (.verbatim (column ++ " = (") ++ query ++ ")")
  | .group _ => .fault .where (.expectsMapping key) path.keys
  | .column => do
    let parameter ← Draft.param value
    pure (.verbatim (Identifier.snake name ++ " = ") ++ parameter)

/-- A group of conditions; a group without any is left out. -/
def grouped (joiner : String) (fragments : List Sql) : List Sql :=
  if fragments.isEmpty then [] else [Sql.verbatim "(" ++ Sql.joined joiner fragments ++ ")"]

mutual

/-- The conditions of the entries of a mapping, in key order. -/
def entries (path : KeyPath) : List (Value × Value) → Draft (List Sql)
  | [] => pure []
  | (key, value) :: rest => do
    let here ← entry path key value
    let others ← entries path rest
    pure (here ++ others)

/-- The conditions of one entry; an entry that is `unset` has none. -/
def entry (path : KeyPath) (key value : Value) : Draft (List Sql) :=
  if value.isUnset then pure []
  else
    match key.text? with
    | none => .fault .where (.keyNotText key) path.keys
    | some name =>
      match rule name, value with
      | .group joiner, .mapping es => do
        let fragments ← entries (path.descend name) es
        pure (grouped joiner fragments)
      | .column, .mapping es => entries (path.descend name) es
      | r, v => do
        let fragment ← operator (path.descend name) name key v r
        pure [fragment]

end

def fragments (path : KeyPath) (spec : Value) : Draft (List Sql) :=
  Clause.ofSpec .where (entries path) path spec

/-- The conditions of a specification joined by `AND`. -/
def condition (spec : Value) : Draft Sql := do
  let conditions ← fragments .root spec
  pure (Sql.joined " AND " conditions)

/-- The clause of a specification; without conditions it is empty. -/
def clause (spec : Value) : Draft Sql := do
  let text ← condition spec
  pure (if text.isEmpty then .empty else .verbatim "WHERE " ++ text)

end ParamSql.Where
