import ParamSql.Clause.Spec
import ParamSql.Value.KeyOrder

/-!
Table references: a name, an alias of a name, or a verbatim query with an optional alias.
-/

namespace ParamSql.Table

/-- A value used as a name. -/
def nameOf (value : Value) : Draft String :=
  match value.text? with
  | some s => pure (Identifier.snake s)
  | none => .fail (.misuse (.notName value))

/-- Keys in ascending order, for a message. -/
def sortedKeys (keys : List Value) : Draft (List Value) :=
  match Value.sortKeys? keys with
  | some sorted => pure sorted
  | none => .fail (.misuse .unsortableKeys)

def rawKey : String := "raw"

def aliasKey : String := "as"

/-- Whether a key has no meaning beside a verbatim query. -/
def isUnexpected (key : Value) : Bool :=
  match key.text? with
  | some s => s != rawKey && s != aliasKey
  | none => true

/-- A verbatim query as a table, with its alias if there is one. -/
def verbatim (query : Value) (es : List (Value × Value)) : Draft Sql := do
  let unexpected := (es.map Prod.fst).filter isUnexpected
  if unexpected.isEmpty then
    let sql ← Clause.rawQuery .from .root query
    let name := (Value.lookupText aliasKey es).getD .null
    if name.isTrue then
      let name ← nameOf name
      pure (Sql.verbatim "(" ++ sql ++ ") AS " ++ Sql.verbatim name)
    else pure (Sql.verbatim "(" ++ sql ++ ")")
  else
    let keys ← sortedKeys unexpected
    .fault .from (.rawKeys keys) []

def aliased (name table : Value) : Draft Sql :=
  match table.text? with
  | some s => do
    let name ← nameOf name
    pure (.verbatim (Identifier.snake s ++ " AS " ++ name))
  | none => .fault .from (.aliasTarget name) []

def reference (spec : Value) : Draft Sql :=
  match spec.text? with
  | some s =>
    if Text.isBlank s then .fault .from .blankTable []
    else pure (.verbatim (Identifier.snake s))
  | none =>
    match spec with
    | .mapping es =>
      match Value.lookupText rawKey es, es with
      | some query, _ => verbatim query es
      | none, [(name, table)] => aliased name table
      | none, _ => do
        let keys ← sortedKeys (es.map Prod.fst)
        .fault .from (.aliasCount keys) []
    | _ => .fault .from (.unsupportedTable spec) []

end ParamSql.Table
