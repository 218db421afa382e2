import ParamSql.Clause.Table

/-!
The values of an INSERT and the assignments of an UPDATE, both from a mapping of columns to values.
Entries that are `unset` take no part.
-/

namespace ParamSql.Assignment

/-- The entries of a mapping that are given. -/
def given (values : Value) : Draft (List (Value × Value)) :=
  match values with
  | .mapping es => pure (Value.dropUnset es)
  | _ => .fail (.misuse (.notEntries values))

def assignment (e : Value × Value) : Draft Sql := do
  let column ← Table.nameOf e.1
  let parameter ← Draft.param e.2
  pure (Sql.verbatim (column ++ " = ") ++ parameter)

/-- The columns and the parameters of an INSERT. -/
def values (mapping : Value) : Draft Sql := do
  let es ← given mapping
  if es.isEmpty then pure (.verbatim "DEFAULT VALUES")
  else
    let columns ← es.mapM fun e => Table.nameOf e.1
    let parameters ← es.mapM fun e => Draft.param e.2
    pure (Sql.verbatim ("(" ++ ", ".intercalate columns ++ ") VALUES (") ++
      Sql.joined ", " parameters ++ ")")

/-- The assignments of an UPDATE, of which there has to be one. -/
def set (mapping : Value) : Draft Sql := do
  let es ← given mapping
  if es.isEmpty then .fault .set .noAssignments []
  else
    let assignments ← es.mapM assignment
    pure (Sql.verbatim "SET " ++ Sql.joined ", " assignments)

end ParamSql.Assignment
