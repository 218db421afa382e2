import ParamSql.Clause.Table
import ParamSql.Clause.Where

/-!
Joins: the kind, a table reference, and a condition that may not be blank.
-/

namespace ParamSql.Join

/-- The columns that have to be equal, as a condition. -/
def matching (pairs : List (String × String)) : Sql :=
  Sql.joined " AND " (pairs.map fun p =>
    Dialect.textEquals (.verbatim (Identifier.snake p.1)) (.verbatim (Identifier.snake p.2)))

/-- The condition of a join: the pairs if there are any, else the text or the mapping. -/
def on (join : Join) : Draft Sql :=
  match join.pairs, join.condition with
  | some pairs, _ => pure (matching pairs)
  | none, some (.text s) => pure (.verbatim s)
  | none, some (.mapping es) => Where.condition (Spec.mapping es).toValue
  | none, none => Where.condition .null

def clause (join : Join) : Draft Sql := do
  let table ← Table.reference join.table.toValue
  let condition ← join.on
  if condition.isBlankBy Text.isBlank then .fault .join (.emptyJoin table.text) []
  else
    pure (Sql.verbatim (join.type.text ++ " JOIN ") ++ table ++ " ON " ++ condition)

end ParamSql.Join
