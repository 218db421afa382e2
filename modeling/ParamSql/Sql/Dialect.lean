import ParamSql.Sql

/-!
The texts that belong to the PostgreSQL dialect.
-/

namespace ParamSql.Dialect

def name : String := "postgres"

/-- Tells that `column` is in the comma-separated list that the parameter holds. -/
def inList (column parameter : Sql) : Sql :=
  column ++ "::TEXT = ANY(STRING_TO_ARRAY(" ++ parameter ++ ", ',')::TEXT[])"

/-- The position of `column` in the comma-separated list that the parameter holds. -/
def listPosition (column parameter : Sql) : Sql :=
  "ARRAY_POSITION(STRING_TO_ARRAY(" ++ parameter ++ ", ',')::TEXT[], " ++ column ++ "::TEXT)"

/-- Tells that `column` contains the text that the parameter holds, whatever the case of letters. -/
def contains (column parameter : Sql) : Sql :=
  column ++ " ILIKE '%' || " ++ parameter ++ "::text || '%'"

/-- Tells that two columns are equal as texts. -/
def textEquals (left right : Sql) : Sql :=
  left ++ "::TEXT = " ++ right ++ "::TEXT"

end ParamSql.Dialect
