import ParamSql.Clause.Registry
import ParamSql.Clause.Spec
import ParamSql.Sql.Dialect

/-!
ORDER BY terms.

A term is a mapping: `by` names a column or holds a mapping, `sort` gives the direction, `in` below
a column ranks its values by a comma-separated list, and every other key is a column. The direction
follows the expression wherever the key `sort` stands. A list of specifications gives one term each.
-/

namespace ParamSql.Order

/-- What an entry of a term means. -/
inductive Rule where
  /-- The expression to order by. -/
  | expression
  /-- The direction of the term. -/
  | direction
  /-- The column above is ranked by a list. -/
  | ranking
  /-- A column, or a mapping below it. -/
  | column
  deriving DecidableEq, Repr

def registry : Registry OrderKeyword Rule :=
  (Registry.new "ORDER BY")
    |>.register .expression .expression
    |>.register .direction .direction
    |>.register .ranking .ranking
    |>.registerFallback .column

def rule (key : String) : Rule :=
  (registry.handler? key).getD .column

/-- The direction that a value names, in any case of its letters. -/
def direction? (value : Value) : Option SortDirection :=
  value.text?.bind fun s => SortDirection.ofText? (String.ofList (Text.upper s.toList))

/-- The fragments of an entry that does not hold a mapping to look into. -/
def operator (path : KeyPath) (name : String) (key value : Value) : Rule → Draft (List Sql)
  | .expression =>
    match value.text? with
    | some s => pure [.verbatim (Identifier.snake s)]
    | none => .fault .orderBy .expectsExpression path.keys
  | .direction =>
    match direction? value with
    | some d => pure [.verbatim d.text]
    | none => .fault .orderBy (.unknownDirection value) path.keys
  | .ranking => do
    let column ← Clause.operand .orderBy registry.isKeyword path key
    match value with
    | .null => do
      Draft.log (.unranked column)
      pure []
    | _ => do
      let list ← Clause.commaList .orderBy path key value
      let parameter ← Draft.param list
      pure [Dialect.listPosition column parameter]
  | .column => pure [.verbatim (Identifier.snake name)]

mutual

/-- The fragments of the entries of a mapping, in key order. -/
def entries (path : KeyPath) : List (Value × Value) → Draft (List Sql)
  | [] => pure []
  | (key, value) :: rest => do
    let here ← entry path key value
    let others ← entries path rest
    pure (here ++ others)

/-- The fragments of one entry; an entry that is `unset` has none. -/
def entry (path : KeyPath) (key value : Value) : Draft (List Sql) :=
  if value.isUnset then pure []
  else
    match key.text? with
    | none => .fault .orderBy (.keyNotText key) path.keys
    | some name =>
      match rule name, value with
      | .expression, .mapping es => entries (path.descend name) es
      | .column, .mapping es => entries (path.descend name) es
      | r, v => operator (path.descend name) name key v r

end

def fragments (path : KeyPath) (spec : Value) : Draft (List Sql) :=
  Clause.ofSpec .orderBy (entries path) path spec

/-- The fragments of a specification with spaces between them. -/
def plainTerm (spec : Value) : Draft Sql := do
  let parts ← fragments .root spec
  pure (Sql.joined " " parts)

def withoutDirection (es : List (Value × Value)) : List (Value × Value) :=
  Value.dropUnset (es.filter fun e => e.1.text? != some OrderKeyword.direction.text)

def givenDirection? (es : List (Value × Value)) : Option Value :=
  (Value.lookupText OrderKeyword.direction.text es).filter fun v => !v.isUnset

/-- One sort term, the direction after the expression. -/
def term (spec : Value) : Draft Sql :=
  match spec with
  | .mapping es =>
    match givenDirection? es with
    | none => plainTerm spec
    | some direction => do
      let rest := withoutDirection es
      if rest.isEmpty then .fault .orderBy .directionAlone []
      else do
        let expression ← entries .root rest
        if expression.isEmpty then pure .empty
        else do
          let last ← entries .root [(.text OrderKeyword.direction.text, direction)]
          pure (Sql.joined " " (expression ++ last))
  | _ => plainTerm spec

def specs : Value → List Value
  | .list items => items
  | spec => [spec]

/-- The clause of a specification; without terms it is empty. -/
def clause (spec : Value) : Draft Sql := do
  let terms ← (specs spec).mapM term
  let body := Sql.joined ", " (Sql.nonEmpty terms)
  pure (if body.isEmpty then .empty else .verbatim "ORDER BY " ++ body)

end ParamSql.Order
