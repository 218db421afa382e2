import ParamSql.Clause.Assignment
import ParamSql.Clause.Join
import ParamSql.Clause.Order
import ParamSql.Sql.Context

/-!
Statements put together from their clauses, alone or as a batch.

A batch shares one parameter list: the placeholders of a member go on where those of the member
before it end. The members are joined by semicolons and have to run inside a transaction.
-/

namespace ParamSql

/-- A compiled statement: its text, the values of its placeholders in order, and whether it is a
batch, to be run inside a transaction. -/
structure Compiled where
  query : String
  values : List Value
  transaction : Bool
  deriving Repr

def nameList (names : List String) : String :=
  ", ".intercalate (names.map Identifier.snake)

def specValue (spec : Option Spec) : Value :=
  optionValue Spec.toValue spec

/-- A keyword and the parameter after it, if a number is given. -/
def counted (keyword : String) : Option Nat → Draft Sql
  | none => pure .empty
  | some n => do
    let parameter ← Draft.param (.int n)
    pure (Sql.verbatim keyword ++ parameter)

def Select.draft (s : Select) : Draft Sql := do
  let columns := s.columns.toList
  if columns.isEmpty then .fault .columns .noColumns []
  else
    let table ← Table.reference s.table.toValue
    let joins ← s.joins.mapM Join.clause
    let condition ← Where.clause (specValue s.condition)
    let order ← Order.clause (optionValue (OneOrMany.toValue Spec.toValue) s.order)
    let limit ← counted "LIMIT " s.limit
    let offset ← counted "OFFSET " s.offset
    let head := [Sql.verbatim ("SELECT " ++ nameList columns), Sql.verbatim "FROM " ++ table]
    pure (Sql.joined " " (Sql.nonEmpty (head ++ joins ++ [condition, order, limit, offset])))

/-- The clause that leaves rows alone that are already there. -/
def onConflict (config : Config) : List Sql :=
  match config.conflictTarget with
  | some target =>
    if target.isEmpty then []
    else [.verbatim ("ON CONFLICT (" ++ target ++ ") DO NOTHING")]
  | none => []

/-- The clause that answers columns of the new rows. -/
def answering : Option (OneOrMany String) → List Sql
  | none | some (.one "") | some (.many []) => []
  | some columns => [.verbatim ("RETURNING " ++ nameList columns.toList)]

def Create.draft (config : Config) (c : Create) : Draft Sql := do
  let values ← Assignment.values (Spec.mapping c.values).toValue
  let head := [Sql.verbatim ("INSERT INTO " ++ Identifier.snake c.table), values]
  pure (Sql.joined " " (head ++ onConflict config ++ answering c.returning))

/-- The WHERE clause of a statement that changes rows; one that would change every row is logged. -/
def restriction (verb : Verb) (table : String) (condition : Option Spec) : Draft Sql := do
  let clause ← Where.clause (specValue condition)
  if clause.isEmpty then
    Draft.log (.everyRow verb table)
    pure clause
  else pure clause

def Update.draft (u : Update) : Draft Sql := do
  let table := Identifier.snake u.table
  let assignments ← Assignment.set (Spec.mapping u.assignments).toValue
  let condition ← restriction .update table u.condition
  pure (Sql.joined " "
    (Sql.nonEmpty [Sql.verbatim ("UPDATE " ++ table), assignments, condition]))

def Delete.draft (d : Delete) : Draft Sql := do
  let table := Identifier.snake d.table
  let condition ← restriction .delete table d.condition
  pure (Sql.joined " " (Sql.nonEmpty [Sql.verbatim ("DELETE FROM " ++ table), condition]))

/-- What a building step logs and gives. -/
structure Outcome (α : Type) where
  notes : List Note
  result : Except Error α

namespace Outcome

def fail {α : Type} (e : Error) : Outcome α := ⟨[], .error e⟩

end Outcome

namespace Compiled

def finish (config : Config) (verb : Verb) (notes : List Note) (compiled : Compiled) :
    Outcome Compiled :=
  ⟨notes ++ [.built verb compiled.query (config.disclose compiled.values)], .ok compiled⟩

/-- A single statement, on a context of its own. -/
def single (config : Config) (verb : Verb) (draft : Draft Sql) : Outcome Compiled :=
  let run := draft.run (.empty false)
  let notes := .started verb :: run.notes
  match run.result with
  | .ok sql =>
    finish config verb notes
      ⟨Text.collapse sql.text, run.context.values, run.context.transaction⟩
  | .error e => ⟨notes, .error e⟩

def texts (drafts : List (Draft Sql)) : Draft (List String) :=
  drafts.mapM fun draft => do
    let sql ← draft
    pure (Text.collapse sql.text)

/-- A batch of statements on one context, of which there has to be one. -/
def batch (config : Config) (verb : Verb) (drafts : List (Draft Sql)) : Outcome Compiled :=
  if drafts.isEmpty then .fail (.clause (.batch verb) .emptyBatch [])
  else
    let run := (texts drafts).run (.empty true)
    let notes := .startedBatch verb drafts.length :: run.notes
    match run.result with
    | .ok texts =>
      finish config verb notes
        ⟨Text.collapse (";".intercalate texts), run.context.values, run.context.transaction⟩
    | .error e => ⟨notes, .error e⟩

end Compiled

end ParamSql
