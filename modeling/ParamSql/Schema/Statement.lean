import ParamSql.Schema.Check

/-!
The schemas of statements: their fields, how a value is checked into one, and the record that a
schema is shown as.

Table references and the specifications of conditions and of orders stay open below their first
level: a text or a mapping with text keys, whose meaning the clauses decide.
-/

namespace ParamSql

/-- A specification: SQL text, or a mapping by name. -/
inductive Spec where
  | text (s : String)
  | mapping (entries : List (String × Value))
  deriving Repr

namespace Spec

def toValue : Spec → Value
  | text s => .text s
  | mapping es => .mapping (es.map fun e => (.text e.1, e.2))

def check : Check Spec :=
  .either (Check.text.map text) ((Check.mappingOf .any).map mapping)

end Spec

inductive OneOrMany (α : Type) where
  | one (a : α)
  | many (as : List α)
  deriving DecidableEq, Repr

namespace OneOrMany

variable {α : Type}

def toList : OneOrMany α → List α
  | one a => [a]
  | many as => as

/-- The values as a single value, given how one of them is shown. -/
def toValue (show' : α → Value) : OneOrMany α → Value
  | one a => show' a
  | many as => .list (as.map show')

def check (single : Check α) : Check (OneOrMany α) :=
  .either (single.map one) ((Check.listOf single).map many)

end OneOrMany

/-- An optional value; `null` stands for none. -/
def optionValue {α : Type} (show' : α → Value) : Option α → Value
  | none => .null
  | some a => show' a

/-- Verbatim SQL with the values that its own placeholders bind. -/
structure RawQuery where
  query : String
  values : List Value
  deriving Repr

namespace RawQuery

def check : Check RawQuery :=
  .schema .rawQuery ["query", "values"]
    (fun es =>
      RawQuery.mk <$> FieldName.required "query" .text es
        <*> FieldName.optional "values" [] (.listOf .any) es)
    .valid

def toValue (q : RawQuery) : Value :=
  .record .rawQuery [("query", .text q.query), ("values", .list q.values)]

end RawQuery

/-- A join: a table and either a condition or pairs of columns to match. -/
structure Join where
  type : JoinType
  table : Spec
  condition : Option Spec
  pairs : Option (List (String × String))
  deriving Repr

namespace Join

/-- The kind of a join: the constant itself or whatever counts as its exact text. -/
def typeCheck : Check JoinType := fun v =>
  match Check.text v with
  | .valid s =>
    match JoinType.ofText? s with
    | some t => .valid t
    | none => .refuse .notConstant
  | .invalid _ => .refuse .notConstant

/-- A join has either a condition or pairs, not both and not neither. -/
def rule (join : Join) : Checked Join :=
  if join.condition.isNone == join.pairs.isNone then
    .refuse (.rule "JOIN needs exactly one of 'on' or 'match'.")
  else .valid join

def check : Check Join :=
  .schema .join ["type", "to", "on", "match"]
    (fun es =>
      Join.mk <$> FieldName.optional "type" .inner typeCheck es
        <*> FieldName.required "to" Spec.check es
        <*> FieldName.optional "on" none (.nullable Spec.check) es
        <*> FieldName.optional "match" none (.nullable (.mappingOf .text)) es)
    rule

def toValue (join : Join) : Value :=
  .record .join
    [("type", .constant (.joinType join.type)),
      ("to", join.table.toValue),
      ("on", optionValue Spec.toValue join.condition),
      ("match", optionValue
        (fun pairs => .mapping (pairs.map fun p => (.text p.1, .text p.2))) join.pairs)]

end Join

structure Select where
  columns : OneOrMany String
  table : Spec
  join : Option (OneOrMany Join)
  condition : Option Spec
  order : Option (OneOrMany Spec)
  limit : Option Nat
  offset : Option Nat
  deriving Repr

namespace Select

def joins (s : Select) : List Join :=
  (s.join.map OneOrMany.toList).getD []

def check : Check Select :=
  let table : FieldName := ⟨"from", some "from_"⟩
  .schema .select ["columns", table, "join", "where", "order", "limit", "offset"]
    (fun es =>
      Select.mk <$> FieldName.optional "columns" (.one "*") (OneOrMany.check .text) es
        <*> FieldName.required table Spec.check es
        <*> FieldName.optional "join" none (.nullable (OneOrMany.check Join.check)) es
        <*> FieldName.optional "where" none (.nullable Spec.check) es
        <*> FieldName.optional "order" none (.nullable (OneOrMany.check Spec.check)) es
        <*> FieldName.optional "limit" none (.nullable .natural) es
        <*> FieldName.optional "offset" none (.nullable .natural) es)
    .valid

def toValue (s : Select) : Value :=
  .record .select
    [("columns", s.columns.toValue .text),
      ("from_", s.table.toValue),
      ("join", optionValue (OneOrMany.toValue Join.toValue) s.join),
      ("where", optionValue Spec.toValue s.condition),
      ("order", optionValue (OneOrMany.toValue Spec.toValue) s.order),
      ("limit", optionValue (fun n => .int n) s.limit),
      ("offset", optionValue (fun n => .int n) s.offset)]

end Select

structure Create where
  table : String
  values : List (String × Value)
  returning : Option (OneOrMany String)
  deriving Repr

namespace Create

def check : Check Create :=
  .schema .create ["into", "values", "returning"]
    (fun es =>
      Create.mk <$> FieldName.required "into" .text es
        <*> FieldName.optional "values" [] (.mappingOf .any) es
        <*> FieldName.optional "returning" none (.nullable (OneOrMany.check .text)) es)
    .valid

def toValue (c : Create) : Value :=
  .record .create
    [("into", .text c.table),
      ("values", (Spec.mapping c.values).toValue),
      ("returning", optionValue (OneOrMany.toValue .text) c.returning)]

end Create

structure Update where
  table : String
  assignments : List (String × Value)
  condition : Option Spec
  deriving Repr

namespace Update

def check : Check Update :=
  .schema .update ["on", "set", "where"]
    (fun es =>
      Update.mk <$> FieldName.required "on" .text es
        <*> FieldName.required "set" (.mappingOf .any) es
        <*> FieldName.optional "where" none (.nullable Spec.check) es)
    .valid

def toValue (u : Update) : Value :=
  .record .update
    [("on", .text u.table),
      ("set", (Spec.mapping u.assignments).toValue),
      ("where", optionValue Spec.toValue u.condition)]

end Update

structure Delete where
  table : String
  condition : Option Spec
  deriving Repr

namespace Delete

def check : Check Delete :=
  let table : FieldName := ⟨"from", some "from_"⟩
  .schema .delete [table, "where"]
    (fun es =>
      Delete.mk <$> FieldName.required table .text es
        <*> FieldName.optional "where" none (.nullable Spec.check) es)
    .valid

def toValue (d : Delete) : Value :=
  .record .delete
    [("from_", .text d.table), ("where", optionValue Spec.toValue d.condition)]

end Delete

namespace SchemaName

def check : SchemaName → Check Value
  | rawQuery => RawQuery.check.map RawQuery.toValue
  | join => Join.check.map Join.toValue
  | select => Select.check.map Select.toValue
  | create => Create.check.map Create.toValue
  | update => Update.check.map Update.toValue
  | delete => Delete.check.map Delete.toValue

end SchemaName

end ParamSql
