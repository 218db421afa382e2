import ParamSql.Value.Shown
import ParamSql.Value.Key

/-!
What a schema check finds: each issue has a kind and a place.

A place is the way from the checked value down to the offending one, through keys and positions.
-/

namespace ParamSql

/-- One step of the way to an offending value. -/
inductive Step where
  | key (name : String)
  | index (position : Int)
  deriving DecidableEq, Repr

inductive IssueKind where
  | missing
  | unknownField
  | keyNotText
  | notText
  | notUtf8
  | notInteger
  | malformedInteger
  | integerTooLong
  | fractionalInteger
  | notFinite
  | negative
  | notFlag
  | malformedFlag
  | notList
  | notMapping
  | notConstant
  | notSchema
  | rule (message : String)
  deriving DecidableEq, Repr

namespace IssueKind

def code : IssueKind → String
  | missing => "missing"
  | unknownField => "extra_forbidden"
  | keyNotText => "invalid_key"
  | notText => "string_type"
  | notUtf8 => "string_unicode"
  | notInteger => "int_type"
  | malformedInteger => "int_parsing"
  | integerTooLong => "int_parsing_size"
  | fractionalInteger => "int_from_float"
  | notFinite => "finite_number"
  | negative => "greater_than_equal"
  | notFlag => "bool_type"
  | malformedFlag => "bool_parsing"
  | notList => "list_type"
  | notMapping => "dict_type"
  | notConstant => "enum"
  | notSchema => "model_type"
  | rule _ => "value_error"

/-- The message that comes with an issue, for the rules that a schema states itself. -/
def message? : IssueKind → Option String
  | rule message => some ("Value error, " ++ message)
  | _ => none

end IssueKind

structure Issue where
  place : List Step
  kind : IssueKind
  deriving DecidableEq, Repr

namespace Issue

/-- An issue of the checked value itself. -/
def here (kind : IssueKind) : Issue := ⟨[], kind⟩

def under (step : Step) (issue : Issue) : Issue :=
  { issue with place := step :: issue.place }

end Issue

/-- The step through a key: texts by their characters, small integers as positions, everything else
by its shown form. -/
def Step.ofKey (key : Value) : Step :=
  match key.text? with
  | some s => .key s
  | none =>
    match key with
    | .bool b => .index (if b then 1 else 0)
    | .int n => if Binary64.fitsWord n then .index n else .key key.shown
    | _ => .key key.shown

end ParamSql
