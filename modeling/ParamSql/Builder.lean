import ParamSql.Statement

/-!
From schemas given as values to compiled statements.

A schema is checked first; for a batch all members are checked before any is compiled, so that a
member with issues wins over one that does not compile.
-/

namespace ParamSql

namespace SchemaName

/-- A value checked against a schema; the issues become an error that holds the value. -/
def parse {α : Type} (self : SchemaName) (check : Check α) (raw : Value) : Except Error α :=
  match check raw with
  | .valid a => .ok a
  | .invalid issues => .error (.invalidSchema self issues raw)

end SchemaName

/-- The members of a batch, each checked, in order. -/
def parseAll {α : Type} (self : SchemaName) (check : Check α) (schemas : Value) :
    Except Error (List α) :=
  match schemas.elements? with
  | some items => items.mapM (self.parse check)
  | none => .error (.misuse (.notIterable schemas))

def buildOne {α : Type} (config : Config) (verb : Verb) (self : SchemaName) (check : Check α)
    (draft : α → Draft Sql) (schema : Value) : Outcome Compiled :=
  match self.parse check schema with
  | .ok a => Compiled.single config verb (draft a)
  | .error e => .fail e

def buildBatch {α : Type} (config : Config) (verb : Verb) (self : SchemaName) (check : Check α)
    (draft : α → Draft Sql) (schemas : Value) : Outcome Compiled :=
  match parseAll self check schemas with
  | .ok as => Compiled.batch config verb (as.map draft)
  | .error e => .fail e

/-- A statement or a batch from schemas given as a value. -/
def build (config : Config) (verb : Verb) (schema : Value) : Outcome Compiled :=
  match verb with
  | .select => buildOne config .select .select Select.check Select.draft schema
  | .create => buildOne config .create .create Create.check (Create.draft config) schema
  | .update => buildOne config .update .update Update.check Update.draft schema
  | .delete => buildOne config .delete .delete Delete.check Delete.draft schema
  | .creates => buildBatch config .creates .create Create.check (Create.draft config) schema
  | .updates => buildBatch config .updates .update Update.check Update.draft schema
  | .deletes => buildBatch config .deletes .delete Delete.check Delete.draft schema

end ParamSql
