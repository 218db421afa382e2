import ParamSql.Schema.Issue

/-!
The errors of the library, each with its cause.

`ClauseFault` says what a clause cannot compile, `Misuse` which operation a value does not support,
`Error` sums all of them up. The wording of every error stands here and nowhere else.
-/

namespace ParamSql

/-- The statements that can be built, one by one or as a batch. -/
inductive Verb where
  | select
  | create
  | update
  | delete
  | creates
  | updates
  | deletes
  deriving DecidableEq, Repr

def Verb.word : Verb → String
  | .select => "select"
  | .create => "create"
  | .update => "update"
  | .delete => "delete"
  | .creates => "creates"
  | .updates => "updates"
  | .deletes => "deletes"

/-- The parts of a statement in which a specification can be at fault. -/
inductive ClauseName where
  | where
  | orderBy
  | from
  | join
  | values
  | set
  | columns
  | batch (verb : Verb)
  deriving DecidableEq, Repr

def ClauseName.title : ClauseName → String
  | .where => "WHERE"
  | .orderBy => "ORDER BY"
  | .from => "FROM"
  | .join => "JOIN"
  | .values => "VALUES"
  | .set => "SET"
  | .columns => "SELECT"
  | .batch verb => verb.word

/-- What is wrong with a specification. -/
inductive ClauseFault where
  | unsupported (spec : Value)
  | keyNotText (key : Value)
  | notUnderColumn (key : Value)
  | expectsMapping (key : Value)
  | expectsList (key value : Value)
  | expectsTerm
  | expectsExpression
  | unknownDirection (value : Value)
  | directionAlone
  | blankTable
  | aliasCount (sortedKeys : List Value)
  | aliasTarget (name : Value)
  | rawKeys (sortedKeys : List Value)
  | unsupportedTable (spec : Value)
  | unsupportedRaw (value : Value)
  | invalidRaw (issues : List Issue)
  | emptyJoin (table : String)
  | noAssignments
  | noColumns
  | emptyBatch
  deriving Repr

def ClauseFault.message (clause : ClauseName) : ClauseFault → String
  | unsupported spec =>
    "Unsupported " ++ clause.title ++ " specification of type " ++ spec.typeName ++ "."
  | keyNotText key => clause.title ++ " keys must be strings, got " ++ key.shown ++ "."
  | notUnderColumn key => "'" ++ key.plain ++ "' must be nested under a column name."
  | expectsMapping key => "'" ++ key.plain ++ "' expects a mapping."
  | expectsList key value =>
    "'" ++ key.plain ++ "' expects a comma-separated string or a list, got " ++
      value.typeName ++ "."
  | expectsTerm => "'ilike' expects a search term."
  | expectsExpression => "'by' expects a column name or a mapping."
  | unknownDirection value =>
    "Unknown sort direction " ++ value.shown ++ "; expected one of " ++
      (Value.list (SortDirection.all.map fun d => .text d.text)).shown ++ "."
  | directionAlone => "'sort' needs a column to order by."
  | blankTable => "Table name must not be empty."
  | aliasCount keys =>
    "Aliased table reference needs exactly one key, got " ++ (Value.list keys).shown ++ "."
  | aliasTarget name => "Table for alias '" ++ name.plain ++ "' must be a string."
  | rawKeys keys =>
    "Unexpected keys in raw table reference: " ++ (Value.list keys).shown ++ "."
  | unsupportedTable spec => "Unsupported table reference of type " ++ spec.typeName ++ "."
  | unsupportedRaw value =>
    "Raw query must be a string or mapping, got " ++ value.typeName ++ "."
  | invalidRaw _ => "Invalid raw query"
  | emptyJoin table => "JOIN to " ++ table ++ " has an empty condition."
  | noAssignments => "UPDATE needs at least one SET assignment."
  | noColumns => "SELECT needs at least one column."
  | emptyBatch => "'" ++ clause.title ++ "' needs at least one statement."

/-- An operation on a value that does not support it. -/
inductive Misuse where
  | notName (value : Value)
  | notEntries (value : Value)
  | notIterable (value : Value)
  | unsortableKeys
  deriving Repr

/-- Ways of using the library that it refuses. -/
inductive Usage where
  | noExecutor
  | executorBlocks
  | executorAwaits
  deriving DecidableEq, Repr

def Usage.message : Usage → String
  | noExecutor => "No query executor configured; use to_raw() or pass one to with_sql()."
  | executorBlocks => "Executor.query is synchronous; use execute() instead of execute_async()."
  | executorAwaits =>
    "Executor.query is a coroutine function; use execute_async() instead of execute()."

/-- An error that reports data: a message and an optional code. -/
structure DataError where
  message : Value
  code : Option ErrorCode
  deriving Repr

namespace DataError

def text (e : DataError) : String := e.message.plain

def noRow : DataError := ⟨.text "Entity could not be found", some .notFound⟩

/-- Why a data error cannot be made from a mapping. -/
inductive Malformed where
  | noMessage
  | unknownCode (code : Value)
  deriving Repr

/-- A data error from a message, or from a mapping with a message and perhaps a code that wins over
the given one. -/
def ofData (data : Value) (code : Option ErrorCode) : Except Malformed DataError :=
  match data with
  | .mapping es =>
    match Value.lookupText "message" es with
    | none => .error .noMessage
    | some message =>
      let own := (Value.lookupText "code" es).getD .null
      if own.isTrue then
        match own.text?.bind ErrorCode.ofText? with
        | some c => .ok ⟨message, some c⟩
        | none => .error (.unknownCode own)
      else .ok ⟨message, code⟩
  | message => .ok ⟨message, code⟩

end DataError

inductive Error where
  | invalidSchema (schema : SchemaName) (issues : List Issue) (raw : Value)
  | invalidRow (model : String) (issues : List Issue) (raw : Value)
  | clause (name : ClauseName) (fault : ClauseFault) (path : List String)
  | misuse (cause : Misuse)
  | usage (cause : Usage)
  | data (cause : DataError)
  deriving Repr

/-- The wording of an error; a misuse has none of its own. -/
def Error.message : Error → String
  | invalidSchema schema _ _ => schema.title ++ " structure is invalid"
  | invalidRow model _ _ => "Row does not match " ++ model
  | clause name fault _ => fault.message name
  | misuse _ => ""
  | usage cause => cause.message
  | data cause => cause.text

end ParamSql
