import ParamSql.Error

/-!
The log: what the library reports while it builds and runs statements.

Bound values are reported only if the configuration asks for them; otherwise a record holds their
number at most.
-/

namespace ParamSql

/-- Options for every statement of a builder. -/
structure Config where
  /-- The columns named in `ON CONFLICT (…) DO NOTHING`; without them the clause is left out. -/
  conflictTarget : Option String := some "id"
  /-- Whether bound values are written to the log. -/
  logValues : Bool := false
  deriving DecidableEq, Repr

inductive Level where
  | debug
  | warning
  | error
  deriving DecidableEq, Repr

/-- The part of the library that reports. -/
inductive Reporter where
  | building
  | clauses
  | facade
  | execution
  deriving DecidableEq, Repr

/-- What a record tells about the bound values. -/
inductive Disclosure where
  | count (n : Nat)
  | values (vs : List Value)
  deriving Repr

def Config.disclose (config : Config) (vs : List Value) : Disclosure :=
  if config.logValues then .values vs else .count vs.length

inductive Note where
  | started (verb : Verb)
  | startedBatch (verb : Verb) (members : Nat)
  | built (verb : Verb) (query : String) (bound : Disclosure)
  | everyRow (verb : Verb) (table : String)
  | unranked (column : String)
  | executing (query : String) (bound : Disclosure)
  | rollingBack
  | rollbackFailed
  deriving Repr

namespace Note

def level : Note → Level
  | everyRow _ _ => .warning
  | rollbackFailed => .error
  | _ => .debug

def reporter : Note → Reporter
  | started _ | startedBatch _ _ | built _ _ _ | everyRow _ _ => .building
  | unranked _ => .clauses
  | executing _ _ => .facade
  | rollingBack | rollbackFailed => .execution

def number (n : Nat) : String :=
  String.ofList (Nat.toDigits 10 n)

def message : Note → String
  | started verb => "Start building '" ++ verb.word ++ "' SQL"
  | startedBatch verb members =>
    "Start building '" ++ verb.word ++ "' SQL for " ++ number members ++ " statements"
  | built verb query (.values vs) =>
    "Ended building '" ++ verb.word ++ "' SQL: " ++ query ++ " " ++ (Value.list vs).shown
  | built verb query (.count n) =>
    "Ended building '" ++ verb.word ++ "' SQL: " ++ query ++ " (" ++ number n ++ " values)"
  | everyRow .delete table =>
    "DELETE on " ++ table ++ " has no WHERE clause; every row will be deleted"
  | everyRow _ table =>
    "UPDATE on " ++ table ++ " has no WHERE clause; every row will be updated"
  | unranked column =>
    "Skipping positional ordering on " ++ column ++ ": no id list given"
  | executing query (.values vs) => "Executing: " ++ query ++ " " ++ (Value.list vs).shown
  | executing query (.count _) => "Executing: " ++ query
  | rollingBack => "Transaction failed, rolling back"
  | rollbackFailed => "ROLLBACK failed; re-raising the original error"

end Note

end ParamSql
