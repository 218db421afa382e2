import ParamSql.Builder
import ParamSql.Execution.Transaction

/-!
Sessions: a builder bound to an executor, and the statements it has built.

A statement is built under a name. From then on it can be run any number of times, by the way of
running that its executor supports, and read without running anything. Only running makes calls.
-/

namespace ParamSql

/-- The two ways of running a statement. -/
inductive Mode where
  | blocking
  | awaiting
  deriving DecidableEq, Repr

/-- A builder: the executor its statements run on, if there is one, and its configuration. -/
structure Session (σ : Type) where
  executor : Option (Executor σ)
  config : Config

namespace Session

/-- What is asked of a session. -/
inductive Request where
  | build (name : String) (verb : Verb) (schema : Value)
  | read (name : String)
  | execute (name : String) (mode : Mode)
  deriving Repr

/-- What a session answers. -/
inductive Response where
  | built (compiled : Compiled)
  | rejected (error : Error)
  | shows (compiled : Compiled)
  | refused (cause : Usage)
  | ended (ending : Ending Value)
  | unknownName
  deriving Repr

/-- A session under way: the state of the executor and the statements by name, latest first. -/
structure State (σ : Type) where
  executor : σ
  statements : List (String × Compiled)

/-- An answered request: the calls it made, the records it logged and the state it left. -/
structure Exchange (σ : Type) where
  response : Response
  calls : List Call
  notes : List Note
  state : State σ

variable {σ : Type}

namespace State

def start (executor : σ) : State σ := ⟨executor, []⟩

def keep (name : String) (compiled : Compiled) (state : State σ) : State σ :=
  { state with statements := (name, compiled) :: state.statements }

/-- The statement built last under a name. -/
def statement? (name : String) (state : State σ) : Option Compiled :=
  state.statements.lookup name

end State

/-- The executor, if it can be used in the given way. -/
def executorFor (session : Session σ) (mode : Mode) : Except Usage (Executor σ) :=
  match session.executor, mode with
  | none, _ => .error .noExecutor
  | some executor, .blocking =>
    if executor.awaited then .error .executorAwaits else .ok executor
  | some executor, .awaiting =>
    if executor.awaited then .ok executor else .error .executorBlocks

def body (compiled : Compiled) : Call :=
  ⟨compiled.query, some (.list compiled.values)⟩

/-- The answer to a request that makes no call. -/
def quietly (response : Response) (notes : List Note) (state : State σ) : Exchange σ :=
  ⟨response, [], notes, state⟩

/-- A statement built under a name; one that is rejected leaves the name as it was. -/
def build (session : Session σ) (name : String) (verb : Verb) (schema : Value)
    (state : State σ) : Exchange σ :=
  let outcome := ParamSql.build session.config verb schema
  match outcome.result with
  | .ok compiled => quietly (.built compiled) outcome.notes (state.keep name compiled)
  | .error e => quietly (.rejected e) outcome.notes state

/-- A compiled statement run in the given way; the attempt is logged before it is refused. -/
def execute (session : Session σ) (mode : Mode) (compiled : Compiled)
    (state : State σ) : Exchange σ :=
  let attempt := Note.executing compiled.query (session.config.disclose compiled.values)
  match session.executorFor mode with
  | .error cause => quietly (.refused cause) [attempt] state
  | .ok executor =>
    let run := Transaction.execute executor (body compiled) compiled.transaction state.executor
    ⟨.ended run.ending, run.calls, attempt :: run.notes, { state with executor := run.state }⟩

def answer (session : Session σ) (state : State σ) : Request → Exchange σ
  | .build name verb schema => session.build name verb schema state
  | .read name =>
    match state.statement? name with
    | some compiled => quietly (.shows compiled) [] state
    | none => quietly .unknownName [] state
  | .execute name mode =>
    match state.statement? name with
    | some compiled => session.execute mode compiled state
    | none => quietly .unknownName [] state

def serve (session : Session σ) : State σ → List Request → List (Exchange σ)
  | _, [] => []
  | state, request :: rest =>
    let exchange := session.answer state request
    exchange :: session.serve exchange.state rest

end Session

/-- The statement as it is shown. -/
def Compiled.shown (compiled : Compiled) : String :=
  "Statement(" ++ Text.quoted compiled.query ++ ")"

end ParamSql
