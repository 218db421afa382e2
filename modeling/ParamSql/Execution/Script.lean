import ParamSql.Log

/-!
Scripts: calls to an executor, one after the other.

An executor answers a call with a value, with a failure, or with an interruption; the script around
it can react to a failure but not to an interruption. A run keeps the calls made, the records
logged and the executor's state, whatever its ending.
-/

namespace ParamSql

/-- A call to an executor: a text, and values for its placeholders if it has any. -/
structure Call where
  text : String
  values : Option Value
  deriving Repr

/-- How a call or a script ends. -/
inductive Ending (α : Type) where
  | returned (a : α)
  | failed (message : String)
  | interrupted (message : String)
  deriving Repr

/-- Something that answers calls; one that is awaited may only be used by awaiting scripts. -/
structure Executor (σ : Type) where
  awaited : Bool
  answer : σ → Call → Ending Value × σ

/-- A script that has ended. -/
structure Run (σ α : Type) where
  ending : Ending α
  state : σ
  calls : List Call
  notes : List Note

/-- A script, started in a state of the executor. -/
def Script (σ α : Type) := σ → Run σ α

namespace Script

variable {σ α β γ : Type}

def done (a : α) : Script σ α := fun s => ⟨.returned a, s, [], []⟩

/-- The run of a further script, with what happened before it put in front. -/
def after (calls : List Call) (notes : List Note) (run : Run σ α) : Run σ α :=
  { run with calls := calls ++ run.calls, notes := notes ++ run.notes }

def andThen (x : Script σ α) (f : α → Script σ β) : Script σ β := fun s =>
  let run := x s
  match run.ending with
  | .returned a => after run.calls run.notes (f a run.state)
  | .failed m => ⟨.failed m, run.state, run.calls, run.notes⟩
  | .interrupted m => ⟨.interrupted m, run.state, run.calls, run.notes⟩

instance : Monad (Script σ) where
  pure := done
  bind := andThen

theorem done_andThen (a : α) (f : α → Script σ β) : andThen (done a) f = f a := rfl

theorem andThen_done (x : Script σ α) : andThen x done = x := by
  funext s
  unfold andThen
  cases h : x s with
  | mk ending state calls notes => cases ending <;> simp [done, after]

theorem andThen_assoc (x : Script σ α) (f : α → Script σ β) (g : β → Script σ γ) :
    andThen (andThen x f) g = andThen x fun a => andThen (f a) g := by
  funext s
  cases h : (x s).ending with
  | returned a =>
    cases h' : (f a (x s).state).ending <;> simp [andThen, h, h', after]
  | failed m => simp [andThen, h]
  | interrupted m => simp [andThen, h]

instance : LawfulMonad (Script σ) :=
  LawfulMonad.mk' (Script σ) andThen_done done_andThen andThen_assoc

def send (executor : Executor σ) (call : Call) : Script σ Value := fun s =>
  let (ending, next) := executor.answer s call
  ⟨ending, next, [call], []⟩

def log (note : Note) : Script σ Unit := fun s => ⟨.returned (), s, [], [note]⟩

def fail (message : String) : Script σ α := fun s => ⟨.failed message, s, [], []⟩

/-- A script with a reaction to its failure. -/
def onFailure (x : Script σ α) (react : String → Script σ α) : Script σ α := fun s =>
  let run := x s
  match run.ending with
  | .failed m => after run.calls run.notes (react m run.state)
  | _ => run

end Script

end ParamSql
