import ParamSql.Log
import ParamSql.Sql

/-!
Drafts: SQL under construction.

A draft is a computation that binds values, logs records, and ends in a result or in an error. It
is handed a fragment for each value it binds and goes on with that. What it is handed is left open
here: on a context it is the placeholder with the number of the value (`Draft.run`), and in the
account of a draft (`bound`, `notes`, `result`) it is a hole, so that the account tells what the
draft does wherever it stands.
-/

namespace ParamSql

/-- The construction of some SQL, step by step. -/
inductive Draft (α : Type) where
  | done (a : α)
  | fail (e : Error)
  /-- Logs a record. -/
  | noting (note : Note) (next : Draft α)
  /-- Binds a value, and goes on with the fragment that stands for it. -/
  | binding (v : Value) (next : Sql → Draft α)
  /-- Binds values that a verbatim text numbers itself, and goes on with their room. -/
  | extending (vs : List Value) (next : Sql → Draft α)

namespace Draft

variable {α β γ : Type}

def andThen : Draft α → (α → Draft β) → Draft β
  | done a, f => f a
  | fail e, _ => fail e
  | noting note next, f => noting note (andThen next f)
  | binding v next, f => binding v fun sql => andThen (next sql) f
  | extending vs next, f => extending vs fun sql => andThen (next sql) f

instance : Monad Draft where
  pure := done
  bind := andThen

theorem done_andThen (a : α) (f : α → Draft β) : andThen (done a) f = f a := rfl

theorem andThen_done (x : Draft α) : andThen x done = x := by
  induction x with
  | done a => rfl
  | fail e => rfl
  | noting note next ih => rw [andThen, ih]
  | binding v next ih => rw [andThen, funext ih]
  | extending vs next ih => rw [andThen, funext ih]

theorem andThen_assoc (x : Draft α) (f : α → Draft β) (g : β → Draft γ) :
    andThen (andThen x f) g = andThen x fun a => andThen (f a) g := by
  induction x with
  | done a => rfl
  | fail e => rfl
  | noting note next ih => rw [andThen, andThen, andThen, ih]
  | binding v next ih => rw [andThen, andThen, andThen, funext ih]
  | extending vs next ih => rw [andThen, andThen, andThen, funext ih]

instance : LawfulMonad Draft :=
  LawfulMonad.mk' Draft andThen_done done_andThen andThen_assoc

def fault (clause : ClauseName) (cause : ClauseFault) (path : List String) : Draft α :=
  fail (.clause clause cause path)

def log (note : Note) : Draft Unit := noting note (done ())

/-- The fragment that stands for a value, which is bound. -/
def param (v : Value) : Draft Sql := binding v done

/-- Room for values that a verbatim text numbers itself. -/
def params (vs : List Value) : Draft Sql := extending vs done

/-! ## The account of a draft -/

/-- The values that the draft binds, in order, also before an error. -/
def bound : Draft α → List Value
  | done _ => []
  | fail _ => []
  | noting _ next => next.bound
  | binding v next => v :: (next .hole).bound
  | extending vs next => vs ++ (next (.room vs.length)).bound

def notes : Draft α → List Note
  | done _ => []
  | fail _ => []
  | noting note next => note :: next.notes
  | binding _ next => (next .hole).notes
  | extending vs next => (next (.room vs.length)).notes

/-- The result of the draft with holes for its values, or the error that ends it. -/
def result : Draft α → Except Error α
  | done a => .ok a
  | fail e => .error e
  | noting _ next => next.result
  | binding _ next => (next .hole).result
  | extending vs next => (next (.room vs.length)).result

end Draft

end ParamSql
