import ParamSql.Execution.Script

/-!
Running a statement, as a single call or inside a transaction.

A transaction is `BEGIN`, the statement and `COMMIT`. The first failure is followed by one
`ROLLBACK` and is what the caller sees, even if the `ROLLBACK` fails too.
-/

namespace ParamSql.Transaction

variable {σ : Type}

def begin : Call := ⟨"BEGIN", none⟩

def commit : Call := ⟨"COMMIT", none⟩

def rollback : Call := ⟨"ROLLBACK", none⟩

/-- The calls of a transaction up to the first that does not return, with the statement's result. -/
def framed (executor : Executor σ) (body : Call) : Script σ Value := do
  let _ ← Script.send executor begin
  let result ← Script.send executor body
  let _ ← Script.send executor commit
  pure result

/-- The reaction to a failure inside a transaction: a rollback, and the failure again. -/
def recover (executor : Executor σ) (failure : String) : Script σ Value := do
  Script.log .rollingBack
  let undo : Script σ Value := Script.send executor rollback
  let _ ← undo.onFailure fun _ => do
    Script.log .rollbackFailed
    pure .null
  Script.fail failure

def execute (executor : Executor σ) (body : Call) (transactional : Bool) : Script σ Value :=
  if transactional then (framed executor body).onFailure (recover executor)
  else Script.send executor body

end ParamSql.Transaction
