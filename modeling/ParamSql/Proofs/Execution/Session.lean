import ParamSql.Execution.Session
import ParamSql.Proofs.Execution.Transaction
import ParamSql.Proofs.Statement.Batch

/-!
What an executor sees of a session.

`Contributes` says for each kind of request, from the requests before it alone, what it is answered
and which calls it adds: building and reading add none, nor does running that is refused, and
running a statement adds its call, framed as a transaction if the statement is a batch. The record
that the executor keeps of its calls is made of these contributions, in the order of the requests
(`log_serve`).
-/

namespace ParamSql

variable {σ : Type}

/-! ## Records -/

/-- How a call ends, whatever it answers. -/
inductive Fate where
  | returned
  | failed
  | interrupted
  deriving DecidableEq, Repr

def Ending.fate {α : Type} : Ending α → Fate
  | .returned _ => .returned
  | .failed _ => .failed
  | .interrupted _ => .interrupted

/-- The executor keeps a record of the calls that it is given, in order, and of how they end. -/
def Executor.Records (executor : Executor σ) (record : σ → List (Call × Fate)) : Prop :=
  ∀ s call, record (executor.answer s call).2 =
    record s ++ [(call, (executor.answer s call).1.fate)]

namespace Transaction

variable {executor : Executor σ} {record : σ → List (Call × Fate)} {calls made : List Call}
  {s t : σ} {vs : List Value} {stop : Stop}

def logged (record : σ → List (Call × Fate)) (s : σ) : List Call :=
  (record s).map Prod.fst

theorem logged_answer (h : executor.Records record) (s : σ) (call : Call) :
    logged record (executor.answer s call).2 = logged record s ++ [call] := by
  simp [logged, h s call]

theorem Completes.logged_eq (h : executor.Records record)
    (hcalls : Completes executor calls s vs t) :
    logged record t = logged record s ++ calls := by
  induction hcalls with
  | nil => simp
  | @cons call rest s t u v vs hcall _ ih =>
    have hhere := logged_answer h s call
    rw [hcall] at hhere
    rw [ih, hhere, List.append_assoc, List.singleton_append]

theorem Breaks.logged_eq (h : executor.Records record)
    (hcalls : Breaks executor calls s made stop t) :
    logged record t = logged record s ++ made := by
  induction hcalls with
  | @here call rest s t stop hcall =>
    have hhere := logged_answer h s call
    rwa [hcall] at hhere
  | @later call rest made s t u v stop hcall _ ih =>
    have hhere := logged_answer h s call
    rw [hcall] at hhere
    rw [ih, hhere, List.append_assoc, List.singleton_append]

end Transaction

/-! ## Requests -/

def Mode.awaits : Mode → Bool
  | .blocking => false
  | .awaiting => true

namespace Session

open Transaction

variable {session : Session σ} {history rest requests : List Request} {request : Request}
  {name : String} {verb : Verb} {compiled : Compiled} {mode : Mode} {s t u : σ} {state : State σ}

/-! ## Statements by name -/

/-- The statement that stands under a name after the requests, the latest of them first, with the
verb that it was built by: the one built last. A build that fails changes nothing. -/
def standing? (config : Config) (name : String) : List Request → Option (Verb × Compiled)
  | [] => none
  | .build other verb schema :: earlier =>
    match (ParamSql.build config verb schema).result with
    | .ok compiled => if other = name then some (verb, compiled) else standing? config name earlier
    | .error _ => standing? config name earlier
  | _ :: earlier => standing? config name earlier

/-- There is an executor, and it is of the kind that the way of running is for. -/
def Fits (session : Session σ) (mode : Mode) (executor : Executor σ) : Prop :=
  session.executor = some executor ∧ executor.awaited = mode.awaits

theorem executorFor_of_fits {executor : Executor σ} (h : session.Fits mode executor) :
    session.executorFor mode = .ok executor := by
  obtain ⟨hexecutor, hkind⟩ := h
  cases mode <;> simp_all [executorFor, Mode.awaits]

theorem executorFor_of_not_fits (h : ∀ executor, ¬ session.Fits mode executor) :
    ∃ cause, session.executorFor mode = .error cause := by
  cases hexecutor : session.executor with
  | none => exact ⟨.noExecutor, by simp [executorFor, hexecutor]⟩
  | some executor =>
    have hkind : executor.awaited ≠ mode.awaits := fun hkind => h executor ⟨hexecutor, hkind⟩
    cases mode with
    | blocking => exact ⟨.executorAwaits, by simp_all [executorFor, Mode.awaits]⟩
    | awaiting => exact ⟨.executorBlocks, by simp_all [executorFor, Mode.awaits]⟩

/-! ## Contributions -/

/-- What a request is answered after the requests of the history, the latest of them first, the
calls that it contributes, and the states of the executor before and after it. -/
inductive Contributes (session : Session σ) (history : List Request) (s : σ) :
    Request → Response → List Call → σ → Prop where
  | built {name : String} {verb : Verb} {schema : Value} {compiled : Compiled}
    (h : (ParamSql.build session.config verb schema).result = .ok compiled) :
    Contributes session history s (.build name verb schema) (.built compiled) [] s
  | rejected {name : String} {verb : Verb} {schema : Value} {e : Error}
    (h : (ParamSql.build session.config verb schema).result = .error e) :
    Contributes session history s (.build name verb schema) (.rejected e) [] s
  | shown {name : String} {verb : Verb} {compiled : Compiled}
    (h : standing? session.config name history = some (verb, compiled)) :
    Contributes session history s (.read name) (.shows compiled) [] s
  | unknown {name : String} {request : Request}
    (h : standing? session.config name history = none)
    (hrequest : request = .read name ∨ ∃ mode, request = .execute name mode) :
    Contributes session history s request .unknownName [] s
  | refused {name : String} {mode : Mode} {verb : Verb} {compiled : Compiled} {cause : Usage}
    (h : standing? session.config name history = some (verb, compiled))
    (hfits : ∀ executor, ¬ session.Fits mode executor)
    (hcause : session.executorFor mode = .error cause) :
    Contributes session history s (.execute name mode) (.refused cause) [] s
  | single {name : String} {mode : Mode} {verb : Verb} {compiled : Compiled}
    {executor : Executor σ} {ending : Ending Value} {t : σ}
    (h : standing? session.config name history = some (verb, compiled))
    (hverb : verb.isBatch = false) (hfits : session.Fits mode executor)
    (hcall : executor.answer s (body compiled) = (ending, t)) :
    Contributes session history s (.execute name mode) (.ended ending) [body compiled] t
  | committed {name : String} {mode : Mode} {verb : Verb} {compiled : Compiled}
    {executor : Executor σ} {first v last : Value} {t : σ}
    (h : standing? session.config name history = some (verb, compiled))
    (hverb : verb.isBatch = true) (hfits : session.Fits mode executor)
    (hcalls : Completes executor [begin, body compiled, commit] s [first, v, last] t) :
    Contributes session history s (.execute name mode) (.ended (.returned v))
      [begin, body compiled, commit] t
  | rolledBack {name : String} {mode : Mode} {verb : Verb} {compiled : Compiled}
    {executor : Executor σ} {made : List Call} {m : String} {t : σ}
    (h : standing? session.config name history = some (verb, compiled))
    (hverb : verb.isBatch = true) (hfits : session.Fits mode executor)
    (hcalls : Breaks executor [begin, body compiled, commit] s made (.failed m) t) :
    Contributes session history s (.execute name mode) (.ended (.failed m)) (made ++ [rollback])
      (executor.answer t rollback).2

/-- What requests after a history are answered and contribute, one after the other. -/
inductive Serves (session : Session σ) :
    List Request → σ → List Request → List (Response × List Call) → σ → Prop where
  | nil {history : List Request} {s : σ} : Serves session history s [] [] s
  | cons {history rest : List Request} {request : Request} {response : Response}
    {calls : List Call} {answers : List (Response × List Call)} {s t u : σ}
    (hhere : Contributes session history s request response calls t)
    (hrest : Serves session (request :: history) t rest answers u) :
    Serves session history s (request :: rest) ((response, calls) :: answers) u

/-- The executor of the session, if there is one, keeps a record of its calls. -/
def Records (session : Session σ) (record : σ → List (Call × Fate)) : Prop :=
  ∀ executor, session.executor = some executor → executor.Records record

/-- The calls of a session return or fail, and its executor keeps a record of them. -/
structure Recorded (session : Session σ) (record : σ → List (Call × Fate)) : Prop where
  records : session.Records record
  uninterrupted : ∀ executor, session.executor = some executor →
    ∀ s call m, (executor.answer s call).1 ≠ .interrupted m

section Recorded

variable {record : σ → List (Call × Fate)} {response : Response} {calls : List Call}
  {answers : List (Response × List Call)}

/-- A request adds its calls to the record, and nothing else. -/
theorem Contributes.logged_eq (hrecord : session.Recorded record)
    (h : Contributes session history s request response calls t) :
    logged record t = logged record s ++ calls := by
  cases h with
  | @single _ _ _ compiled _ _ _ _ _ hfits hcall =>
    have hhere := logged_answer (hrecord.records _ hfits.1) s (body compiled)
    rwa [hcall] at hhere
  | committed _ _ hfits hcalls => exact hcalls.logged_eq (hrecord.records _ hfits.1)
  | rolledBack _ _ hfits hcalls =>
    have hexecutor := hrecord.records _ hfits.1
    rw [logged_answer hexecutor, hcalls.logged_eq hexecutor, List.append_assoc]
  | _ => simp

theorem Serves.logged_eq (hrecord : session.Recorded record)
    (h : Serves session history s requests answers t) :
    logged record t = logged record s ++ answers.flatMap Prod.snd := by
  induction h with
  | nil => simp
  | cons hhere _ ih =>
    rw [ih, hhere.logged_eq hrecord, List.append_assoc, List.flatMap_cons]

end Recorded

/-! ## The statements of a session -/

/-- The statements of a session are those that stand after the requests. -/
def Follows (config : Config) (history : List Request) (state : State σ) : Prop :=
  ∀ name, state.statement? name = (standing? config name history).map Prod.snd

def final (session : Session σ) (state : State σ) (requests : List Request) : State σ :=
  (session.serve state requests).foldl (fun _ exchange => exchange.state) state

theorem final_cons (session : Session σ) (state : State σ) (request : Request)
    (rest : List Request) :
    session.final state (request :: rest) =
      session.final (session.answer state request).state rest := rfl

section Answers

variable {record : σ → List (Call × Fate)}

end Answers

/-! ## A session to look at -/

/-- An executor that does nothing but to keep its record; its calls end as `fate` says of their
texts. -/
def scribe (fate : String → Ending Value) : Executor (List (Call × Fate)) where
  awaited := false
  answer record call := (fate call.text, record ++ [(call, (fate call.text).fate)])

theorem scribe_records (fate : String → Ending Value) : (scribe fate).Records id :=
  fun _ _ => rfl

/-- A session whose transactions cannot be committed. -/
def unlucky : Session (List (Call × Fate)) where
  executor := some (scribe (failing "COMMIT"))
  config := {}

theorem unlucky_records : unlucky.Records id := by
  intro executor h
  obtain rfl := Option.some.inj h
  exact scribe_records _

/-- A transaction that cannot be committed is rolled back. -/
theorem execute_uncommitted {call : Call} (h : call.text ≠ "COMMIT") :
    Transaction.execute (scribe (failing "COMMIT")) call true [] =
      ⟨.failed "COMMIT", [(begin, .returned), (call, .returned), (commit, .failed),
        (rollback, .returned)], [begin, call, commit, rollback], [.rollingBack]⟩ := by
  have hreturned : failing "COMMIT" call.text = .returned .null := by rw [failing, if_neg h]
  have hcall : (scribe (failing "COMMIT")).answer [(begin, .returned)] call =
      (.returned .null, [(begin, .returned), (call, .returned)]) := by
    rw [scribe]
    dsimp only
    rw [hreturned]
    rfl
  have hcalls : Breaks (scribe (failing "COMMIT")) (frame call) [] [begin, call, commit]
      (.failed "COMMIT") [(begin, .returned), (call, .returned), (commit, .failed)] :=
    .later rfl (.later hcall (.here rfl))
  rw [execute_of_failed hcalls]
  rfl

theorem execute_unlucky {batch : Compiled} (htransaction : batch.transaction = true)
    (hquery : batch.query ≠ "COMMIT") (statements : List (String × Compiled)) :
    unlucky.execute .blocking batch ⟨[], statements⟩ =
      ⟨.ended (.failed "COMMIT"), [begin, body batch, commit, rollback],
        [.executing batch.query (.count batch.values.length), .rollingBack],
        ⟨[(begin, .returned), (body batch, .returned), (commit, .failed), (rollback, .returned)],
          statements⟩⟩ := by
  have hrun := @execute_uncommitted (body batch) hquery
  have hfits : unlucky.Fits .blocking (scribe (failing "COMMIT")) := ⟨rfl, rfl⟩
  rw [Session.execute, executorFor_of_fits hfits]
  dsimp only
  rw [htransaction, hrun]
  rfl

def relabelings (kind : String) (id : Int) : Value :=
  .list [relabeling kind id]

def relabeledBatch (kind : String) (id : Int) : Compiled :=
  .together [relabeled kind id]

theorem build_relabelings_of {kind : String} {id : Int}
    (h : (ParamSql.build {} .update (relabeling kind id)).result = .ok (relabeled kind id)) :
    (ParamSql.build {} .updates (relabelings kind id)).result = .ok (relabeledBatch kind id) := by
  refine build_together rfl rfl (List.cons_ne_nil _ _) Config.plain_default ?_ (.cons h .nil)
  intro item hitem s hs
  obtain rfl := List.mem_singleton.1 hitem
  obtain rfl : .update (relabelingUpdate kind id) = s := Except.ok.inj hs
  exact plain_relabelingUpdate kind id

theorem answer_relabelings {kind : String} {i : Int}
    (h : (ParamSql.build {} .update (relabeling kind i)).result = .ok (relabeled kind i))
    (record : List (Call × Fate)) :
    ∃ notes, unlucky.answer (.start record) (.build "batch" .updates (relabelings kind i)) =
      quietly (.built (relabeledBatch kind i)) notes
        ⟨record, [("batch", relabeledBatch kind i)]⟩ := by
  rw [answer, Session.build, unlucky, build_relabelings_of h]
  exact ⟨_, rfl⟩

end Session

end ParamSql
