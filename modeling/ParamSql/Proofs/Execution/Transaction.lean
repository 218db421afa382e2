import ParamSql.Execution.Transaction

/-!
How transactions go, and what they leave in a store.

The calls of a transaction are made one after the other. Either all of them return (`Completes`) or
they stop at the first that does not (`Breaks`), and there is no third way
(`completes_or_breaks`). What a transaction does follows from the way its calls go
(`execute_of_completes`, `execute_of_breaks`). Over a store whose calls fail but are not
interrupted a transaction is atomic (`execute_atomic`). An interruption is the one thing that
keeps it from being either committed or rolled back (`settled_iff`).
-/

namespace ParamSql

/-- How a call ends that does not return. -/
inductive Stop where
  | failed (message : String)
  | interrupted (message : String)

def Stop.ending {α : Type} : Stop → Ending α
  | failed m => .failed m
  | interrupted m => .interrupted m

namespace Script

variable {σ α β : Type} {x : Script σ α} {s t : σ} {calls : List Call} {notes : List Note}

/-! ## Steps of a script -/

theorem bind_of_returned {f : α → Script σ β} {a : α} (h : x s = ⟨.returned a, t, calls, notes⟩) :
    (x >>= f) s = after calls notes (f a t) := by
  change andThen x f s = _
  simp [andThen, h]

theorem bind_of_stop {f : α → Script σ β} {stop : Stop} (h : x s = ⟨stop.ending, t, calls, notes⟩) :
    (x >>= f) s = ⟨stop.ending, t, calls, notes⟩ := by
  change andThen x f s = _
  cases stop <;> simp [andThen, h, Stop.ending]

theorem bind_of_failed {f : α → Script σ β} {m : String} (h : x s = ⟨.failed m, t, calls, notes⟩) :
    (x >>= f) s = ⟨.failed m, t, calls, notes⟩ :=
  bind_of_stop (show x s = ⟨(Stop.failed m).ending, t, calls, notes⟩ from h)

theorem bind_of_interrupted {f : α → Script σ β} {m : String}
    (h : x s = ⟨.interrupted m, t, calls, notes⟩) :
    (x >>= f) s = ⟨.interrupted m, t, calls, notes⟩ :=
  bind_of_stop (show x s = ⟨(Stop.interrupted m).ending, t, calls, notes⟩ from h)

theorem send_of_answer {executor : Executor σ} {call : Call} {ending : Ending Value}
    (h : executor.answer s call = (ending, t)) :
    send executor call s = ⟨ending, t, [call], []⟩ := by
  simp [send, h]

theorem onFailure_of_failed {react : String → Script σ α} {m : String}
    (h : x s = ⟨.failed m, t, calls, notes⟩) :
    onFailure x react s = after calls notes (react m t) := by
  simp [onFailure, h]

theorem onFailure_of_not_failed {react : String → Script σ α} (h : ∀ m, (x s).ending ≠ .failed m) :
    onFailure x react s = x s := by
  unfold onFailure
  dsimp only
  split
  · next m hending => exact absurd hending (h m)
  · rfl

end Script

namespace Transaction

variable {σ : Type} {executor : Executor σ} {body : Call} {call : Call} {calls made : List Call}
  {s t u : σ} {v : Value} {vs : List Value} {stop : Stop}

/-! ## Calls one after the other -/

/-- The calls, made one after the other, all return. -/
inductive Completes (executor : Executor σ) : List Call → σ → List Value → σ → Prop where
  | nil {s : σ} : Completes executor [] s [] s
  | cons {call : Call} {rest : List Call} {s t u : σ} {v : Value} {vs : List Value}
    (hcall : executor.answer s call = (.returned v, t)) (hrest : Completes executor rest t vs u) :
    Completes executor (call :: rest) s (v :: vs) u

/-- The calls are made up to the first that does not return; `made` are those made, that one
included. -/
inductive Breaks (executor : Executor σ) : List Call → σ → List Call → Stop → σ → Prop where
  | here {call : Call} {rest : List Call} {s t : σ} {stop : Stop}
    (hcall : executor.answer s call = (stop.ending, t)) :
    Breaks executor (call :: rest) s [call] stop t
  | later {call : Call} {rest made : List Call} {s t u : σ} {v : Value} {stop : Stop}
    (hcall : executor.answer s call = (.returned v, t))
    (hrest : Breaks executor rest t made stop u) :
    Breaks executor (call :: rest) s (call :: made) stop u

theorem completes_or_breaks (executor : Executor σ) (calls : List Call) (s : σ) :
    (∃ vs t, Completes executor calls s vs t) ∨
      ∃ made stop t, Breaks executor calls s made stop t := by
  induction calls generalizing s with
  | nil => exact .inl ⟨[], s, .nil⟩
  | cons call rest ih =>
    rcases hcall : executor.answer s call with ⟨ending, t⟩
    cases ending with
    | failed m => exact .inr ⟨[call], .failed m, t, .here hcall⟩
    | interrupted m => exact .inr ⟨[call], .interrupted m, t, .here hcall⟩
    | returned v =>
      rcases ih t with ⟨vs, u, hrest⟩ | ⟨made, stop, u, hrest⟩
      · exact .inl ⟨v :: vs, u, .cons hcall hrest⟩
      · exact .inr ⟨call :: made, stop, u, .later hcall hrest⟩

theorem Completes.run (h : Completes executor calls s vs t) :
    (calls.mapM (Script.send executor)) s = ⟨.returned vs, t, calls, []⟩ := by
  induction h with
  | nil => rfl
  | cons hcall _ ih =>
    rw [List.mapM_cons, Script.bind_of_returned (Script.send_of_answer hcall),
      Script.bind_of_returned ih]
    simp [Script.after, pure, Script.done]

theorem Breaks.run (h : Breaks executor calls s made stop t) :
    (calls.mapM (Script.send executor)) s = ⟨stop.ending, t, made, []⟩ := by
  induction h with
  | here hcall => rw [List.mapM_cons, Script.bind_of_stop (Script.send_of_answer hcall)]
  | later hcall _ ih =>
    rw [List.mapM_cons, Script.bind_of_returned (Script.send_of_answer hcall),
      Script.bind_of_stop ih]
    rfl

/-- Calls do not both complete and break. -/
theorem Completes.not_breaks (h : Completes executor calls s vs t) :
    ¬ Breaks executor calls s made stop u := by
  intro hbreaks
  have hending := congrArg Run.ending (h.run.symm.trans hbreaks.run)
  cases stop <;> cases hending

/-! ## The run of a transaction -/

def frame (body : Call) : List Call :=
  [begin, body, commit]

theorem framed_eq (executor : Executor σ) (body : Call) :
    framed executor body =
      (frame body).mapM (Script.send executor) >>= fun vs => pure (vs.getD 1 .null) := by
  simp [framed, frame]

theorem framed_of_completes {first last : Value}
    (h : Completes executor (frame body) s [first, v, last] t) :
    framed executor body s = ⟨.returned v, t, frame body, []⟩ := by
  rw [framed_eq, Script.bind_of_returned h.run]
  simp [Script.after, pure, Script.done]

theorem framed_of_breaks (h : Breaks executor (frame body) s made stop t) :
    framed executor body s = ⟨stop.ending, t, made, []⟩ := by
  rw [framed_eq, Script.bind_of_stop h.run]

theorem execute_of_completes {first last : Value}
    (h : Completes executor (frame body) s [first, v, last] t) :
    execute executor body true s = ⟨.returned v, t, frame body, []⟩ := by
  simp [execute, Script.onFailure, framed_of_completes h]

theorem execute_of_interrupted {m : String}
    (h : Breaks executor (frame body) s made (.interrupted m) t) :
    execute executor body true s = ⟨.interrupted m, t, made, []⟩ := by
  simp [execute, Script.onFailure, framed_of_breaks h, Stop.ending]

theorem execute_of_failed {m : String} (h : Breaks executor (frame body) s made (.failed m) t) :
    execute executor body true s = Script.after made [] (recover executor m t) := by
  simp [execute, Script.onFailure, framed_of_breaks h, Stop.ending]

/-- The reaction to a failure is one rollback. The failure is what the caller sees, unless the
rollback is interrupted. -/
theorem recover_run (executor : Executor σ) (m : String) (t : σ) :
    recover executor m t =
      match executor.answer t rollback with
      | (.returned _, u) => ⟨.failed m, u, [rollback], [.rollingBack]⟩
      | (.failed _, u) => ⟨.failed m, u, [rollback], [.rollingBack, .rollbackFailed]⟩
      | (.interrupted m', u) => ⟨.interrupted m', u, [rollback], [.rollingBack]⟩ := by
  rcases hcall : executor.answer t rollback with ⟨ending, u⟩
  cases ending <;>
    simp [recover, Script.onFailure, Script.send_of_answer hcall, bind, Script.andThen, Script.log,
      Script.after, Script.fail, pure, Script.done]

theorem recover_calls (executor : Executor σ) (m : String) (t : σ) :
    (recover executor m t).calls = [rollback] := by
  rw [recover_run]
  split <;> rfl

theorem recover_state (executor : Executor σ) (m : String) (t : σ) :
    (recover executor m t).state = (executor.answer t rollback).2 := by
  rw [recover_run]
  split <;> simp [*]

theorem recover_ending {m : String}
    (h : ∀ m', (executor.answer t rollback).1 ≠ .interrupted m') :
    (recover executor m t).ending = .failed m := by
  rw [recover_run]
  split
  · rfl
  · rfl
  · next m' u hcall =>
    rw [hcall] at h
    exact absurd rfl (h m')

/-- Calls that are never interrupted break by a failure. -/
theorem Breaks.exists_failed (h : ∀ s call m, (executor.answer s call).1 ≠ .interrupted m)
    (hcalls : Breaks executor calls s made stop t) : ∃ m, stop = .failed m := by
  induction hcalls with
  | later _ _ ih => exact ih
  | @here call _ s _ stop hcall =>
    cases stop with
    | failed m => exact ⟨m, rfl⟩
    | interrupted m => exact absurd (congrArg Prod.fst hcall) (h s call m)

/-- If no call is interrupted, the calls of a transaction all return, each a value, or one of them
fails. -/
theorem frame_completes_or_fails (h : ∀ s call m, (executor.answer s call).1 ≠ .interrupted m)
    (body : Call) (s : σ) :
    (∃ first v last t, Completes executor (frame body) s [first, v, last] t) ∨
      ∃ made m t, Breaks executor (frame body) s made (.failed m) t := by
  rcases completes_or_breaks executor (frame body) s with
    ⟨vs, t, hcalls⟩ | ⟨made, stop, t, hcalls⟩
  · obtain - | ⟨hbegin, - | ⟨hbody, - | ⟨hcommit, ⟨⟩⟩⟩⟩ := hcalls
    exact .inl ⟨_, _, _, _, .cons hbegin (.cons hbody (.cons hcommit .nil))⟩
  · obtain ⟨m, rfl⟩ := hcalls.exists_failed h
    exact .inr ⟨made, m, t, hcalls⟩

/-! ## Transactions over a store -/

/-- The data of a store, and the data that an open transaction started from. -/
structure Store (δ : Type) where
  working : δ
  snapshot : Option δ
  deriving DecidableEq, Repr

/-- The store as a rollback leaves it: as it is if no transaction is open. -/
def Store.restored {δ : Type} (store : Store δ) : Store δ :=
  ⟨store.snapshot.getD store.working, none⟩

theorem Store.restored_of_open {δ : Type} {store : Store δ} {d : δ} (h : store.snapshot = some d) :
    store.restored = ⟨d, none⟩ := by
  simp [restored, h]

theorem Store.restored_of_closed {δ : Type} {store : Store δ} (h : store.snapshot = none) :
    store.restored = store := by
  obtain ⟨working, snapshot⟩ := store
  obtain rfl : snapshot = none := h
  rfl

/-- The executor works on a store. `changes` says between which data the statement leads when it
returns a value; when it fails it may have changed the data in any way. Nothing is assumed of a
rollback that fails. -/
structure Transactional {δ : Type} (executor : Executor σ) (store : σ → Store δ) (body : Call)
    (changes : δ → Value → δ → Prop) : Prop where
  uninterrupted : ∀ s call m, (executor.answer s call).1 ≠ .interrupted m
  begin_returned : ∀ s v t, (store s).snapshot = none → executor.answer s begin = (.returned v, t) →
    store t = ⟨(store s).working, some (store s).working⟩
  begin_failed : ∀ s m t, executor.answer s begin = (.failed m, t) → store t = store s
  body_returned : ∀ s d v t, (store s).snapshot = some d →
    executor.answer s body = (.returned v, t) →
      changes (store s).working v (store t).working ∧ (store t).snapshot = some d
  body_failed : ∀ s d m t, (store s).snapshot = some d →
    executor.answer s body = (.failed m, t) → (store t).snapshot = some d
  commit_returned : ∀ s v t, executor.answer s commit = (.returned v, t) →
    store t = ⟨(store s).working, none⟩
  commit_failed : ∀ s m t, executor.answer s commit = (.failed m, t) → store t = store s
  rollback_returned : ∀ s v t, executor.answer s rollback = (.returned v, t) →
    store t = (store s).restored

section Store

variable {δ : Type} {store : σ → Store δ} {changes : δ → Value → δ → Prop}

theorem Transactional.committed (h : Transactional executor store body changes)
    (hclosed : (store s).snapshot = none) {first last : Value}
    (hcalls : Completes executor (frame body) s [first, v, last] t) :
    changes (store s).working v (store t).working ∧ (store t).snapshot = none := by
  obtain - | ⟨hbegin, - | ⟨hbody, - | ⟨hcommit, ⟨⟩⟩⟩⟩ := hcalls
  have hopen := h.begin_returned _ _ _ hclosed hbegin
  obtain ⟨hchanges, -⟩ := h.body_returned _ _ _ _ (congrArg Store.snapshot hopen) hbody
  have hdone := h.commit_returned _ _ _ hcommit
  rw [hopen] at hchanges
  rw [hdone]
  exact ⟨hchanges, rfl⟩

/-- Wherever the calls of a transaction fail, what a rollback restores is the store it began
with. -/
theorem Transactional.restored_of_failed (h : Transactional executor store body changes)
    (hclosed : (store s).snapshot = none) {m : String}
    (hcalls : Breaks executor (frame body) s made (.failed m) t) :
    (store t).restored = store s := by
  have hrestored : ∀ w, (store w).snapshot = some (store s).working →
      (store w).restored = store s := by
    intro w hw
    rw [Store.restored_of_open hw, ← Store.restored_of_closed hclosed, Store.restored, hclosed]
  cases hcalls with
  | here hbegin =>
    have hsame := h.begin_failed _ _ _ hbegin
    rw [hsame, Store.restored_of_closed hclosed]
  | later hbegin hcalls =>
    have hopen := congrArg Store.snapshot (h.begin_returned _ _ _ hclosed hbegin)
    apply hrestored
    cases hcalls with
    | here hbody => exact h.body_failed _ _ _ _ hopen hbody
    | later hbody hcalls =>
      obtain ⟨-, hstill⟩ := h.body_returned _ _ _ _ hopen hbody
      cases hcalls with
      | here hcommit => rw [h.commit_failed _ _ _ hcommit, hstill]
      | later _ hcalls => cases hcalls

/-- The calls of a transaction all return, each a value, or one of them fails. -/
theorem Transactional.completes_or_fails (h : Transactional executor store body changes) (s : σ) :
    (∃ first v last t, Completes executor (frame body) s [first, v, last] t) ∨
      ∃ made m t, Breaks executor (frame body) s made (.failed m) t :=
  frame_completes_or_fails h.uninterrupted body s

theorem Transactional.execute_ending (h : Transactional executor store body changes) {m : String}
    (hcalls : Breaks executor (frame body) s made (.failed m) t) :
    (execute executor body true s).ending = .failed m := by
  rw [execute_of_failed hcalls, Script.after]
  exact recover_ending (h.uninterrupted t rollback)

/-- Transactions are atomic. A transaction makes the calls `BEGIN`, statement and `COMMIT` up to the
first that fails, and after a failure one `ROLLBACK`, whatever the kind of the executor. If all
three return, it answers what the statement answered and the store holds what the statement made
of its data; otherwise the caller sees the first failure, also when the rollback fails, and a
rollback that returns leaves the store as it was. A statement that is no transaction is one call. -/
theorem execute_atomic (h : Transactional executor store body changes)
    (hclosed : (store s).snapshot = none) :
    (∀ awaited transactional, execute { executor with awaited := awaited } body transactional s =
      execute executor body transactional s) ∧
    (∀ v, (execute executor body true s).ending = .returned v ↔
      ∃ first last t, Completes executor (frame body) s [first, v, last] t) ∧
    (∀ first v last t, Completes executor (frame body) s [first, v, last] t →
      (execute executor body true s).calls = [begin, body, commit] ∧
      (execute executor body true s).state = t ∧
      changes (store s).working v (store t).working ∧ (store t).snapshot = none) ∧
    ((∀ v, (execute executor body true s).ending ≠ .returned v) →
      ∃ made m t, Breaks executor (frame body) s made (.failed m) t ∧
        (execute executor body true s).ending = .failed m ∧
        (execute executor body true s).calls = made ++ [rollback] ∧
        ∀ v u, executor.answer t rollback = (.returned v, u) →
          (execute executor body true s).state = u ∧ store u = store s) ∧
    execute executor body false s =
      ⟨(executor.answer s body).1, (executor.answer s body).2, [body], []⟩ := by
  refine ⟨fun _ _ => rfl, fun v => ⟨fun hending => ?_, ?_⟩, ?_, fun hnone => ?_, ?_⟩
  · rcases h.completes_or_fails s with ⟨first, w, last, t, hcalls⟩ | ⟨made, m, t, hcalls⟩
    · rw [execute_of_completes hcalls] at hending
      cases hending
      exact ⟨first, last, t, hcalls⟩
    · rw [h.execute_ending hcalls] at hending
      cases hending
  · rintro ⟨first, last, t, hcalls⟩
    rw [execute_of_completes hcalls]
  · intro first v last t hcalls
    rw [execute_of_completes hcalls]
    exact ⟨rfl, rfl, h.committed hclosed hcalls⟩
  · rcases h.completes_or_fails s with ⟨first, w, last, t, hcalls⟩ | ⟨made, m, t, hcalls⟩
    · rw [execute_of_completes hcalls] at hnone
      exact absurd rfl (hnone w)
    · refine ⟨made, m, t, hcalls, h.execute_ending hcalls, ?_, fun v u hrollback => ?_⟩
      · rw [execute_of_failed hcalls, Script.after, recover_calls]
      · have hstate : (execute executor body true s).state = u := by
          rw [execute_of_failed hcalls, Script.after, recover_state, hrollback]
        rw [h.rollback_returned _ _ _ hrollback, h.restored_of_failed hclosed hcalls]
        exact ⟨hstate, rfl⟩
  · simp [execute, Script.send]

end Store

/-- A store of lines after a call that returned, or that did not. A statement adds its text to the
lines, also when it does not return. -/
def Store.called (store : Store (List String)) (text : String) (returned : Bool) :
    Store (List String) :=
  if text = "BEGIN" then if returned then ⟨store.working, some store.working⟩ else store
  else if text = "COMMIT" then if returned then ⟨store.working, none⟩ else store
  else if text = "ROLLBACK" then if returned then store.restored else store
  else ⟨store.working ++ [text], store.snapshot⟩

def returns : Ending Value → Bool
  | .returned _ => true
  | _ => false

/-- An executor over a store of lines, whose calls end as `fate` says of their texts. -/
def journal (fate : String → Ending Value) : Executor (Store (List String)) where
  awaited := false
  answer store call :=
    (fate call.text, store.called call.text (returns (fate call.text)))

def insertion : Call := ⟨"INSERT", some (.list [.int 1])⟩

def returning : String → Ending Value := fun _ => .returned .null

def failing (broken : String) : String → Ending Value := fun text =>
  if text = broken then .failed text else .returned .null

def interrupting (broken : String) : String → Ending Value := fun text =>
  if text = broken then .interrupted text else .returned .null

theorem journal_of_answer {fate : String → Ending Value} {store later : Store (List String)}
    {ending : Ending Value} (h : (journal fate).answer store call = (ending, later)) :
    later = store.called call.text (returns ending) := by
  obtain ⟨hfate, hlater⟩ := Prod.mk.inj h
  rw [← hlater, hfate]

theorem journal_transactional {fate : String → Ending Value}
    (h : ∀ text m, fate text ≠ .interrupted m) :
    Transactional (journal fate) id insertion fun d _ d' => d' = d ++ ["INSERT"] where
  uninterrupted _ call m := h call.text m
  begin_returned _ _ _ _ hcall := journal_of_answer hcall
  begin_failed _ _ _ hcall := journal_of_answer hcall
  body_returned _ _ _ _ hopen hcall := by
    rw [journal_of_answer hcall]
    exact ⟨rfl, hopen⟩
  body_failed _ _ _ _ hopen hcall := by
    rw [journal_of_answer hcall]
    exact hopen
  commit_returned _ _ _ hcall := journal_of_answer hcall
  commit_failed _ _ _ hcall := journal_of_answer hcall
  rollback_returned _ _ _ hcall := journal_of_answer hcall

/-- A statement that fails half-way leaves no trace. -/
theorem journal_atomic :
    (execute (journal returning) insertion true ⟨["old"], none⟩).state =
        ⟨["old", "INSERT"], none⟩ ∧
      (execute (journal (failing "INSERT")) insertion true ⟨["old"], none⟩).calls =
        [begin, insertion, rollback] ∧
      (execute (journal (failing "INSERT")) insertion true ⟨["old"], none⟩).state =
        ⟨["old"], none⟩ := by
  have hreturning : Transactional (journal returning) id insertion _ :=
    journal_transactional fun _ _ h => by cases h
  have hfailing : Transactional (journal (failing "INSERT")) id insertion _ :=
    journal_transactional fun text m => by
      simp only [failing]
      split <;> simp
  obtain ⟨-, hreturned, hcompleted, -⟩ := execute_atomic (s := ⟨["old"], none⟩) hreturning rfl
  obtain ⟨-, -, -, hbroken, -⟩ := execute_atomic (s := ⟨["old"], none⟩) hfailing rfl
  refine ⟨?_, rfl, ?_⟩
  · obtain ⟨first, last, t, hcalls⟩ := (hreturned .null).mp rfl
    obtain ⟨-, hstate, hworking, hsnapshot⟩ := hcompleted _ _ _ _ hcalls
    rw [hstate]
    exact congr (congrArg Store.mk hworking) hsnapshot
  · obtain ⟨made, m, t, -, -, -, hrollback⟩ := hbroken fun v h => by cases h
    obtain ⟨hstate, hstore⟩ := hrollback _ _ rfl
    exact hstate.trans hstore

/-! ## Transactions that are interrupted -/

/-- A transaction is settled if it was committed, or if a rollback was issued after the call that
did not return. -/
inductive Settled (executor : Executor σ) (body : Call) (s : σ) : Prop where
  | committed {vs : List Value} {t : σ} (hcalls : Completes executor (frame body) s vs t) :
    Settled executor body s
  | rolledBack {made : List Call} {stop : Stop} {t : σ}
    (hcalls : Breaks executor (frame body) s made stop t)
    (hrollback : (execute executor body true s).calls = made ++ [rollback]) :
    Settled executor body s

theorem Breaks.unique {made' : List Call} {stop' : Stop}
    (h : Breaks executor calls s made stop t) (h' : Breaks executor calls s made' stop' u) :
    made' = made ∧ stop' = stop := by
  have hrun := h.run.symm.trans h'.run
  have hending := congrArg Run.ending hrun
  refine ⟨(congrArg Run.calls hrun).symm, ?_⟩
  cases stop <;> cases stop' <;> simp_all [Stop.ending]

/-- A transaction is settled unless one of its own calls is interrupted: a failure of any of them,
whatever becomes of the rollback, does not keep it open. -/
theorem settled_iff (executor : Executor σ) (body : Call) (s : σ) :
    Settled executor body s ↔
      ¬ ∃ made m t, Breaks executor (frame body) s made (.interrupted m) t := by
  constructor
  · rintro hsettled ⟨made, m, t, hinterrupted⟩
    cases hsettled with
    | committed hcalls => exact hcalls.not_breaks hinterrupted
    | rolledBack hcalls hrollback =>
      obtain ⟨rfl, rfl⟩ := hinterrupted.unique hcalls
      rw [execute_of_interrupted hinterrupted] at hrollback
      simp at hrollback
  · intro huninterrupted
    rcases completes_or_breaks executor (frame body) s with
      ⟨vs, t, hcalls⟩ | ⟨made, stop, t, hcalls⟩
    · exact .committed hcalls
    · cases stop with
      | interrupted m => exact absurd ⟨made, m, t, hcalls⟩ huninterrupted
      | failed m =>
        apply Settled.rolledBack hcalls
        rw [execute_of_failed hcalls, Script.after, recover_calls]

/-- An interruption of the statement leaves the transaction open. -/
theorem unsettled_of_interrupted_statement :
    ((journal (interrupting "INSERT")).answer ⟨["old"], none⟩ begin).1 = .returned .null ∧
      ¬ Settled (journal (interrupting "INSERT")) insertion ⟨["old"], none⟩ := by
  refine ⟨rfl, fun hsettled => ?_⟩
  cases hsettled with
  | committed hcalls =>
    obtain - | ⟨-, - | ⟨hinsertion, -⟩⟩ := hcalls
    cases hinsertion
  | @rolledBack made stop t hcalls hrollback =>
    have hlast : some insertion = some rollback := by
      calc some insertion = [begin, insertion].getLast? := rfl
        _ = (made ++ [rollback]).getLast? := congrArg List.getLast? hrollback
        _ = some rollback := List.getLast?_concat
    simp [insertion, rollback] at hlast

end Transaction

end ParamSql
