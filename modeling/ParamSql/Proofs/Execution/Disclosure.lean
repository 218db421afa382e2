import Mathlib.Data.List.Infix
import ParamSql.Proofs.Execution.Session
import ParamSql.Proofs.Statement.Restriction

/-!
What the log discloses of the values.

Unless the configuration asks for the values, the log does not depend on them. Two sessions that
are asked the same but for the values that their statements bind, and whose calls end alike one
after the other, log the same (`notes_serve_eq`). Scripts are followed two at a time
(`Script.InStep`), with a rule for each way of making one.
-/

namespace ParamSql

variable {σ τ α β γ δ : Type}

/-! ## Two scripts -/

/-- How the calls in the record have ended. -/
def endings (record : σ → List (Call × Fate)) (s : σ) : List Fate :=
  (record s).map Prod.snd

theorem endings_answer {executor : Executor σ} {record : σ → List (Call × Fate)}
    (h : executor.Records record) (s : σ) (call : Call) :
    endings record (executor.answer s call).2 =
      endings record s ++ [(executor.answer s call).1.fate] := by
  simp [endings, h s call]

namespace Ending

variable {ending : Ending α}

theorem fate_eq_returned : ending.fate = .returned ↔ ∃ a, ending = .returned a := by
  cases ending <;> simp [fate]

theorem fate_eq_failed : ending.fate = .failed ↔ ∃ m, ending = .failed m := by
  cases ending <;> simp [fate]

theorem fate_eq_interrupted : ending.fate = .interrupted ↔ ∃ m, ending = .interrupted m := by
  cases ending <;> simp [fate]

end Ending

namespace Script

/-- The script only adds to the endings on record. -/
def Grows (F : σ → List Fate) (x : Script σ α) : Prop :=
  ∀ s, F s <+: F (x s).state

namespace Grows

variable {F : σ → List Fate} {x : Script σ α}

theorem bind_step {f : α → Script σ β} (hf : ∀ a, Grows F (f a)) (s : σ) :
    F (x s).state <+: F ((x >>= f) s).state := by
  rcases hx : x s with ⟨ending, t, calls, notes⟩
  cases ending with
  | returned a =>
    rw [bind_of_returned hx]
    exact hf a t
  | failed m =>
    rw [bind_of_failed hx]
  | interrupted m =>
    rw [bind_of_interrupted hx]

theorem onFailure_step {react : String → Script σ α} (hreact : ∀ m, Grows F (react m)) (s : σ) :
    F (x s).state <+: F (onFailure x react s).state := by
  rcases hx : x s with ⟨ending, t, calls, notes⟩
  cases ending with
  | failed m =>
    rw [onFailure_of_failed hx]
    exact hreact m t
  | _ =>
    rw [onFailure_of_not_failed (by simp [hx]), hx]

end Grows

/-- Both scripts only add to the endings on record. Where these are the same at the start and keep
to one schedule, they are the same at the end, and the scripts log the same and end alike. -/
structure InStep (schedule : List Fate) (F : σ → List Fate) (G : τ → List Fate)
    (x : Script σ α) (y : Script τ β) : Prop where
  left : Grows F x
  right : Grows G y
  same : ∀ s t, F s = G t → F (x s).state <+: schedule → G (y t).state <+: schedule →
    F (x s).state = G (y t).state ∧ (x s).notes = (y t).notes ∧
      (x s).ending.fate = (y t).ending.fate

namespace InStep

variable {schedule : List Fate} {F : σ → List Fate} {G : τ → List Fate}

theorem pure' (a : α) (b : β) :
    InStep schedule F G (pure a : Script σ α) (pure b : Script τ β) where
  left _ := List.prefix_rfl
  right _ := List.prefix_rfl
  same _ _ h _ _ := ⟨h, rfl, rfl⟩

theorem log (note : Note) : InStep schedule F G (Script.log note) (Script.log note) where
  left _ := List.prefix_rfl
  right _ := List.prefix_rfl
  same _ _ h _ _ := ⟨h, rfl, rfl⟩

theorem fail (m m' : String) :
    InStep schedule F G (Script.fail m : Script σ α) (Script.fail m' : Script τ β) where
  left _ := List.prefix_rfl
  right _ := List.prefix_rfl
  same _ _ h _ _ := ⟨h, rfl, rfl⟩

/-- Calls that are made at the same place of the schedule end alike, whatever they are. -/
theorem send {executor : Executor σ} {executor' : Executor τ} {record : σ → List (Call × Fate)}
    {record' : τ → List (Call × Fate)} (h : executor.Records record)
    (h' : executor'.Records record') (call call' : Call) :
    InStep schedule (endings record) (endings record') (Script.send executor call)
      (Script.send executor' call') where
  left s := ⟨_, (endings_answer h s call).symm⟩
  right t := ⟨_, (endings_answer h' t call').symm⟩
  same s t hst hs ht := by
    have hends : endings record (Script.send executor call s).state =
        endings record s ++ [(executor.answer s call).1.fate] := endings_answer h s call
    have hends' : endings record' (Script.send executor' call' t).state =
        endings record s ++ [(executor'.answer t call').1.fate] := by
      rw [hst]
      exact endings_answer h' t call'
    have hlength : (endings record (Script.send executor call s).state).length =
        (endings record' (Script.send executor' call' t).state).length := by
      rw [hends, hends', List.length_append, List.length_append]
      rfl
    -- Both records begin the schedule, and they are equally long.
    have hsame := (List.prefix_of_prefix_length_le hs ht hlength.le).eq_of_length hlength
    refine ⟨hsame, rfl, ?_⟩
    rw [hends, hends'] at hsame
    exact List.singleton_inj.1 (List.append_cancel_left hsame)

/-- One script after the other: whatever the first ones return, the second ones are in step. -/
theorem bind [Nonempty α] [Nonempty β] {x : Script σ α} {y : Script τ β} {f : α → Script σ γ}
    {g : β → Script τ δ} (hxy : InStep schedule F G x y)
    (hfg : ∀ a b, InStep schedule F G (f a) (g b)) :
    InStep schedule F G (x >>= f) (y >>= g) := by
  have hf : ∀ a, Grows F (f a) := fun a => (hfg a (Classical.arbitrary β)).left
  have hg : ∀ b, Grows G (g b) := fun b => (hfg (Classical.arbitrary α) b).right
  refine ⟨fun s => (hxy.left s).trans (Grows.bind_step hf s),
    fun t => (hxy.right t).trans (Grows.bind_step hg t), fun s t hst hs ht => ?_⟩
  obtain ⟨hstate, hnotes, hfate⟩ :=
    hxy.same s t hst ((Grows.bind_step hf s).trans hs) ((Grows.bind_step hg t).trans ht)
  rcases hx : x s with ⟨ending, u, calls, notes⟩
  rcases hy : y t with ⟨ending', u', calls', notes'⟩
  rw [hx, hy] at hstate hnotes hfate
  -- The first scripts end alike: both go on, or both stop here.
  cases ending with
  | returned a =>
    obtain ⟨b, rfl⟩ := Ending.fate_eq_returned.1 hfate.symm
    rw [bind_of_returned hx, bind_of_returned hy] at *
    obtain ⟨hstate', hnotes', hfate'⟩ := (hfg a b).same u u' hstate hs ht
    exact ⟨hstate', congrArg₂ (· ++ ·) hnotes hnotes', hfate'⟩
  | failed m =>
    obtain ⟨m', rfl⟩ := Ending.fate_eq_failed.1 hfate.symm
    rw [bind_of_failed hx, bind_of_failed hy]
    exact ⟨hstate, hnotes, rfl⟩
  | interrupted m =>
    obtain ⟨m', rfl⟩ := Ending.fate_eq_interrupted.1 hfate.symm
    rw [bind_of_interrupted hx, bind_of_interrupted hy]
    exact ⟨hstate, hnotes, rfl⟩

/-- Scripts with reactions to their failures, whatever these are. -/
theorem onFailure {x : Script σ α} {y : Script τ β} {react : String → Script σ α}
    {react' : String → Script τ β} (hxy : InStep schedule F G x y)
    (hreact : ∀ m m', InStep schedule F G (react m) (react' m')) :
    InStep schedule F G (x.onFailure react) (y.onFailure react') := by
  have hf : ∀ m, Grows F (react m) := fun m => (hreact m m).left
  have hg : ∀ m, Grows G (react' m) := fun m => (hreact m m).right
  refine ⟨fun s => (hxy.left s).trans (Grows.onFailure_step hf s),
    fun t => (hxy.right t).trans (Grows.onFailure_step hg t), fun s t hst hs ht => ?_⟩
  obtain ⟨hstate, hnotes, hfate⟩ :=
    hxy.same s t hst ((Grows.onFailure_step hf s).trans hs) ((Grows.onFailure_step hg t).trans ht)
  rcases hx : x s with ⟨ending, u, calls, notes⟩
  rcases hy : y t with ⟨ending', u', calls', notes'⟩
  rw [hx, hy] at hstate hnotes hfate
  cases ending with
  | failed m =>
    obtain ⟨m', rfl⟩ := Ending.fate_eq_failed.1 hfate.symm
    rw [onFailure_of_failed hx, onFailure_of_failed hy] at *
    obtain ⟨hstate', hnotes', hfate'⟩ := (hreact m m').same u u' hstate hs ht
    exact ⟨hstate', congrArg₂ (· ++ ·) hnotes hnotes', hfate'⟩
  | _ =>
    have hy' : ∀ m, (y t).ending ≠ .failed m := by
      intro m hm
      rw [hy] at hm
      obtain rfl : ending' = .failed m := hm
      cases hfate
    rw [onFailure_of_not_failed (by simp [hx]), onFailure_of_not_failed hy', hx, hy]
    exact ⟨hstate, hnotes, hfate⟩

end InStep

end Script

/-! ## Two transactions -/

namespace Transaction

variable {schedule : List Fate} {executor : Executor σ} {executor' : Executor τ}
  {record : σ → List (Call × Fate)} {record' : τ → List (Call × Fate)}

section

variable (h : executor.Records record) (h' : executor'.Records record')

include h h'

theorem framed_inStep (call call' : Call) :
    Script.InStep schedule (endings record) (endings record') (framed executor call)
      (framed executor' call') := by
  refine .bind (.send h h' begin begin) fun _ _ => ?_
  refine .bind (.send h h' call call') fun v w => ?_
  exact .bind (.send h h' commit commit) fun _ _ => .pure' v w

theorem recover_inStep (m m' : String) :
    Script.InStep schedule (endings record) (endings record') (recover executor m)
      (recover executor' m') := by
  refine .bind (.log .rollingBack) fun _ _ => ?_
  refine .bind (.onFailure (.send h h' rollback rollback) fun _ _ => ?_) fun _ _ => .fail m m'
  exact .bind (.log .rollbackFailed) fun _ _ => .pure' _ _

/-- Two runs whose calls end alike log the same, whatever the statements are. -/
theorem execute_inStep (call call' : Call) (transactional : Bool) :
    Script.InStep schedule (endings record) (endings record')
      (Transaction.execute executor call transactional)
      (Transaction.execute executor' call' transactional) := by
  unfold Transaction.execute
  split
  · exact .onFailure (framed_inStep h h' call call') (recover_inStep h h')
  · exact .send h h' call call'

end

end Transaction

/-! ## Two builds -/

/-- Compiled statements that are equal but for their values. -/
structure Compiled.SameShape (compiled compiled' : Compiled) : Prop where
  query : compiled.query = compiled'.query
  count : compiled.values.length = compiled'.values.length
  transaction : compiled.transaction = compiled'.transaction

section Builds

variable {config : Config} {verb : Verb} {schema schema' : Value}
  {statements statements' : List Statement} {compiled compiled' : Compiled}

theorem Config.disclose_eq (hhidden : config.logValues = false) {vs ws : List Value}
    (h : vs.length = ws.length) : config.disclose vs = config.disclose ws := by
  rw [disclose, disclose, hhidden, h]
  rfl

/-- Schemas that are equal but for the values that they bind compile to the same but for these, and
building logs the same for both. -/
theorem build_sameShape (hhidden : config.logValues = false)
    (hread : verb.read schema = .ok statements) (hread' : verb.read schema' = .ok statements')
    (hshape : List.Forall₂ Statement.SameShape statements statements')
    (h : (build config verb schema).result = .ok compiled)
    (h' : (build config verb schema').result = .ok compiled') :
    compiled.SameShape compiled' ∧
      (build config verb schema).notes = (build config verb schema').notes := by
  obtain ⟨_, texts, hread₁, hgives, hcompiled⟩ := build_ok h
  obtain ⟨_, texts', hread₂, hgives', hcompiled'⟩ := build_ok h'
  obtain rfl := Except.ok.inj (hread.symm.trans hread₁)
  obtain rfl := Except.ok.inj (hread'.symm.trans hread₂)
  have hdrafts : List.Forall₂ (Draft.Agree Eq) (statements.map (Statement.draft config))
      (statements'.map (Statement.draft config)) :=
    List.forall₂_map_left_iff.2 (List.forall₂_map_right_iff.2
      (hshape.imp fun _ _ => Statement.draft_agree config))
  obtain ⟨rfl, hcount, hnotes⟩ := Compiled.members_agree hdrafts 0 _ _ hgives.1 hgives'.1
  rw [hgives.2, hgives'.2] at hcount
  rw [Compiled.members_notes hgives.1, Compiled.members_notes hgives'.1] at hnotes
  have hquery : compiled.query = compiled'.query := by rw [hcompiled, hcompiled']
  refine ⟨⟨hquery, hcount, by rw [hcompiled, hcompiled']⟩, ?_⟩
  rw [build_log hread h, build_log hread' h', hnotes, hshape.length_eq, hquery,
    Config.disclose_eq hhidden hcount]

end Builds

/-! ## Two sessions -/

namespace Session

variable {session : Session σ} {session' : Session τ} {record : σ → List (Call × Fate)}
  {record' : τ → List (Call × Fate)} {schedule : List Fate} {mode : Mode}
  {compiled compiled' : Compiled} {state : State σ} {state' : State τ}
  {request request' : Request} {requests requests' : List Request}

/-- Two sessions of one configuration, in which values are not to be logged, whose executors are of
one kind. -/
structure Paired (session : Session σ) (session' : Session τ) : Prop where
  config : session.config = session'.config
  hidden : session.config.logValues = false
  kind : session.executor.map Executor.awaited = session'.executor.map Executor.awaited

/-- Requests that are the same but for the values in the schemas, which compile. -/
inductive Request.SameShape (config : Config) : Request → Request → Prop where
  | build {name : String} {verb : Verb} {schema schema' : Value}
    {statements statements' : List Statement} {compiled compiled' : Compiled}
    (hread : verb.read schema = .ok statements) (hread' : verb.read schema' = .ok statements')
    (hshape : List.Forall₂ Statement.SameShape statements statements')
    (h : (ParamSql.build config verb schema).result = .ok compiled)
    (h' : (ParamSql.build config verb schema').result = .ok compiled') :
    SameShape config (.build name verb schema) (.build name verb schema')
  | read (name : String) : SameShape config (.read name) (.read name)
  | execute (name : String) (mode : Mode) :
    SameShape config (.execute name mode) (.execute name mode)

/-- The same statements but for their values stand under the same names. -/
def SameStatements (state : State σ) (state' : State τ) : Prop :=
  List.Forall₂ (fun e e' => e.1 = e'.1 ∧ e.2.SameShape e'.2) state.statements state'.statements

theorem SameStatements.statement? (h : SameStatements state state') (name : String) :
    Option.Rel Compiled.SameShape (state.statement? name) (state'.statement? name) := by
  rw [State.statement?, State.statement?]
  unfold SameStatements at h
  generalize state.statements = es, state'.statements = es' at h
  induction h with
  | nil => exact .none
  | @cons e e' rest rest' hhead _ ih =>
    obtain ⟨other, compiled⟩ := e
    obtain ⟨_, compiled'⟩ := e'
    obtain ⟨rfl, hsame⟩ := hhead
    rw [List.lookup_cons, List.lookup_cons]
    cases name == other with
    | true => exact .some hsame
    | false => exact ih

/-- Either both sessions refuse to run in some way, or both run. -/
theorem Paired.executorFor (h : session.Paired session') (mode : Mode) :
    (∃ cause cause', session.executorFor mode = .error cause ∧
      session'.executorFor mode = .error cause') ∨
    ∃ executor executor', session.Fits mode executor ∧ session'.Fits mode executor' := by
  have hkind := h.kind
  by_cases hfits : ∃ executor, session.Fits mode executor
  · obtain ⟨executor, hexecutor, hawaited⟩ := hfits
    rw [hexecutor, Option.map_some] at hkind
    obtain ⟨executor', hexecutor', hawaited'⟩ := Option.map_eq_some_iff.1 hkind.symm
    exact .inr ⟨executor, executor', ⟨hexecutor, hawaited⟩, hexecutor', hawaited'.trans hawaited⟩
  · rw [not_exists] at hfits
    have hfits' : ∀ executor', ¬ session'.Fits mode executor' := by
      rintro executor' ⟨hexecutor', hawaited'⟩
      rw [hexecutor', Option.map_some] at hkind
      obtain ⟨executor, hexecutor, hawaited⟩ := Option.map_eq_some_iff.1 hkind
      exact hfits executor ⟨hexecutor, hawaited.trans hawaited'⟩
    obtain ⟨cause, hcause⟩ := executorFor_of_not_fits hfits
    obtain ⟨cause', hcause'⟩ := executorFor_of_not_fits hfits'
    exact .inl ⟨cause, cause', hcause, hcause'⟩

/-! ## Growth of the record -/

theorem execute_grows (hrecord : session.Records record) (mode : Mode) (compiled : Compiled)
    (state : State σ) :
    endings record state.executor <+:
      endings record (session.execute mode compiled state).state.executor := by
  by_cases hfits : ∃ executor, session.Fits mode executor
  · obtain ⟨executor, hfits⟩ := hfits
    have hexecutor := hrecord executor hfits.1
    have hrun : Script.InStep [] (endings record) (endings record) _ _ :=
      Transaction.execute_inStep hexecutor hexecutor (body compiled) (body compiled)
        compiled.transaction
    rw [Session.execute, executorFor_of_fits hfits]
    exact hrun.left state.executor
  · rw [not_exists] at hfits
    obtain ⟨cause, hcause⟩ := executorFor_of_not_fits hfits
    rw [Session.execute, hcause]
    exact List.prefix_rfl

theorem answer_grows (hrecord : session.Records record) (state : State σ) (request : Request) :
    endings record state.executor <+:
      endings record (session.answer state request).state.executor := by
  cases request with
  | build name verb schema =>
    rw [answer, Session.build]
    cases (ParamSql.build session.config verb schema).result <;> exact List.prefix_rfl
  | read name =>
    rw [answer]
    cases state.statement? name <;> exact List.prefix_rfl
  | execute name mode =>
    rw [answer]
    cases state.statement? name with
    | none => exact List.prefix_rfl
    | some compiled => exact execute_grows hrecord mode compiled state

theorem final_grows (hrecord : session.Records record) (state : State σ)
    (requests : List Request) :
    endings record state.executor <+:
      endings record (session.final state requests).executor := by
  induction requests generalizing state with
  | nil => exact List.prefix_rfl
  | cons request rest ih => exact (answer_grows hrecord state request).trans (ih _)

/-! ## The log -/

/-- What two exchanges have in common that differ in values only: the records that are logged, the
endings on record and the statements, but for their values. -/
structure SameLog (record : σ → List (Call × Fate)) (record' : τ → List (Call × Fate))
    (exchange : Exchange σ) (exchange' : Exchange τ) : Prop where
  notes : exchange.notes = exchange'.notes
  ends : endings record exchange.state.executor = endings record' exchange'.state.executor
  statements : SameStatements exchange.state exchange'.state

section

variable (hpair : session.Paired session') (hrecord : session.Records record)
  (hrecord' : session'.Records record')
  (hends : endings record state.executor = endings record' state'.executor)
  (hstate : SameStatements state state')

include hpair hrecord hrecord' hends hstate

theorem execute_sameLog (mode : Mode) (hcompiled : compiled.SameShape compiled')
    (hs : endings record (session.execute mode compiled state).state.executor <+: schedule)
    (ht : endings record' (session'.execute mode compiled' state').state.executor <+: schedule) :
    SameLog record record' (session.execute mode compiled state)
      (session'.execute mode compiled' state') := by
  have hattempt : Note.executing compiled.query (session.config.disclose compiled.values) =
      .executing compiled'.query (session'.config.disclose compiled'.values) := by
    rw [← hpair.config, hcompiled.query, Config.disclose_eq hpair.hidden hcompiled.count]
  unfold Session.execute at hs ht ⊢
  rcases hpair.executorFor mode with ⟨_, _, hcause, hcause'⟩ | ⟨executor, executor', hfits, hfits'⟩
  · rw [hcause, hcause']
    exact ⟨congrArg (fun note => [note]) hattempt, hends, hstate⟩
  · rw [executorFor_of_fits hfits] at hs ⊢
    rw [executorFor_of_fits hfits', ← hcompiled.transaction] at *
    obtain ⟨hstate', hnotes, -⟩ := (Transaction.execute_inStep (hrecord executor hfits.1)
      (hrecord' executor' hfits'.1) (body compiled) (body compiled')
      compiled.transaction).same state.executor state'.executor hends hs ht
    exact ⟨congrArg₂ List.cons hattempt hnotes, hstate', hstate⟩

theorem answer_sameLog (hrequest : Request.SameShape session.config request request')
    (hs : endings record (session.answer state request).state.executor <+: schedule)
    (ht : endings record' (session'.answer state' request').state.executor <+: schedule) :
    SameLog record record' (session.answer state request) (session'.answer state' request') := by
  cases hrequest with
  | build hread hread' hshape h h' =>
    obtain ⟨hsame, hnotes⟩ := build_sameShape hpair.hidden hread hread' hshape h h'
    rw [answer, answer, Session.build, Session.build, ← hpair.config, h, h']
    exact ⟨hnotes, hends, .cons ⟨rfl, hsame⟩ hstate⟩
  | read name =>
    have hfound := hstate.statement? name
    rw [answer, answer]
    generalize state.statement? name = found, state'.statement? name = found' at hfound
    cases hfound with
    | none => exact ⟨rfl, hends, hstate⟩
    | some _ => exact ⟨rfl, hends, hstate⟩
  | execute name mode =>
    have hfound := hstate.statement? name
    rw [answer] at hs ht ⊢
    rw [answer]
    generalize state.statement? name = found, state'.statement? name = found' at hfound hs ht ⊢
    cases hfound with
    | none => exact ⟨rfl, hends, hstate⟩
    | some hcompiled =>
      exact execute_sameLog hpair hrecord hrecord' hends hstate mode hcompiled hs ht

/-- Requests that are the same but for values log the same, one after the other. -/
theorem serve_sameLog
    (hrequests : List.Forall₂ (Request.SameShape session.config) requests requests')
    (hs : endings record (session.final state requests).executor <+: schedule)
    (ht : endings record' (session'.final state' requests').executor <+: schedule) :
    (session.serve state requests).map Exchange.notes =
      (session'.serve state' requests').map Exchange.notes := by
  induction hrequests generalizing state state' with
  | nil => rfl
  | @cons request request' rest rest' hrequest _ ih =>
    rw [final_cons] at hs ht
    -- What the first requests leave on record begins what all of them leave, and so the schedule.
    have hhere := answer_sameLog hpair hrecord hrecord' hends hstate hrequest
      ((final_grows hrecord _ rest).trans hs) ((final_grows hrecord' _ rest').trans ht)
    rw [serve, serve, List.map_cons, List.map_cons, hhere.notes,
      ih hhere.ends hhere.statements hs ht]

end

/-- The log does not depend on the values. Two sessions that are asked the same from their starts
but for the values that their statements bind, and whose calls end alike one after the other, as far
as both make calls, log the same at every request, unless the configuration asks for values in the
log. -/
theorem notes_serve_eq (hpair : session.Paired session') (hrecord : session.Records record)
    (hrecord' : session'.Records record')
    (hrequests : List.Forall₂ (Request.SameShape session.config) requests requests')
    {s : σ} {t : τ} (hstart : endings record s = endings record' t)
    (hs : endings record (session.final (.start s) requests).executor <+: schedule)
    (ht : endings record' (session'.final (.start t) requests').executor <+: schedule) :
    (session.serve (.start s) requests).map Exchange.notes =
      (session'.serve (.start t) requests').map Exchange.notes :=
  serve_sameLog hpair hrecord hrecord' hstart .nil hrequests hs ht

def relabelingRun (kind : String) (id : Int) : List Request :=
  [.build "batch" .updates (relabelings kind id), .execute "batch" .blocking]

theorem relabelingRun_sameShape {kind kind' : String} {i i' : Int}
    (h : (ParamSql.build {} .update (relabeling kind i)).result = .ok (relabeled kind i))
    (h' : (ParamSql.build {} .update (relabeling kind' i')).result = .ok (relabeled kind' i')) :
    List.Forall₂ (Request.SameShape unlucky.config) (relabelingRun kind i)
      (relabelingRun kind' i') := by
  have hread : ∀ kind i, Verb.read .updates (relabelings kind i) =
      .ok [.update (relabelingUpdate kind i)] := fun _ _ => rfl
  have hshape : List.Forall₂ Statement.SameShape [.update (relabelingUpdate kind i)]
      [.update (relabelingUpdate kind' i')] :=
    .cons (.update (sameShape_relabelingUpdate _ _ _ _)) .nil
  exact .cons (.build (hread kind i) (hread kind' i') hshape (build_relabelings_of h)
    (build_relabelings_of h')) (.cons (.execute _ _) .nil)

theorem endings_relabelingRun {kind : String} {i : Int}
    (h : (ParamSql.build {} .update (relabeling kind i)).result = .ok (relabeled kind i))
    (hquery : (relabeledBatch kind i).query ≠ "COMMIT") :
    endings id (unlucky.final (.start []) (relabelingRun kind i)).executor =
      [.returned, .returned, .failed, .returned] := by
  obtain ⟨_, hbuilt⟩ := answer_relabelings h []
  rw [relabelingRun, final_cons, hbuilt, quietly]
  generalize hbatch : relabeledBatch kind i = batch at hquery ⊢
  have hrun := execute_unlucky (hbatch ▸ rfl) hquery [("batch", batch)]
  simp [final, serve, answer, State.statement?, hrun, endings]

theorem notes_relabelingRun_eq :
    (unlucky.serve (.start []) (relabelingRun "noun" 7)).map Exchange.notes =
      (unlucky.serve (.start []) (relabelingRun "'; --" 8)).map Exchange.notes := by
  have hs := endings_relabelingRun build_relabeling_noun (by decide)
  have ht := endings_relabelingRun build_relabeling_quote (by decide)
  refine notes_serve_eq ⟨rfl, rfl, rfl⟩ unlucky_records unlucky_records
    (relabelingRun_sameShape build_relabeling_noun build_relabeling_quote) rfl ?_ List.prefix_rfl
  rw [hs, ht]

end Session

end ParamSql
