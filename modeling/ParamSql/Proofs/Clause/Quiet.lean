import ParamSql.Proofs.Clause.Where

/-!
Drafts that log nothing.

A condition is compiled without a record, so what is logged about it the statement around it logs.
-/

namespace ParamSql

namespace Draft

variable {α β : Type}

/-- The draft logs nothing, whether it succeeds or not. -/
def Quiet (x : Draft α) : Prop :=
  x.notes = []

namespace Quiet

variable {x : Draft α} {f : α → Draft β}

theorem pure' (a : α) : (pure a : Draft α).Quiet := rfl

theorem fault (clause : ClauseName) (cause : ClauseFault) (path : List String) :
    (Draft.fault clause cause path : Draft α).Quiet := rfl

theorem param (v : Value) : (Draft.param v).Quiet := rfl

theorem params (vs : List Value) : (Draft.params vs).Quiet := rfl

theorem bind' (hx : x.Quiet) (hf : ∀ a, (f a).Quiet) : (x >>= f).Quiet := by
  cases hresult : x.result with
  | ok a =>
    obtain ⟨-, -, hnotes⟩ := bind_of_ok (f := f) hresult
    rw [Quiet, hnotes, hx, hf a, List.append_nil]
  | error e =>
    obtain ⟨-, -, hnotes⟩ := bind_of_error (f := f) hresult
    rw [Quiet, hnotes, hx]

theorem mapM {f : α → Draft β} {as : List α} (h : ∀ a ∈ as, (f a).Quiet) :
    (as.mapM f).Quiet := by
  induction as with
  | nil => exact pure' _
  | cons a rest ih =>
    rw [List.mapM_cons]
    obtain ⟨ha, hrest⟩ := List.forall_mem_cons.1 h
    exact ha.bind' fun b => (ih hrest).bind' fun bs => pure' _

end Quiet

end Draft

namespace Clause

variable {clause : ClauseName} {path : KeyPath} {key value : Value}

theorem operand_quiet {isKeyword : String → Bool} : (operand clause isKeyword path key).Quiet := by
  rw [operand]
  split
  · split
    · exact .fault _ _ _
    · exact .pure' _
  · exact .fault _ _ _

theorem commaList_quiet : (commaList clause path key value).Quiet := by
  cases value <;> first | exact .pure' _ | exact .fault _ _ _

theorem rawQuery_quiet : (rawQuery clause path value).Quiet := by
  cases value with
  | text s => exact .pure' _
  | constant c => exact .pure' _
  | mapping es =>
    rw [rawQuery]
    split
    · exact .bind' (.params _) fun _ => .pure' _
    · exact .fault _ _ _
  | _ => exact .fault _ _ _

theorem Walk.entries_quiet {κ : Type} [Keyword κ] {w : Walk κ}
    (h : ∀ path name key value keyword, (w.operator path name key value keyword).Quiet)
    (path : KeyPath) (es : List (Value × Value)) : (w.entries path es).Quiet := by
  induction es using Value.entries_induction generalizing path with
  | nil =>
    rw [entries]
    exact .pure' _
  | cons key value rest ihvalue ihrest =>
    rw [entries]
    refine .bind' ?_ fun here => (ihrest path).bind' fun others => .pure' _
    cases w.entryCase key value with
    | unset hset =>
      rw [entry_unset hset]
      exact .pure' _
    | keyNotText hset hkey =>
      rw [entry_keyNotText hset hkey]
      exact .fault _ _ _
    | nested hname hnests hvalue =>
      subst hvalue
      rw [entry_nested hname hnests]
      exact (ihvalue _ rfl _).bind' fun fragments => .pure' _
    | own hname hown =>
      rw [entry_own hname hown]
      exact h _ _ _ _ _

end Clause

theorem Where.operator_quiet (path : KeyPath) (name : String) (key value : Value) (rule : Rule) :
    (operator path name key value rule).Quiet := by
  cases rule with
  | group joiner => exact .fault _ _ _
  | column => exact (Draft.Quiet.param _).bind' fun _ => .pure' _
  | membership =>
    refine Clause.operand_quiet.bind' fun column => Clause.commaList_quiet.bind' fun list => ?_
    exact (Draft.Quiet.param _).bind' fun _ => .pure' _
  | nullTest =>
    refine Clause.operand_quiet.bind' fun column => ?_
    split <;> exact .pure' _
  | substring =>
    refine Clause.operand_quiet.bind' fun column => ?_
    split <;> first
      | exact .fault _ _ _
      | exact (Draft.Quiet.param _).bind' fun _ => .pure' _
  | verbatim =>
    exact Clause.operand_quiet.bind' fun column => Clause.rawQuery_quiet.bind' fun _ => .pure' _

theorem Where.condition_quiet (spec : Value) : (condition spec).Quiet := by
  have hentries : ∀ es, (entries .root es).Quiet := by
    intro es
    rw [entries_eq]
    refine walk.entries_quiet (fun path name key value keyword => ?_) .root es
    exact (operator_quiet _ _ _ _ _).bind' fun _ => .pure' _
  refine Draft.Quiet.bind' ?_ fun fragments => .pure' _
  cases spec with
  | mapping es => exact hentries es
  | null => exact .pure' _
  | unset => exact .pure' _
  | text s => exact .pure' _
  | constant c => exact .pure' _
  | _ => exact .fault _ _ _

theorem Where.clause_quiet (spec : Value) : (clause spec).Quiet :=
  (condition_quiet spec).bind' fun _ => .pure' _

end ParamSql
