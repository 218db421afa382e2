import ParamSql.Proofs.Clause.Assignment
import ParamSql.Proofs.Clause.InOrder
import ParamSql.Proofs.Clause.Join
import ParamSql.Proofs.Sql.Denotation

/-!
Clauses compiled one after another on one context.

A step compiles one specification, binding its values on the context as it goes. What it does on a
context that holds values is what it does `alone`, on one without any: its values are put behind
those that are there, and all its placeholders are raised by their number. So along a run of steps
values are only appended, also by steps that fail, and a placeholder denotes its value from then on
(`run_relative`).
-/

namespace ParamSql

/-! ## Drafts on a context -/

namespace Context

/-- The fragments of the draft have a numbered hole for each bound value. -/
def Numbered (draft : Draft (List Sql)) : Prop :=
  draft.Yields fun vs fs => Sql.NumberedAll vs.length fs

variable {draft : Draft (List Sql)}

theorem values_perform (h : draft.InOrderAll) (context : Context) :
    (context.perform draft).1.values = context.values ++ draft.bound := by
  rw [h.perform_eq, append]

/-- On a context that holds values, a draft gives the texts that it gives on one without any,
renumbered, or the same error. -/
theorem perform_snd (h : draft.InOrderAll) (hnumbered : Numbered draft) (context : Context)
    (transaction : Bool) :
    (context.perform draft).2 = ((empty transaction).perform draft).2.map
      (List.map (Token.renumber context.values.length)) := by
  rw [h.perform_eq, h.perform_eq]
  change draft.result.map _ = (draft.result.map _).map _
  cases hresult : draft.result with
  | error e => rfl
  | ok fs =>
    have hwrite := (hnumbered fs hresult).map_renumber_writeAll context.values.length 0
    rw [Nat.zero_add] at hwrite
    exact congrArg Except.ok hwrite.symm

/-- The placeholders that a draft gives denote the values that it binds, whatever is bound later. -/
theorem denoted_perform (h : draft.InOrderAll) (hnumbered : Numbered draft) (context : Context)
    (later : List Value) {texts : List String} (htexts : (context.perform draft).2 = .ok texts) :
    (texts.flatMap Token.placeholders).map
        (Sql.denoted ((context.perform draft).1.values ++ later)) = draft.bound.map some := by
  rw [values_perform h, List.append_assoc]
  rw [h.perform_eq] at htexts
  change draft.result.map _ = _ at htexts
  cases hresult : draft.result with
  | error e =>
    rw [hresult] at htexts
    cases htexts
  | ok fs =>
    rw [hresult] at htexts
    obtain rfl := Except.ok.inj htexts
    rw [(hnumbered fs hresult).placeholders_writeAll]
    exact Sql.map_denoted context.values draft.bound later

end Context

/-! ## Steps -/

/-- The compilation of one specification: the conditions at a path, an order, a table, a join, the
values of an INSERT, or the assignments of an UPDATE. -/
inductive Clause.Step where
  | conditions (path : KeyPath) (spec : Value)
  | order (spec : Value)
  | table (spec : Value)
  | join (spec : Join)
  | values (mapping : Value)
  | set (mapping : Value)

namespace Clause.Step

/-- What a step drafts; all but conditions are a single fragment. -/
def draft : Step → Draft (List Sql)
  | .conditions path spec => Where.fragments path spec
  | .order spec => Order.clause spec >>= fun sql => pure [sql]
  | .table spec => Table.reference spec >>= fun sql => pure [sql]
  | .join spec => spec.clause >>= fun sql => pure [sql]
  | .values mapping => Assignment.values mapping >>= fun sql => pure [sql]
  | .set mapping => Assignment.set mapping >>= fun sql => pure [sql]

/-- The specification has no dollar sign and lists no values with a verbatim query. -/
def Plain : Step → Prop
  | .conditions path spec => path.DollarFree ∧ Clause.PlainValue Where.Plain spec
  | .order spec => ∀ s ∈ Order.specs spec, Clause.PlainValue Order.Plain s
  | .table spec => Clause.PlainValue Table.PlainEntries spec
  | .join spec => spec.Plain
  | .values mapping | .set mapping => Assignment.PlainKeys mapping

theorem draft_inOrder (step : Step) : step.draft.InOrderAll := by
  cases step with
  | conditions path spec => exact Where.fragments_inOrder path spec
  | order spec => exact (Order.clause_inOrder spec).singleton
  | table spec => exact (Table.reference_inOrder spec).singleton
  | join spec => exact spec.clause_inOrder.singleton
  | values mapping => exact (Assignment.values_inOrder mapping).singleton
  | set mapping => exact (Assignment.set_inOrder mapping).singleton

theorem draft_numbered {step : Step} (h : step.Plain) : Context.Numbered step.draft := by
  cases step with
  | conditions path spec =>
    exact (Where.fragments_numbered path spec).mono fun vs fs hfs => hfs h.1 h.2
  | order spec =>
    exact (Order.clause_value_numbered spec).bind_pure fun vs sql hsql =>
      Sql.numberedAll_singleton (hsql h)
  | table spec =>
    exact (Table.reference_value_binds spec).bind_pure fun vs sql hsql =>
      Sql.numberedAll_singleton (hsql.numbered h)
  | join spec =>
    exact spec.clause_binds.bind_pure fun vs sql hsql =>
      Sql.numberedAll_singleton (hsql.numbered h)
  | values mapping =>
    exact (Assignment.values_numbered mapping).bind_pure fun vs sql hsql =>
      Sql.numberedAll_singleton (hsql h)
  | set mapping =>
    exact (Assignment.set_numbered mapping).bind_pure fun vs sql hsql =>
      Sql.numberedAll_singleton (hsql h)

/-- What a step leaves of a context, and the texts or the error that it gives. -/
def run (step : Step) (context : Context) : Context × Except Error (List String) :=
  context.perform step.draft

/-- What a step does on a context without values. -/
def alone (step : Step) : Context × Except Error (List String) :=
  step.run (.empty false)

def bound (step : Step) : List Value :=
  step.alone.1.values

/-- What steps one after another leave of a context, and what each of them gives. Steps that fail
stop nothing. -/
def runAll : List Step → Context → Context × List (Except Error (List String))
  | [], context => (context, [])
  | step :: rest, context =>
    let (next, result) := step.run context
    let (last, results) := runAll rest next
    (last, result :: results)

/-- The placeholders in the texts that a step gave, if it gave any, denote the values that it binds,
in the order of both. -/
def Denotes (vs : List Value) (step : Step) (result : Except Error (List String)) : Prop :=
  ∀ texts, result = .ok texts →
    (texts.flatMap Token.placeholders).map (Sql.denoted vs) = step.bound.map some

theorem bound_eq (step : Step) : step.bound = step.draft.bound :=
  Context.values_perform step.draft_inOrder (.empty false)

theorem run_fst (step : Step) (context : Context) :
    (step.run context).1 = { context with values := context.values ++ step.bound } := by
  rw [run, bound_eq, step.draft_inOrder.perform_eq, Context.append]

theorem values_run (step : Step) (context : Context) :
    (step.run context).1.values = context.values ++ step.bound := by
  rw [run_fst]

/-- Values are only appended, each step after the other. -/
theorem values_runAll (steps : List Step) (context : Context) :
    (runAll steps context).1.values = context.values ++ steps.flatMap bound := by
  induction steps generalizing context with
  | nil => exact (List.append_nil _).symm
  | cons step rest ih =>
    rw [List.flatMap_cons, ← List.append_assoc, ← values_run step context]
    exact ih (step.run context).1

/-- Along a run, the placeholders that a step gives denote the values that it binds, in the end and
whatever is bound later. -/
theorem denoted_runAll {steps : List Step} (h : ∀ step ∈ steps, step.Plain) (context : Context)
    (later : List Value) :
    List.Forall₂ (Denotes ((runAll steps context).1.values ++ later)) steps
      (runAll steps context).2 := by
  induction steps generalizing context with
  | nil => exact .nil
  | cons step rest ih =>
    obtain ⟨hstep, hrest⟩ := List.forall_mem_cons.1 h
    refine .cons (fun texts htexts => ?_) (ih hrest (step.run context).1)
    -- Behind the values of the step stand those of the later steps.
    rw [values_runAll, List.flatMap_cons, ← List.append_assoc, ← values_run, List.append_assoc]
    rw [bound_eq]
    exact Context.denoted_perform step.draft_inOrder (draft_numbered hstep) context _ htexts

/-- **Compiling is relative to what is bound before.** On any context, a step appends the values
that it binds alone, and gives the texts that it gives alone, with every placeholder raised by the
number of the values before, or the same error. Along any run of steps, failed ones included, values
are only appended, and the placeholders in the texts of a step keep denoting the values that it
bound. -/
theorem run_relative :
    (∀ (step : Step) (context : Context), step.Plain →
      (step.run context).1 = { context with values := context.values ++ step.bound } ∧
        (step.run context).2 =
          step.alone.2.map (List.map (Token.renumber context.values.length))) ∧
    ∀ (steps : List Step) (context : Context), (∀ step ∈ steps, step.Plain) →
      (runAll steps context).1.values = context.values ++ steps.flatMap bound ∧
        ∀ later, List.Forall₂ (Denotes ((runAll steps context).1.values ++ later)) steps
          (runAll steps context).2 :=
  ⟨fun step context h => ⟨step.run_fst context,
      Context.perform_snd step.draft_inOrder (draft_numbered h) context false⟩,
    fun steps context h => ⟨values_runAll steps context, denoted_runAll h context⟩⟩

/-- A table, conditions of which the second fails, and the values of a row. -/
def interrupted : List Step :=
  [.table (.text "words"),
    .conditions .root (.mapping [(.text "lang", .int 1),
      (.text "id", .mapping [(.text "in", .int 5)])]),
    .values (.mapping [(.text "note", .int 2)])]

theorem plain_interrupted : ∀ step ∈ interrupted, step.Plain := by
  have hconditions : Where.Plain
      [(.text "lang", .int 1), (.text "id", .mapping [(.text "in", .int 5)])] := by
    rw [Where.Plain, Clause.Plain, Clause.Plain, Clause.Plain, Clause.PlainEntry.eq_def,
      Clause.PlainEntry.eq_def]
    refine ⟨⟨by decide, trivial⟩, ⟨by decide, ?_⟩, trivial⟩
    show Clause.Plain Where.nests Where.OwnPlain [(.text "in", .int 5)]
    rw [Clause.Plain, Clause.Plain, Clause.PlainEntry.eq_def]
    exact ⟨⟨by decide, trivial⟩, trivial⟩
  intro step hstep
  rcases List.mem_cons.1 hstep with rfl | hstep
  · exact (by decide : DollarFree "words")
  rcases List.mem_cons.1 hstep with rfl | hstep
  · exact ⟨KeyPath.dollarFree_root, hconditions⟩
  obtain rfl := List.mem_singleton.1 hstep
  exact List.forall_mem_singleton.2 (by decide : DollarFree "note")

/-- The value of the row is the third one: the conditions have bound one before they failed. -/
theorem run_relative_interrupted :
    (∀ step ∈ interrupted, step.Plain ∧ (step.run ⟨[.null], true⟩).2 =
      step.alone.2.map (List.map (Token.renumber 1))) ∧
    (runAll interrupted ⟨[.null], true⟩).1.values = [.null, .int 1, .int 2] ∧
      ∀ later, List.Forall₂ (Denotes ([.null, .int 1, .int 2] ++ later)) interrupted
        [.ok ["words"], .error (.clause .where (.expectsList (.text "in") (.int 5)) ["id", "in"]),
          .ok ["(note) VALUES ($3)"]] := by
  obtain ⟨hvalues, hdenoted⟩ := run_relative.2 interrupted ⟨[.null], true⟩ plain_interrupted
  refine ⟨fun step hstep => ?_, hvalues, hdenoted⟩
  have hplain := plain_interrupted step hstep
  exact ⟨hplain, (run_relative.1 step ⟨[.null], true⟩ hplain).2⟩

end Clause.Step

end ParamSql
