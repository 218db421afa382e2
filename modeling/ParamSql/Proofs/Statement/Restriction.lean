import ParamSql.Proofs.Clause.Leafless
import ParamSql.Proofs.Clause.Quiet
import ParamSql.Proofs.Statement.Build

/-!
The rows that a statement changes.

An UPDATE or a DELETE has a WHERE clause if its condition has a leaf. Without one it changes every
row, and then a warning is logged: one for each such statement of a batch, and no other
(`leafless_iff_unfiltered`).
-/

namespace ParamSql

/-! ## The last clause -/

namespace Sql

/-- A last clause is put behind the others unless it is empty. -/
theorem joined_nonEmpty_concat (separator : String) {fs : List Sql} (hne : fs ≠ [])
    (hfs : ∀ f ∈ fs, f.Visible) (clause : Sql) :
    joined separator (nonEmpty (fs ++ [clause])) =
      if clause.isEmpty then joined separator fs
      else joined separator fs ++ verbatim separator ++ clause := by
  have hfront : nonEmpty fs = fs := by
    apply List.filter_eq_self.2
    intro f hf
    rw [(hfs f hf).isEmpty]
    rfl
  have hall : nonEmpty (fs ++ [clause]) = fs ++ if clause.isEmpty then [] else [clause] := by
    rw [nonEmpty, List.filter_append, ← nonEmpty, hfront]
    cases h : clause.isEmpty <;> simp [h]
  obtain ⟨f, rest, rfl⟩ := List.exists_cons_of_ne_nil hne
  rw [hall]
  split
  · rw [List.append_nil]
  · rw [joined_concat]

end Sql

/-! ## Restrictions -/

/-- A draft with a condition at its end: `bare` is the draft without the condition. A leafless
condition leaves no more than `bare` and a warning, and any other stands behind it after
`WHERE`. -/
def Restricted (draft bare : Draft Sql) (spec : Value) (warning : Note) : Prop :=
  ∀ sql, draft.result = .ok sql → ∃ head condition, bare.result = .ok head ∧
    (Where.condition spec).result = .ok condition ∧
    sql = (if Where.leafless spec then head
      else head ++ Sql.verbatim " " ++ (Sql.verbatim "WHERE " ++ condition)) ∧
    draft.notes = if Where.leafless spec then [warning] else []

variable {verb : Verb} {table : String} {spec : Option Spec} {clause : Sql}

theorem restriction_ok (h : (restriction verb table spec).result = .ok clause) :
    ∃ condition, (Where.condition (specValue spec)).result = .ok condition ∧
      clause = (if Where.leafless (specValue spec) then .empty
        else Sql.verbatim "WHERE " ++ condition) ∧
      clause.isEmpty = Where.leafless (specValue spec) ∧
      (restriction verb table spec).notes =
        if Where.leafless (specValue spec) then [.everyRow verb table] else [] := by
  obtain ⟨text, htext, hclause, -, hnotes⟩ := Draft.result_bind h
  obtain ⟨condition, hcondition, hwhere, hempty⟩ := Where.clause_ok htext
  have hquiet : (Where.clause (specValue spec)).notes = [] := Where.clause_quiet _
  rw [hempty] at hclause hnotes
  obtain rfl : text = clause := by
    cases hspec : Where.leafless (specValue spec) <;>
      · rw [hspec] at hclause
        exact Except.ok.inj hclause
  refine ⟨condition, hcondition, hwhere, hempty, hnotes.trans ?_⟩
  rw [hquiet, List.nil_append]
  cases Where.leafless (specValue spec) <;> rfl

theorem restricted_of_front (verb : Verb) (table : String) (spec : Option Spec)
    {front : Draft (List Sql)} (hquiet : front.Quiet)
    (hfront : front.Yields fun _ fs => fs ≠ [] ∧ ∀ f ∈ fs, f.Visible) :
    Restricted
      (do
        let fs ← front
        let clause ← restriction verb table spec
        pure (Sql.joined " " (Sql.nonEmpty (fs ++ [clause]))))
      (do
        let fs ← front
        let clause ← restriction verb table none
        pure (Sql.joined " " (Sql.nonEmpty (fs ++ [clause]))))
      (specValue spec) (.everyRow verb table) := by
  intro sql h
  obtain ⟨fs, hfs, hrest, -, hnotes⟩ := Draft.result_bind h
  obtain ⟨clause, hclause, hsql, -, hrestNotes⟩ := Draft.result_bind hrest
  obtain ⟨condition, hcondition, hwhere, hempty, hlogged⟩ := restriction_ok hclause
  obtain ⟨hne, hvisible⟩ := hfront fs hfs
  refine ⟨Sql.joined " " fs, condition, ?_, hcondition, ?_, ?_⟩
  · have hbare := Sql.joined_nonEmpty_concat " " hne hvisible .empty
    rw [Draft.bind_result_ok hfs]
    exact congrArg Except.ok hbare
  · obtain rfl := Except.ok.inj hsql
    rw [Sql.joined_nonEmpty_concat " " hne hvisible, hempty, hwhere]
    split <;> rfl
  · rw [hnotes, hquiet, hrestNotes, hlogged, List.nil_append]
    exact List.append_nil _

/-! ## Statements that change rows -/

theorem Assignment.set_quiet (es : List (String × Value)) :
    (set (Spec.mapping es).toValue).Quiet := by
  rw [set_eq]
  split
  · exact .fault _ _ _
  · refine .bind' (.mapM fun e _ => ?_) fun _ => .pure' _
    exact (Draft.Quiet.param _).bind' fun _ => .pure' _

theorem Assignment.set_visible (es : List (String × Value)) :
    (set (Spec.mapping es).toValue).Yields fun _ sql => sql.Visible := by
  rw [set_eq]
  split
  · exact .fault _ _ _
  · exact (Draft.yields_gives _).bind_pure fun _ _ _ =>
      (Sql.visible_verbatim (by decide)).append_right

/-- A statement that changes the rows that its condition selects. -/
inductive Change where
  | update (u : Update)
  | delete (d : Delete)

namespace Change

def statement : Change → Statement
  | update u => .update u
  | delete d => .delete d

def condition : Change → Value
  | update u => specValue u.condition
  | delete d => specValue d.condition

def bare : Change → Change
  | update u => update { u with condition := none }
  | delete d => delete { d with condition := none }

/-- The warning that the change concerns every row. -/
def warning : Change → Note
  | update u => .everyRow .update (Identifier.snake u.table)
  | delete d => .everyRow .delete (Identifier.snake d.table)

theorem restricted (config : Config) (c : Change) :
    Restricted (c.statement.draft config) (c.bare.statement.draft config) c.condition
      c.warning := by
  have htext : ∀ {s t : String}, Text.isBlank s = false → (Sql.verbatim (s ++ t)).Visible :=
    fun h => Sql.visible_verbatim_append (by rw [h, Bool.false_and])
  cases c with
  | update u =>
    let table := Sql.verbatim ("UPDATE " ++ Identifier.snake u.table)
    let front : Draft (List Sql) := do
      let assignments ← Assignment.set (Spec.mapping u.assignments).toValue
      pure [table, assignments]
    have hquiet : front.Quiet := .bind' (Assignment.set_quiet _) fun _ => .pure' _
    have hfront : front.Yields fun _ fs => fs ≠ [] ∧ ∀ f ∈ fs, f.Visible := by
      refine (Assignment.set_visible _).bind_pure fun _ assignments h => ⟨List.cons_ne_nil _ _, ?_⟩
      exact List.forall_mem_cons.2 ⟨htext rfl, List.forall_mem_singleton.2 h⟩
    have h := restricted_of_front .update (Identifier.snake u.table) u.condition hquiet hfront
    simp only [front, bind_assoc, pure_bind] at h
    exact h
  | delete d =>
    let front : Draft (List Sql) := pure [Sql.verbatim ("DELETE FROM " ++ Identifier.snake d.table)]
    have hfront : front.Yields fun _ fs => fs ≠ [] ∧ ∀ f ∈ fs, f.Visible :=
      .pure' ⟨List.cons_ne_nil _ _, List.forall_mem_singleton.2 (htext rfl)⟩
    exact restricted_of_front .delete (Identifier.snake d.table) d.condition (.pure' _) hfront

/-- The change concerns every row. -/
def leafless (c : Change) : Bool :=
  Where.leafless c.condition

/-- The text of the change is what it would be without its condition if that has no leaf, and
otherwise the condition stands behind that after `WHERE`. -/
def Writes (config : Config) (c : Change) (text : String) : Prop :=
  ∃ taken head condition, (c.bare.statement.draft config).result = .ok head ∧
    (Where.condition c.condition).result = .ok condition ∧
    (text = Text.collapse (head.write taken) ↔ c.leafless = true) ∧
    (text = Text.collapse (head.write taken ++ " WHERE " ++ condition.write (taken + head.arity)) ↔
      c.leafless = false)

theorem writes_of_gives {config : Config} {c : Change} {vs : List Value} {sql : Sql}
    (h : (c.statement.draft config).Gives vs sql) (taken : Nat) :
    c.Writes config (Text.collapse (sql.write taken)) := by
  obtain ⟨head, condition, hhead, hcondition, rfl, -⟩ := c.restricted config sql h.1
  have hne : Text.collapse
      (head.write taken ++ " WHERE " ++ condition.write (taken + head.arity)) ≠
        Text.collapse (head.write taken) := by
    rw [String.append_assoc]
    apply Text.collapse_append_ne
    rw [Sql.isBlank_append]
    rfl
  refine ⟨taken, head, condition, hhead, hcondition, ?_⟩
  rw [leafless]
  cases Where.leafless c.condition with
  | true => simpa using hne.symm
  | false =>
    have hwrite : (head ++ Sql.verbatim " " ++ (Sql.verbatim "WHERE " ++ condition)).write taken =
        head.write taken ++ " WHERE " ++ condition.write (taken + head.arity) := by
      have hspace : " WHERE " = " " ++ "WHERE " := rfl
      rw [Sql.write_append, Sql.write_append, Sql.write_append, Sql.write_verbatim,
        Sql.write_verbatim, Sql.arity_append, hspace]
      simp only [Sql.arity_verbatim, Nat.add_zero, String.append_assoc]
    rw [if_neg Bool.false_ne_true, hwrite]
    simpa using hne

end Change

/-! ## The log of a build -/

theorem Compiled.members_notes {drafts : List (Draft Sql)} {taken : Nat} {texts : List String}
    (h : (members taken drafts).result = .ok texts) :
    (members taken drafts).notes = drafts.flatMap Draft.notes := by
  induction drafts generalizing taken texts with
  | nil => rfl
  | cons draft rest ih =>
    obtain ⟨sql, hsql, hrest, -, hnotes⟩ := Draft.result_bind h
    obtain ⟨others, hothers, -, -, hotherNotes⟩ := Draft.result_bind hrest
    rw [members, hnotes, hotherNotes, ih hothers, List.flatMap_cons]
    exact congrArg _ (List.append_nil _)

variable {config : Config} {schema : Value} {statements : List Statement} {compiled : Compiled}

theorem Compiled.single_notes {draft : Draft Sql} (hdraft : draft.InOrder)
    (h : (single config verb draft).result = .ok compiled) :
    (single config verb draft).notes = .started verb :: draft.notes ++
      [.built verb compiled.query (config.disclose compiled.values)] := by
  rw [single_eq hdraft] at h ⊢
  cases hresult : draft.result with
  | error e =>
    rw [hresult] at h
    cases h
  | ok sql =>
    rw [hresult] at h
    obtain rfl := Except.ok.inj h
    rfl

theorem Compiled.batch_notes {drafts : List (Draft Sql)}
    (hdrafts : ∀ draft ∈ drafts, draft.InOrder)
    (h : (batch config verb drafts).result = .ok compiled) :
    (batch config verb drafts).notes = .startedBatch verb drafts.length ::
      drafts.flatMap Draft.notes ++
        [.built verb compiled.query (config.disclose compiled.values)] := by
  have hne : drafts ≠ [] := by
    rintro rfl
    cases h
  rw [batch_eq hne hdrafts] at h ⊢
  cases hall : (members 0 drafts).result with
  | error e =>
    rw [hall] at h
    cases h
  | ok texts =>
    rw [hall] at h
    obtain rfl := Except.ok.inj h
    rw [members_notes hall]
    rfl

/-- What is logged when the building of this many statements starts. -/
def Verb.opening (verb : Verb) (members : Nat) : Note :=
  if verb.isBatch then .startedBatch verb members else .started verb

theorem Verb.level_opening (verb : Verb) (members : Nat) :
    (verb.opening members).level = .debug := by
  rw [opening]
  split <;> rfl

/-- What a build logs: its start, what its members log, and its end. -/
theorem build_log (hread : verb.read schema = .ok statements)
    (h : (build config verb schema).result = .ok compiled) :
    (build config verb schema).notes = verb.opening statements.length ::
      (statements.map (Statement.draft config)).flatMap Draft.notes ++
        [.built verb compiled.query (config.disclose compiled.values)] := by
  rw [Verb.opening]
  cases hbatch : verb.isBatch with
  | true =>
    rw [build_batch hbatch, hread] at h ⊢
    rw [if_pos rfl, ← List.length_map (Statement.draft config)]
    exact Compiled.batch_notes (Statement.drafts_inOrder config statements) h
  | false =>
    rw [Verb.read, hbatch, if_neg Bool.false_ne_true] at hread
    obtain ⟨s, hparse, rfl⟩ := exists_of_map_eq_ok hread
    rw [build_single hbatch, hparse] at h ⊢
    rw [if_neg Bool.false_ne_true, List.map_singleton, List.flatMap_singleton]
    exact Compiled.single_notes (s.draft_inOrder config) h

theorem build_notes (hread : verb.read schema = .ok statements)
    (h : (build config verb schema).result = .ok compiled) :
    ∃ start, start.level = .debug ∧ (build config verb schema).notes =
      start :: (statements.map (Statement.draft config)).flatMap Draft.notes ++
        [.built verb compiled.query (config.disclose compiled.values)] :=
  ⟨_, verb.level_opening _, build_log hread h⟩

/-! ## Builds of changes -/

theorem Verb.exists_change (hverb : verb.schema = .update ∨ verb.schema = .delete) {item : Value}
    {s : Statement} (h : verb.parse item = .ok s) : ∃ c : Change, c.statement = s := by
  rw [Verb.parse, SchemaName.parse] at h
  cases hcheck : verb.check item with
  | invalid issues =>
    rw [hcheck] at h
    cases h
  | valid t =>
    rw [hcheck] at h
    obtain rfl := Except.ok.inj h
    cases verb <;> first
      | (obtain ⟨u, -, rfl⟩ := Checked.map_eq_valid hcheck
         exact ⟨.update u, rfl⟩)
      | (obtain ⟨d, -, rfl⟩ := Checked.map_eq_valid hcheck
         exact ⟨.delete d, rfl⟩)
      | (rcases hverb with hverb | hverb <;> cases hverb)

/-- An UPDATE or a DELETE, or a batch of them, is read into changes. -/
theorem Verb.exists_changes (hverb : verb.schema = .update ∨ verb.schema = .delete)
    (hread : verb.read schema = .ok statements) :
    ∃ changes : List Change, changes.map Change.statement = statements := by
  rw [Verb.read] at hread
  split at hread
  · split at hread
    · next items hitems =>
      have hparse := forall₂_of_mapM_eq_ok hread
      clear hread hitems
      induction hparse with
      | nil => exact ⟨[], rfl⟩
      | cons hitem _ ih =>
        obtain ⟨c, rfl⟩ := Verb.exists_change hverb hitem
        obtain ⟨changes, rfl⟩ := ih
        exact ⟨c :: changes, rfl⟩
    · cases hread
  · obtain ⟨s, hparse, rfl⟩ := exists_of_map_eq_ok hread
    obtain ⟨c, rfl⟩ := Verb.exists_change hverb hparse
    exact ⟨[c], rfl⟩

theorem Compiled.Members.changes {changes : List Change} {taken : Nat} {vs : List Value}
    {texts : List String}
    (h : Members taken ((changes.map Change.statement).map (Statement.draft config)) vs texts) :
    List.Forall₂ (Change.Writes config) changes texts ∧
      ((changes.map Change.statement).map (Statement.draft config)).flatMap Draft.notes =
        (changes.filter Change.leafless).map Change.warning := by
  induction changes generalizing taken vs texts with
  | nil =>
    cases h
    exact ⟨.nil, rfl⟩
  | cons c rest ih =>
    obtain - | ⟨hdraft, hrest⟩ := h
    obtain ⟨hwrites, hnotes⟩ := ih hrest
    obtain ⟨-, -, -, -, -, hlogged⟩ := c.restricted config _ hdraft.1
    refine ⟨.cons (Change.writes_of_gives hdraft taken) hwrites, ?_⟩
    rw [List.map_cons, List.map_cons, List.flatMap_cons, hnotes, hlogged, List.filter_cons,
      Change.leafless]
    split <;> rfl

/-- A filter disappears only if it has no leaf, and never silently: a condition that compiles has no
text if and only if it is leafless. An UPDATE or a DELETE that compiles, alone or in a batch, then
has no WHERE clause, and exactly one warning is logged for it; a join whose parts compile then has
an empty condition and is refused. -/
theorem leafless_iff_unfiltered :
    (∀ (spec : Value) (sql : Sql) (taken : Nat), (Where.condition spec).result = .ok sql →
      (sql.write taken = "" ↔ Where.leafless spec = true)) ∧
    (∀ (config : Config) (verb : Verb) (schema : Value) (compiled : Compiled),
      verb.schema = .update ∨ verb.schema = .delete →
      (build config verb schema).result = .ok compiled →
        ∃ changes texts, verb.read schema = .ok (changes.map Change.statement) ∧
          compiled.query = ";".intercalate texts ∧
          List.Forall₂ (Change.Writes config) changes texts ∧
          (build config verb schema).notes.filter (fun note => note.level = .warning) =
            (changes.filter Change.leafless).map Change.warning) ∧
    (∀ (join : Join) (table condition : Sql),
      (Table.reference join.table.toValue).result = .ok table → join.on.result = .ok condition →
        (join.clause.result = .error (.clause .join (.emptyJoin table.text) []) ↔
          join.leafless = true)) := by
  refine ⟨fun spec sql taken h => Where.condition_eq_empty_iff h taken, ?_,
    fun join _ _ => join.clause_emptyJoin_iff⟩
  intro config verb schema compiled hverb h
  obtain ⟨statements, texts, hread, hgives, hcompiled⟩ := build_ok h
  obtain ⟨changes, rfl⟩ := Verb.exists_changes hverb hread
  obtain ⟨start, hstart, hnotes⟩ := build_notes hread h
  obtain ⟨hwrites, hlogged⟩ := ((Compiled.members_yields 0 _).of_gives hgives).changes
  have hwarnings : ∀ note ∈ (changes.filter Change.leafless).map Change.warning,
      decide (note.level = .warning) = true := by
    intro note hnote
    obtain ⟨c, -, rfl⟩ := List.mem_map.1 hnote
    cases c <;> rfl
  refine ⟨changes, texts, hread, congrArg Compiled.query hcompiled, hwrites, ?_⟩
  rw [hnotes, hlogged, List.cons_append, List.filter_cons_of_neg (by rw [hstart]; decide),
    List.filter_append, List.filter_eq_self.2 hwarnings]
  exact List.append_nil _

/-- Deletes all words, since its condition has no leaf. -/
def clearing : Value :=
  .mapping [(.text "from", .text "words"),
    (.text "where", .mapping [(.text "or", .mapping [(.text "kind", .unset)])])]

def baseless : Join where
  type := .inner
  table := .text "kinds"
  condition := some (.mapping [("kind", .mapping [])])
  pairs := none

theorem clearing_warns :
    (∃ sql, (Where.condition (.mapping [(.text "id", .int 7)])).result = .ok sql ∧
      sql.write 0 ≠ "") ∧
    (∃ changes : List Change, Verb.read .delete clearing = .ok (changes.map Change.statement) ∧
      (build {} .delete clearing).notes.filter (fun note => note.level = .warning) =
        (changes.filter Change.leafless).map Change.warning) ∧
    baseless.clause.result = .error (.clause .join (.emptyJoin "kinds") []) := by
  obtain ⟨hconditions, hbuilds, hjoins⟩ := leafless_iff_unfiltered
  refine ⟨⟨_, rfl, ?_⟩, ?_, ?_⟩
  · exact (not_congr (hconditions (.mapping [(.text "id", .int 7)]) _ 0 rfl)).2 (by decide)
  · have hbuild : (build {} .delete clearing).result =
        .ok ⟨"DELETE FROM words", [], false⟩ := by
      rfl
    obtain ⟨changes, texts, hread, -, -, hnotes⟩ :=
      hbuilds {} .delete clearing _ (.inr rfl) hbuild
    exact ⟨changes, hread, hnotes⟩
  · exact (hjoins baseless (.verbatim "kinds") .empty rfl rfl).2 (by decide)

end ParamSql
