import ParamSql.Proofs.Statement.Refusal

/-!
Which table names a statement has to have.

A statement compiles if its table, its joins and its other clauses do, each for itself
(`Select.draft_succeeds_iff`). Of a table only a plain name is checked, and a blank one is refused;
what an alias stands for, and the tables that rows are put into, changed in or taken from, may have
any name. So a statement compiles exactly if its plain names are not blank and it compiles when all
of its tables are given one and the same name (`Statement.draft_succeeds_iff`,
`build_checks_plain_tables`).
-/

namespace ParamSql

/-! ## Drafts that succeed -/

namespace Draft

variable {α β : Type}

/-- The draft comes to a result. -/
def Succeeds (x : Draft α) : Prop :=
  ∃ a, x.result = .ok a

theorem Succeeds.pure' (a : α) : Succeeds (pure a) :=
  ⟨a, rfl⟩

theorem not_succeeds_fault (clause : ClauseName) (cause : ClauseFault) (path : List String) :
    ¬ Succeeds (fault clause cause path : Draft α) :=
  fun ⟨_, h⟩ => nomatch h

theorem not_succeeds_iff {x : Draft α} : ¬ x.Succeeds ↔ ∃ e, x.result = .error e := by
  unfold Succeeds
  cases x.result <;> simp

/-- Of two steps the second one may succeed or not whatever the first one comes to. -/
theorem succeeds_bind_iff {x : Draft α} {f : α → Draft β} {p : Prop}
    (hf : ∀ a, (f a).Succeeds ↔ p) : (x >>= f).Succeeds ↔ x.Succeeds ∧ p := by
  unfold Succeeds at hf ⊢
  cases hx : x.result with
  | ok a => simp [bind_result_ok hx, hf a]
  | error e => simp [bind_result_error hx]

theorem succeeds_bind_pure_iff {x : Draft α} {f : α → β} :
    (x >>= fun a => pure (f a)).Succeeds ↔ x.Succeeds := by
  rw [succeeds_bind_iff fun a => iff_true_intro (.pure' (f a)), and_true]

theorem succeeds_mapM_iff {f : α → Draft β} {as : List α} :
    (as.mapM f).Succeeds ↔ ∀ a ∈ as, (f a).Succeeds := by
  induction as with
  | nil =>
    rw [List.mapM_nil]
    exact iff_of_true (.pure' _) nofun
  | cons a rest ih =>
    rw [List.mapM_cons, succeeds_bind_iff fun b => succeeds_bind_pure_iff, ih,
      List.forall_mem_cons]

end Draft

open Draft

/-! ## Tables and joins -/

namespace Table

/-- The name of a table that is given as such. -/
def plainName? : Spec → Option String
  | .text s => some s
  | .mapping _ => none

def aliased? : Spec → Option String
  | .mapping [(label, target)] => if label = rawKey then none else target.text?
  | _ => none

/-- The name of a table, plain or behind an alias. -/
def name? (spec : Spec) : Option String :=
  (plainName? spec).or (aliased? spec)

/-- The table under another name, if it has one. -/
def renamed (table : String) : Spec → Spec
  | .text _ => .text table
  | .mapping [(label, target)] =>
    if (aliased? (.mapping [(label, target)])).isSome then .mapping [(label, .text table)]
    else .mapping [(label, target)]
  | spec => spec

theorem name?_renamed (table : String) (spec : Spec) :
    name? (renamed table spec) = (name? spec).map fun _ => table := by
  rcases spec with s | es
  · rfl
  · rcases es with _ | ⟨⟨label, target⟩, _ | ⟨e, rest⟩⟩
    · rfl
    · rw [renamed]
      split
      · next haliased =>
        obtain ⟨s, hs⟩ := Option.isSome_iff_exists.1 haliased
        have hlabel : label ≠ rawKey := by
          rintro rfl
          cases hs
        have hname : name? (.mapping [(label, target)]) = some s := hs
        rw [hname]
        exact if_neg hlabel
      · next haliased =>
        have hname : name? (.mapping [(label, target)]) = none :=
          Option.not_isSome_iff_eq_none.1 haliased
        rw [hname]
        rfl
    · rfl

theorem text_succeeds_iff (s : String) :
    (reference (.text s)).Succeeds ↔ Text.isBlank s = false := by
  unfold reference
  dsimp only [Value.text?]
  cases Text.isBlank s with
  | true => exact iff_of_false (not_succeeds_fault _ _ _) Bool.noConfusion
  | false => exact iff_of_true (.pure' _) rfl

/-- An alias of one table is as good as that of another. -/
theorem reference_aliased_succeeds {label : String} {target : Value} {s : String}
    (h : aliased? (.mapping [(label, target)]) = some s) :
    (reference (.mapping [(.text label, target)])).Succeeds := by
  rw [aliased?] at h
  split at h
  · cases h
  · next hlabel =>
    have hraw : Value.lookupText rawKey (Spec.textEntries [(label, target)]) = none := by
      rw [Spec.lookupText_textEntries_cons, if_neg hlabel]
      rfl
    rw [reference_alias hraw, aliased, h]
    exact .pure' _

/-- A table can be referred to if its plain name is not blank and if it can be referred to under
another name. -/
theorem reference_succeeds_iff {table : String} (htable : Text.isBlank table = false)
    (spec : Spec) :
    (reference spec.toValue).Succeeds ↔
      (∀ name ∈ plainName? spec, Text.isBlank name = false) ∧
        (reference (renamed table spec).toValue).Succeeds := by
  rcases spec with s | es
  · have hother : (reference (.text table)).Succeeds := (text_succeeds_iff table).2 htable
    show (reference (.text s)).Succeeds ↔
      (∀ name ∈ some s, Text.isBlank name = false) ∧ (reference (.text table)).Succeeds
    rw [text_succeeds_iff]
    simp [hother]
  · have hplain : ∀ name ∈ plainName? (.mapping es), Text.isBlank name = false := nofun
    refine Iff.trans ?_ (and_iff_right hplain).symm
    rcases es with _ | ⟨⟨label, target⟩, _ | ⟨e, rest⟩⟩
    · exact Iff.rfl
    · rw [renamed]
      split
      · next haliased =>
        obtain ⟨s, hs⟩ := Option.isSome_iff_exists.1 haliased
        have hlabel : label ≠ rawKey := by
          rintro rfl
          cases hs
        exact iff_of_true (reference_aliased_succeeds hs)
          (reference_aliased_succeeds (s := table) (if_neg hlabel))
      · exact Iff.rfl
    · exact Iff.rfl

end Table

namespace Join

def renamed (table : String) (join : Join) : Join :=
  { join with table := Table.renamed table join.table }

/-- Whether a condition is blank is not a matter of the table. -/
theorem clause_succeeds_iff (join : Join) :
    join.clause.Succeeds ↔
      (Table.reference join.table.toValue).Succeeds ∧
        ∃ condition, join.on.result = .ok condition ∧ condition.isBlankBy Text.isBlank = false := by
  rw [clause]
  refine succeeds_bind_iff fun table => ?_
  cases hon : join.on.result with
  | error e =>
    refine iff_of_false (not_succeeds_iff.2 ⟨e, bind_result_error hon⟩) ?_
    rintro ⟨_, h, -⟩
    cases h
  | ok condition =>
    rw [Succeeds, bind_result_ok hon]
    cases hblank : condition.isBlankBy Text.isBlank with
    | true =>
      refine iff_of_false nofun ?_
      rintro ⟨_, h, hshown⟩
      obtain rfl := Except.ok.inj h
      rw [hblank] at hshown
      cases hshown
    | false => exact iff_of_true ⟨_, rfl⟩ ⟨condition, rfl, hblank⟩

theorem renamed_succeeds_iff {table : String} (htable : Text.isBlank table = false) (join : Join) :
    join.clause.Succeeds ↔
      (∀ name ∈ Table.plainName? join.table, Text.isBlank name = false) ∧
        (join.renamed table).clause.Succeeds := by
  rw [clause_succeeds_iff, clause_succeeds_iff, Table.reference_succeeds_iff htable, and_assoc]
  rfl

end Join

/-! ## Statements -/

theorem counted_succeeds (keyword : String) (n : Option Nat) : (counted keyword n).Succeeds := by
  cases n with
  | none => exact .pure' _
  | some n => exact succeeds_bind_pure_iff.2 ⟨_, rfl⟩

namespace OneOrMany

variable {α : Type}

def mapEach (f : α → α) : OneOrMany α → OneOrMany α
  | one a => one (f a)
  | many as => many (as.map f)

theorem toList_mapEach (f : α → α) (x : OneOrMany α) : (x.mapEach f).toList = x.toList.map f := by
  cases x <;> rfl

end OneOrMany

namespace Select

def renamed (table : String) (s : Select) : Select :=
  { s with
    table := Table.renamed table s.table
    join := s.join.map (OneOrMany.mapEach (Join.renamed table)) }

theorem joins_renamed (table : String) (s : Select) :
    (s.renamed table).joins = s.joins.map (Join.renamed table) := by
  rw [joins, joins, renamed]
  cases s.join with
  | none => rfl
  | some joins => exact joins.toList_mapEach _

/-- The tables of a SELECT as they stand in it, that of each join after that of the statement. -/
def tables (s : Select) : List Spec :=
  s.table :: s.joins.map Join.table

theorem tables_renamed (table : String) (s : Select) :
    (s.renamed table).tables = s.tables.map (Table.renamed table) := by
  rw [tables, tables, joins_renamed, List.map_cons, List.map_map, List.map_map]
  rfl

/-- A SELECT compiles if it has columns and every clause of it compiles. -/
theorem draft_succeeds_iff (s : Select) :
    s.draft.Succeeds ↔
      s.columns.toList.isEmpty = false ∧ (Table.reference s.table.toValue).Succeeds ∧
        (∀ join ∈ s.joins, join.clause.Succeeds) ∧ (Where.clause (specValue s.condition)).Succeeds ∧
        (Order.clause (optionValue (OneOrMany.toValue Spec.toValue) s.order)).Succeeds := by
  rw [draft]
  dsimp only
  cases s.columns.toList.isEmpty with
  | true => exact iff_of_false (not_succeeds_fault _ _ _) fun h => Bool.noConfusion h.1
  | false =>
    rw [if_neg Bool.false_ne_true, and_iff_right rfl]
    refine succeeds_bind_iff fun table => ?_
    rw [← succeeds_mapM_iff]
    refine succeeds_bind_iff fun joins => succeeds_bind_iff fun condition => ?_
    have hlast : ∀ (order : Sql) (f : Sql → Sql → Sql),
        (counted "LIMIT " s.limit >>= fun limit =>
          counted "OFFSET " s.offset >>= fun offset => pure (f limit offset)).Succeeds ↔ True :=
      fun order f =>
        (succeeds_bind_iff fun limit => succeeds_bind_pure_iff).trans
          (iff_of_true ⟨counted_succeeds _ _, counted_succeeds _ _⟩ trivial)
    rw [succeeds_bind_iff fun order => hlast order _, and_true]

theorem forall_mem_filterMap_iff {α β : Type} {f : α → Option β} {as : List α} {p : β → Prop} :
    (∀ b ∈ as.filterMap f, p b) ↔ ∀ a ∈ as, ∀ b ∈ f a, p b := by
  simp only [List.mem_filterMap]
  exact ⟨fun h a ha b hb => h b ⟨a, ha, hb⟩, fun h b ⟨a, ha, hb⟩ => h a ha b hb⟩

/-- Only plain names matter to whether a SELECT compiles. -/
theorem renamed_succeeds_iff {table : String} (htable : Text.isBlank table = false) (s : Select) :
    s.draft.Succeeds ↔
      (∀ name ∈ s.tables.filterMap Table.plainName?, Text.isBlank name = false) ∧
        (s.renamed table).draft.Succeeds := by
  have hjoins : (∀ join ∈ s.joins, join.clause.Succeeds) ↔
      (∀ join ∈ s.joins, ∀ name ∈ Table.plainName? join.table, Text.isBlank name = false) ∧
        ∀ join ∈ (s.renamed table).joins, join.clause.Succeeds := by
    rw [joins_renamed, List.forall_mem_map, ← forall₂_and]
    exact forall₂_congr fun join _ => join.renamed_succeeds_iff htable
  have hplain : (∀ name ∈ s.tables.filterMap Table.plainName?, Text.isBlank name = false) ↔
      (∀ name ∈ Table.plainName? s.table, Text.isBlank name = false) ∧
        ∀ join ∈ s.joins, ∀ name ∈ Table.plainName? join.table, Text.isBlank name = false := by
    rw [forall_mem_filterMap_iff, tables, List.forall_mem_cons, List.forall_mem_map]
  rw [draft_succeeds_iff, draft_succeeds_iff, hplain, hjoins,
    Table.reference_succeeds_iff htable s.table]
  show _ ↔ _ ∧ s.columns.toList.isEmpty = false ∧
    (Table.reference (Table.renamed table s.table).toValue).Succeeds ∧ _ ∧
    (Where.clause (specValue s.condition)).Succeeds ∧
    (Order.clause (optionValue (OneOrMany.toValue Spec.toValue) s.order)).Succeeds
  tauto

end Select

theorem restriction_succeeds_iff (verb : Verb) (table : String) (condition : Option Spec) :
    (restriction verb table condition).Succeeds ↔
      (Where.clause (specValue condition)).Succeeds := by
  rw [restriction, succeeds_bind_iff (p := True) fun clause => iff_of_true ?_ trivial, and_true]
  split
  · exact ⟨_, rfl⟩
  · exact .pure' _

namespace Statement

def renamed (table : String) : Statement → Statement
  | select s => select (s.renamed table)
  | create c => create { c with table }
  | update u => update { u with table }
  | delete d => delete { d with table }

/-- The table names of a statement, plain or behind an alias. -/
def tableNames : Statement → List String
  | select s => s.tables.filterMap Table.name?
  | create c => [c.table]
  | update u => [u.table]
  | delete d => [d.table]

/-- The table names of a statement that are plain table references. -/
def plainNames : Statement → List String
  | select s => s.tables.filterMap Table.plainName?
  | create _ | update _ | delete _ => []

theorem tableNames_renamed (table : String) (s : Statement) :
    (s.renamed table).tableNames = s.tableNames.map fun _ => table := by
  cases s with
  | select s =>
    rw [renamed, tableNames, tableNames, s.tables_renamed, List.filterMap_map, List.map_filterMap]
    exact List.filterMap_congr fun spec _ => Table.name?_renamed table spec
  | _ => rfl

/-- A statement compiles exactly if its plain names are not blank and it compiles with another name
in place of each of its names. -/
theorem draft_succeeds_iff (config : Config) {table : String}
    (htable : Text.isBlank table = false) (s : Statement) :
    (s.draft config).Succeeds ↔
      (∀ name ∈ s.plainNames, Text.isBlank name = false) ∧
        ((s.renamed table).draft config).Succeeds := by
  cases s with
  | select s => exact s.renamed_succeeds_iff htable
  | create c =>
    refine Iff.trans ?_ (and_iff_right (nofun : ∀ name ∈ [], Text.isBlank name = false)).symm
    exact succeeds_bind_pure_iff.trans succeeds_bind_pure_iff.symm
  | update u =>
    refine Iff.trans ?_ (and_iff_right (nofun : ∀ name ∈ [], Text.isBlank name = false)).symm
    have hdraft : ∀ table, (Update.draft { u with table }).Succeeds ↔
        (Assignment.set (Spec.mapping u.assignments).toValue).Succeeds ∧
          (Where.clause (specValue u.condition)).Succeeds := fun table =>
      succeeds_bind_iff fun _ => succeeds_bind_pure_iff.trans (restriction_succeeds_iff _ _ _)
    exact (hdraft u.table).trans (hdraft table).symm
  | delete d =>
    refine Iff.trans ?_ (and_iff_right (nofun : ∀ name ∈ [], Text.isBlank name = false)).symm
    have hdraft : ∀ table, (Delete.draft { d with table }).Succeeds ↔
        (Where.clause (specValue d.condition)).Succeeds := fun table =>
      succeeds_bind_pure_iff.trans (restriction_succeeds_iff _ _ _)
    exact (hdraft d.table).trans (hdraft table).symm

end Statement

/-! ## Building -/

theorem Compiled.members_succeeds_iff (taken : Nat) (drafts : List (Draft Sql)) :
    (members taken drafts).Succeeds ↔ ∀ draft ∈ drafts, draft.Succeeds := by
  induction drafts generalizing taken with
  | nil => exact iff_of_true (.pure' _) nofun
  | cons draft rest ih =>
    rw [members, succeeds_bind_iff fun sql => succeeds_bind_pure_iff, ih, List.forall_mem_cons]

theorem Verb.read_single {verb : Verb} {schema : Value} {statements : List Statement}
    (hbatch : verb.isBatch = false) (hread : verb.read schema = .ok statements) :
    ∃ s, verb.parse schema = .ok s ∧ statements = [s] := by
  rw [read, hbatch, if_neg Bool.false_ne_true] at hread
  obtain ⟨s, hs, rfl⟩ := exists_of_map_eq_ok hread
  exact ⟨s, hs, rfl⟩

section Build

variable {config : Config} {verb : Verb} {schema : Value} {statements : List Statement}

/-- What was read compiles if there is a statement and if each of them compiles. -/
theorem build_succeeds_iff (config : Config) (hread : verb.read schema = .ok statements) :
    (∃ compiled, (build config verb schema).result = .ok compiled) ↔
      statements ≠ [] ∧ ∀ s ∈ statements, (s.draft config).Succeeds := by
  have hmap : ∀ {α : Type} {x : Draft α} {f : α → Compiled},
      (∃ compiled, x.result.map f = .ok compiled) ↔ x.Succeeds := by
    intro α x f
    unfold Succeeds
    cases x.result <;> simp [Except.map]
  cases hbatch : verb.isBatch with
  | false =>
    obtain ⟨s, hparse, rfl⟩ := Verb.read_single hbatch hread
    rw [build_single hbatch, hparse]
    dsimp only
    rw [Compiled.single_result _ _ (s.draft_inOrder config), hmap]
    simp
  | true =>
    rw [build_batch hbatch, hread]
    dsimp only
    by_cases hempty : statements = []
    · subst hempty
      exact iff_of_false (fun ⟨_, h⟩ => nomatch h) fun h => h.1 rfl
    · have hdrafts : statements.map (Statement.draft config) ≠ [] := by
        rwa [ne_eq, List.map_eq_nil_iff]
      have hinOrder := Statement.drafts_inOrder config statements
      rw [Compiled.batch_result config verb hdrafts hinOrder, hmap, Compiled.members_succeeds_iff,
        List.forall_mem_map, and_iff_right hempty]

/-- What was read is refused with a fault, or because of the alias of a verbatim query. -/
theorem build_refuses (hread : verb.read schema = .ok statements) {e : Error}
    (h : (build config verb schema).result = .error e) :
    e.IsFault ∨ ∃ s ∈ statements, ∃ v, s.Misnamed v ∧ e = .misuse (.notName v) := by
  have hdraft : ∀ s ∈ statements, (s.draft config).result = .error e →
      e.IsFault ∨ ∃ s ∈ statements, ∃ v, s.Misnamed v ∧ e = .misuse (.notName v) :=
    fun s hs he => (s.draft_refuses config e he).imp_right fun hname => ⟨s, hs, hname⟩
  cases hbatch : verb.isBatch with
  | false =>
    obtain ⟨s, hparse, rfl⟩ := Verb.read_single hbatch hread
    rw [build_single hbatch, hparse] at h
    dsimp only at h
    rw [Compiled.single_result _ _ (s.draft_inOrder config)] at h
    exact hdraft s List.mem_cons_self (eq_error_of_map h)
  | true =>
    rw [build_batch hbatch, hread] at h
    have hdrafts := Statement.drafts_inOrder config statements
    rcases Compiled.batch_error_cases hdrafts h with hfault | ⟨draft, hmem, herror⟩
    · exact .inl hfault
    · obtain ⟨s, hs, rfl⟩ := List.mem_map.1 hmem
      exact hdraft s hs herror

/-- A blank name in a plain table reference, that of a SELECT or of one of its joins, is refused.
No other table name makes a difference: a statement with another name in place of all of its names
compiles just as well. -/
theorem build_checks_plain_tables (config : Config) (hread : verb.read schema = .ok statements)
    {table : String} (htable : Text.isBlank table = false) :
    ((∃ compiled, (build config verb schema).result = .ok compiled) ↔
      statements ≠ [] ∧ ∀ s ∈ statements,
        (∀ name ∈ s.plainNames, Text.isBlank name = false) ∧
          ((s.renamed table).draft config).Succeeds) ∧
    (∀ s ∈ statements, (s.renamed table).tableNames = s.tableNames.map fun _ => table) ∧
    ∀ s ∈ statements, ∀ name ∈ s.plainNames, Text.isBlank name = true →
      ∃ e, (build config verb schema).result = .error e ∧
        (e.IsFault ∨ ∃ s ∈ statements, ∃ v, s.Misnamed v ∧ e = .misuse (.notName v)) := by
  have hiff := (build_succeeds_iff config hread).trans
    (and_congr_right fun _ => forall₂_congr fun s _ => s.draft_succeeds_iff config htable)
  refine ⟨hiff, fun s _ => s.tableNames_renamed table, fun s hs name hname hblank => ?_⟩
  cases hresult : (build config verb schema).result with
  | ok compiled =>
    have hplain := ((hiff.1 ⟨compiled, hresult⟩).2 s hs).1 name hname
    rw [hblank] at hplain
    cases hplain
  | error e => exact ⟨e, rfl, build_refuses hread hresult⟩

end Build

/-- A table behind an alias may be blank, one that is joined by its name may not. -/
theorem build_checks_plain_tables_join :
    let joined (table : String) : Value := .mapping
      [(.text "from", .mapping [(.text "w", .text " ")]),
        (.text "join", .mapping [(.text "to", .text table), (.text "on", .text "true")])]
    (∃ compiled, (build {} .select (joined "kinds")).result = .ok compiled) ∧
      ∃ e, (build {} .select (joined " ")).result = .error e := by
  intro joined
  let read (table : String) : Statement := .select
    ⟨.one "*", .mapping [("w", .text " ")],
      some (.one ⟨.inner, .text table, some (.text "true"), none⟩), none, none, none, none⟩
  have hwords : Text.isBlank "words" = false := by decide
  have hkinds := @build_checks_plain_tables .select (joined "kinds") [read "kinds"] {} rfl _ hwords
  have hblank := @build_checks_plain_tables .select (joined " ") [read " "] {} rfl _ hwords
  obtain ⟨e, he, -⟩ := hblank.2.2 (read " ") List.mem_cons_self " " (by decide) (by decide)
  exact ⟨hkinds.1.2 ⟨List.cons_ne_nil _ _, List.forall_mem_singleton.2 ⟨by decide, _, rfl⟩⟩, e, he⟩

def blankDelete : Value :=
  .mapping [(.text "from", .text "  ")]

/-- It compiles. -/
theorem blank_table_compiles :
    Verb.delete.read blankDelete = .ok [.delete ⟨"  ", none⟩] ∧ Text.isBlank "  " = true ∧
      ∃ compiled, (build {} .delete blankDelete).result = .ok compiled :=
  ⟨rfl, by decide, _, rfl⟩

end ParamSql
