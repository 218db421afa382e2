import ParamSql.Builder
import ParamSql.Proofs.Results
import ParamSql.Proofs.Statement.Members

/-!
From schemas to compiled statements.

A `Statement` is a checked schema of any kind. Building reads a schema into statements and writes
their drafts one behind the other: a single statement is a batch of one (`build_ok`).
-/

namespace ParamSql

inductive Statement where
  | select (s : Select)
  | create (c : Create)
  | update (u : Update)
  | delete (d : Delete)

namespace Statement

def draft (config : Config) : Statement → Draft Sql
  | select s => s.draft
  | create c => c.draft config
  | update u => u.draft
  | delete d => d.draft

def leaves : Statement → List Value
  | select s => s.leaves
  | create c => c.leaves
  | update u => u.leaves
  | delete d => d.leaves

/-- No name and no verbatim text of the statement has a dollar sign, and no verbatim query binds
values. -/
def Plain : Statement → Prop
  | select s => s.Plain
  | create c => c.Plain
  | update u => u.Plain
  | delete d => d.Plain

/-- Statements of one kind that are equal but for the values that they bind. -/
inductive SameShape : Statement → Statement → Prop where
  | select {s s' : Select} (h : s.SameShape s') : SameShape (select s) (select s')
  | create {c c' : Create} (h : c.SameShape c') : SameShape (create c) (create c')
  | update {u u' : Update} (h : u.SameShape u') : SameShape (update u) (update u')
  | delete {d d' : Delete} (h : d.SameShape d') : SameShape (delete d) (delete d')

theorem draft_binds (config : Config) (s : Statement) :
    (s.draft config).Yields (Binds s.leaves (config.Plain ∧ s.Plain)) := by
  cases s with
  | select s => exact s.draft_binds.mono fun _ _ h => h.imp And.right
  | create c => exact c.draft_binds config
  | update u => exact u.draft_binds.mono fun _ _ h => h.imp And.right
  | delete d => exact d.draft_binds.mono fun _ _ h => h.imp And.right

theorem draft_inOrder (config : Config) (s : Statement) : (s.draft config).InOrder := by
  cases s with
  | select s => exact s.draft_inOrder
  | create c => exact c.draft_inOrder config
  | update u => exact u.draft_inOrder
  | delete d => exact d.draft_inOrder

theorem drafts_inOrder (config : Config) (statements : List Statement) :
    ∀ draft ∈ statements.map (Statement.draft config), draft.InOrder :=
  List.forall_mem_map.2 fun s _ => s.draft_inOrder config

theorem draft_agree (config : Config) {s s' : Statement} (h : SameShape s s') :
    Draft.Agree Eq (s.draft config) (s'.draft config) := by
  cases h with
  | select h => exact Select.draft_agree h
  | create h => exact Create.draft_agree config h
  | update h => exact Update.draft_agree h
  | delete h => exact Delete.draft_agree h

end Statement

/-! ## Reading schemas -/

namespace Verb

def isBatch : Verb → Bool
  | select | create | update | delete => false
  | creates | updates | deletes => true

/-- The verb that builds a member of a batch alone. -/
def member : Verb → Verb
  | creates => create
  | updates => update
  | deletes => delete
  | verb => verb

def schema : Verb → SchemaName
  | select => .select
  | create | creates => .create
  | update | updates => .update
  | delete | deletes => .delete

def check : Verb → Check Statement
  | select => Select.check.map .select
  | create | creates => Create.check.map .create
  | update | updates => Update.check.map .update
  | delete | deletes => Delete.check.map .delete

def parse (verb : Verb) (schema : Value) : Except Error Statement :=
  verb.schema.parse verb.check schema

/-- A schema, or the schemas of a batch, read into statements. -/
def read (verb : Verb) (schema : Value) : Except Error (List Statement) :=
  if verb.isBatch then
    match schema.elements? with
    | some items => items.mapM verb.parse
    | none => .error (.misuse (.notIterable schema))
  else (verb.parse schema).map fun s => [s]

end Verb

/-! ## Building -/

variable {config : Config} {verb : Verb} {schema : Value}

theorem SchemaName.parse_map {α β : Type} (self : SchemaName) (check : Check α) (f : α → β)
    (raw : Value) : self.parse (check.map f) raw = (self.parse check raw).map f := by
  rw [parse, parse, Check.map]
  cases check raw <;> rfl

theorem buildOne_map {α : Type} (self : SchemaName) (check : Check α) (f : α → Statement)
    {draft : α → Draft Sql} (hdraft : ∀ a, draft a = (f a).draft config) :
    buildOne config verb self check draft schema =
      match self.parse (check.map f) schema with
      | .ok s => Compiled.single config verb (s.draft config)
      | .error e => .fail e := by
  rw [buildOne, SchemaName.parse_map]
  cases self.parse check schema with
  | ok a =>
    show Compiled.single config verb (draft a) = _
    rw [hdraft a]
    rfl
  | error e => rfl

theorem build_single (h : verb.isBatch = false) :
    build config verb schema =
      match verb.parse schema with
      | .ok s => Compiled.single config verb (s.draft config)
      | .error e => .fail e := by
  cases verb <;> first
    | exact buildOne_map _ _ _ fun _ => rfl
    | nomatch h

theorem parseAll_map {α β : Type} (self : SchemaName) (check : Check α) (f : α → β)
    (schemas : Value) :
    parseAll self (check.map f) schemas = (parseAll self check schemas).map (List.map f) := by
  rw [parseAll, parseAll]
  cases schemas.elements? with
  | none => rfl
  | some items =>
    have hparse : self.parse (check.map f) = fun item => (self.parse check item).map f :=
      funext fun item => self.parse_map check f item
    show items.mapM (self.parse (check.map f)) = (items.mapM (self.parse check)).map (List.map f)
    rw [hparse, mapM_map]

theorem buildBatch_map {α : Type} (self : SchemaName) (check : Check α) (f : α → Statement)
    {draft : α → Draft Sql} (hdraft : ∀ a, draft a = (f a).draft config) :
    buildBatch config verb self check draft schema =
      match parseAll self (check.map f) schema with
      | .ok statements => Compiled.batch config verb (statements.map (Statement.draft config))
      | .error e => .fail e := by
  rw [buildBatch, parseAll_map]
  cases parseAll self check schema with
  | ok as =>
    show Compiled.batch config verb (as.map draft) =
      Compiled.batch config verb ((as.map f).map (Statement.draft config))
    rw [List.map_map, funext hdraft]
    rfl
  | error e => rfl

theorem build_batch (h : verb.isBatch = true) :
    build config verb schema =
      match verb.read schema with
      | .ok statements => Compiled.batch config verb (statements.map (Statement.draft config))
      | .error e => .fail e := by
  cases verb <;> first
    | exact buildBatch_map _ _ _ fun _ => rfl
    | nomatch h

/-! ## Compiled statements -/

namespace Compiled

theorem single_result (config : Config) (verb : Verb) {draft : Draft Sql} (h : draft.InOrder) :
    (single config verb draft).result =
      draft.result.map fun sql => ⟨Text.collapse (sql.write 0), draft.bound, false⟩ := by
  rw [single_eq h]
  cases draft.result <;> rfl

/-- The text of a batch is collapsed as it stands, since those of its members are. -/
theorem batch_result (config : Config) (verb : Verb) {drafts : List (Draft Sql)}
    (hne : drafts ≠ []) (h : ∀ draft ∈ drafts, draft.InOrder) :
    (batch config verb drafts).result =
      (members 0 drafts).result.map fun texts =>
        ⟨";".intercalate texts, (members 0 drafts).bound, true⟩ := by
  rw [batch_eq hne h]
  cases hresult : (members 0 drafts).result with
  | ok texts =>
    have hcollapsed := (members_yields 0 drafts texts hresult).collapsed
    dsimp only
    rw [Text.collapse_of_collapsed (Text.Collapsed.intercalate hcollapsed)]
    rfl
  | error e => rfl

variable {compiled : Compiled}

/-- A single statement is a batch of one. -/
theorem single_ok {draft : Draft Sql} (hdraft : draft.InOrder)
    (h : (single config verb draft).result = .ok compiled) :
    ∃ texts, (members 0 [draft]).Gives compiled.values texts ∧
      compiled = ⟨";".intercalate texts, compiled.values, false⟩ := by
  rw [single_result config verb hdraft] at h
  obtain ⟨sql, hsql, rfl⟩ := exists_of_map_eq_ok h
  refine ⟨[Text.collapse (sql.write 0)], ?_, ?_⟩
  · have hall : (members 0 [draft]).Gives (draft.bound ++ []) [Text.collapse (sql.write 0)] := by
      rw [members]
      exact Draft.Gives.bind ⟨hsql, rfl⟩ ⟨rfl, rfl⟩
    rwa [List.append_nil] at hall
  · rw [String.intercalate_singleton]

theorem batch_ok {drafts : List (Draft Sql)} (hdrafts : ∀ draft ∈ drafts, draft.InOrder)
    (h : (batch config verb drafts).result = .ok compiled) :
    ∃ texts, (members 0 drafts).Gives compiled.values texts ∧
      compiled = ⟨";".intercalate texts, compiled.values, true⟩ := by
  have hne : drafts ≠ [] := by
    rintro rfl
    cases h
  rw [batch_result config verb hne hdrafts] at h
  obtain ⟨texts, htexts, rfl⟩ := exists_of_map_eq_ok h
  exact ⟨texts, ⟨htexts, rfl⟩, rfl⟩

end Compiled

/-- A compiled statement is the texts of its members with semicolons between them, and the values
that the members bind. -/
theorem build_ok {compiled : Compiled} (h : (build config verb schema).result = .ok compiled) :
    ∃ statements texts, verb.read schema = .ok statements ∧
      (Compiled.members 0 (statements.map (Statement.draft config))).Gives compiled.values texts ∧
      compiled = ⟨";".intercalate texts, compiled.values, verb.isBatch⟩ := by
  cases hbatch : verb.isBatch with
  | true =>
    rw [build_batch hbatch] at h
    cases hread : verb.read schema with
    | ok statements =>
      rw [hread] at h
      have hdrafts := Statement.drafts_inOrder config statements
      obtain ⟨texts, hmembers, hcompiled⟩ := Compiled.batch_ok hdrafts h
      exact ⟨statements, texts, rfl, hmembers, hcompiled⟩
    | error e =>
      rw [hread] at h
      cases h
  | false =>
    rw [build_single hbatch] at h
    cases hparse : verb.parse schema with
    | ok s =>
      rw [hparse] at h
      obtain ⟨texts, hmembers, hcompiled⟩ := Compiled.single_ok (s.draft_inOrder config) h
      have hread : verb.read schema = .ok [s] := by
        rw [Verb.read, hbatch, if_neg Bool.false_ne_true, hparse]
        rfl
      exact ⟨[s], texts, hread, hmembers, hcompiled⟩
    | error e =>
      rw [hparse] at h
      cases h

/-- The text of a compiled statement is in normal form. -/
theorem collapsed_build {config : Config} {verb : Verb} {schema : Value} {compiled : Compiled}
    (h : (build config verb schema).result = .ok compiled) :
    Text.Collapsed compiled.query.toList := by
  obtain ⟨statements, texts, -, hmembers, hcompiled⟩ := build_ok h
  have hquery : compiled.query = ";".intercalate texts := by rw [hcompiled]
  have htexts := (Compiled.members_yields 0 _).of_gives hmembers
  rw [hquery]
  exact Text.Collapsed.intercalate htexts.collapsed

end ParamSql
