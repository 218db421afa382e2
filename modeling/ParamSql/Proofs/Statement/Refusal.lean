import ParamSql.Proofs.Clause.Refusal
import ParamSql.Proofs.Statement.Build

/-!
How the building of statements fails.

A schema that is refused is reported as an invalid schema or as a fault of a clause. Two things
escape these reports: schemas of a batch that cannot be gone through, and a verbatim query as a
table or in a join whose alias counts as true and is no text (`build_error_cases`).
-/

namespace ParamSql

/-! ## Statements -/

namespace Select

/-- Compiling the SELECT comes to a verbatim query whose alias counts as true and is no text. -/
inductive Misnamed (s : Select) (v : Value) : Prop where
  | table (hcolumns : s.columns.toList.isEmpty = false) (hname : Table.Misnamed s.table v)
  | join {sql : Sql} {before after : List Join} {join : Join}
    (hcolumns : s.columns.toList.isEmpty = false)
    (htable : (Table.reference s.table.toValue).result = .ok sql)
    (hjoins : s.joins = before ++ join :: after)
    (hbefore : ∀ j ∈ before, ∃ sql, j.clause.result = .ok sql)
    (hname : Table.Misnamed join.table v)

/-- How a SELECT fails: with a fault, or because of an alias. -/
def Refusal (s : Select) (e : Error) : Prop :=
  e.IsFault ∨ ∃ v, s.Misnamed v ∧ e = .misuse (.notName v)

theorem counted_refuses (keyword : String) (n : Option Nat) :
    (counted keyword n).Refuses Error.IsFault := by
  cases n with
  | none => exact .pure' _
  | some n => exact .bind' (.ok rfl) fun _ => .pure' _

theorem draft_refuses (s : Select) : s.draft.Refuses s.Refusal := by
  rw [draft]
  dsimp only
  split
  · exact (Draft.Refuses.fault _ _ _).mono fun _ => .inl
  · next hcolumns =>
    have hcolumns := eq_false_of_ne_true hcolumns
    intro e h
    rcases Draft.bind_result_eq_error_iff.1 h with htable | ⟨sql, htable, h⟩
    · rcases Table.reference_refuses s.table e htable with hfault | ⟨v, hv, rfl⟩
      · exact .inl hfault
      · exact .inr ⟨v, .table hcolumns hv, rfl⟩
    · rcases Draft.bind_result_eq_error_iff.1 h with hmapM | ⟨sqls, -, hrest⟩
      · obtain ⟨before, join, after, hjoins, hbefore, hjoin⟩ :=
          Draft.mapM_result_eq_error_iff.1 hmapM
        rcases join.clause_refuses e hjoin with hfault | ⟨v, hv, rfl⟩
        · exact .inl hfault
        · exact .inr ⟨v, .join hcolumns htable hjoins hbefore hv, rfl⟩
      · -- Behind the joins nothing is named.
        refine .inl (Draft.Refuses.bind' (Where.clause_refuses _) (fun condition => ?_) e hrest)
        refine (Order.clause_refuses _).bind' fun order => ?_
        refine (counted_refuses _ _).bind' fun limit => ?_
        exact (counted_refuses _ _).bind' fun offset => .pure' _

theorem draft_misnamed {s : Select} {v : Value} (h : s.Misnamed v) :
    s.draft.result = .error (.misuse (.notName v)) := by
  rw [draft]
  cases h with
  | table hcolumns hname =>
    dsimp only
    rw [hcolumns, if_neg Bool.false_ne_true]
    exact Draft.bind_result_error (Table.reference_misnamed hname)
  | @join sql before after join hcolumns htable hjoins hbefore hname =>
    have hjoin : join.clause.result = .error (.misuse (.notName v)) :=
      Draft.bind_result_error (Table.reference_misnamed hname)
    have hmapM := Draft.mapM_result_eq_error_iff.2 ⟨before, join, after, hjoins, hbefore, hjoin⟩
    dsimp only
    rw [hcolumns, if_neg Bool.false_ne_true, Draft.bind_result_ok htable]
    exact Draft.bind_result_error hmapM

end Select

theorem Create.draft_refuses (config : Config) (c : Create) :
    (c.draft config).Refuses Error.IsFault :=
  (Assignment.values_refuses c.values).bind' fun _ => .pure' _

theorem restriction_refuses (verb : Verb) (table : String) (condition : Option Spec) :
    (restriction verb table condition).Refuses Error.IsFault := by
  refine (Where.clause_refuses _).bind' fun clause => ?_
  split
  · exact .bind' (.ok rfl) fun _ => .pure' _
  · exact .pure' _

theorem Update.draft_refuses (u : Update) : u.draft.Refuses Error.IsFault := by
  refine (Assignment.set_refuses u.assignments).bind' fun assignments => ?_
  exact (restriction_refuses _ _ _).bind' fun _ => .pure' _

theorem Delete.draft_refuses (d : Delete) : d.draft.Refuses Error.IsFault :=
  (restriction_refuses _ _ _).bind' fun _ => .pure' _

namespace Statement

/-- Only a SELECT names what has no name. -/
inductive Misnamed : Statement → Value → Prop where
  | select {s : Select} {v : Value} (h : s.Misnamed v) : Misnamed (.select s) v

/-- How a statement fails: with a fault, or because of an alias. -/
def Refusal (s : Statement) (e : Error) : Prop :=
  e.IsFault ∨ ∃ v, s.Misnamed v ∧ e = .misuse (.notName v)

theorem draft_refuses (config : Config) (s : Statement) :
    (s.draft config).Refuses s.Refusal := by
  cases s with
  | select s =>
    refine s.draft_refuses.mono fun e he => he.imp id ?_
    rintro ⟨v, hv, rfl⟩
    exact ⟨v, .select hv, rfl⟩
  | create c => exact (c.draft_refuses config).mono fun _ => .inl
  | update u => exact u.draft_refuses.mono fun _ => .inl
  | delete d => exact d.draft_refuses.mono fun _ => .inl

end Statement

/-! ## Building -/

/-- The error reports what is wrong with a schema: its structure, or the part that a clause cannot
compile. -/
inductive Error.Reported : Error → Prop where
  | invalidSchema (schema : SchemaName) (issues : List Issue) (raw : Value) :
    Reported (.invalidSchema schema issues raw)
  | fault {e : Error} (h : e.IsFault) : Reported e

theorem Error.not_reported_misuse (cause : Misuse) : ¬ Reported (.misuse cause) := by
  intro h
  cases h with
  | fault hfault => cases hfault

theorem SchemaName.parse_reported {α : Type} {self : SchemaName} {check : Check α} {raw : Value}
    {e : Error} (h : self.parse check raw = .error e) : e.Reported := by
  rw [parse] at h
  split at h
  · cases h
  · obtain rfl := Except.error.inj h
    exact .invalidSchema _ _ _

namespace Verb

variable {config : Config} {verb : Verb} {schema : Value}

/-- What building from a schema asks of a value that the value cannot do. -/
inductive Misuses (verb : Verb) (schema : Value) : Misuse → Prop where
  | notIterable (hbatch : verb.isBatch = true) (hnone : schema.elements? = none) :
    Misuses verb schema (.notIterable schema)
  | notName {s : Statement} {v : Value} (hbatch : verb.isBatch = false)
    (hparse : verb.parse schema = .ok s) (hname : s.Misnamed v) : Misuses verb schema (.notName v)

/-- No member of a batch is a SELECT. -/
theorem not_misnamed_of_batch (hbatch : verb.isBatch = true) {s : Statement}
    (hparse : verb.parse schema = .ok s) (v : Value) : ¬ s.Misnamed v := by
  have hselect : ∀ q, s ≠ .select q := by
    rintro q rfl
    cases verb with
    | select | create | update | delete => cases hbatch
    | creates | updates | deletes =>
      rw [parse, check, SchemaName.parse_map] at hparse
      obtain ⟨_, -, hs⟩ := exists_of_map_eq_ok hparse
      cases hs
  rintro ⟨_⟩
  exact hselect _ rfl

theorem read_batch_error (hbatch : verb.isBatch = true) {e : Error}
    (h : verb.read schema = .error e) :
    e.Reported ∨ schema.elements? = none ∧ e = .misuse (.notIterable schema) := by
  rw [read, if_pos hbatch] at h
  cases helements : schema.elements? with
  | none =>
    rw [helements] at h
    exact .inr ⟨rfl, (Except.error.inj h).symm⟩
  | some items =>
    rw [helements] at h
    obtain ⟨item, -, hitem⟩ := exists_of_mapM_eq_error h
    exact .inl (SchemaName.parse_reported hitem)

/-- Every statement of a batch is one of its members, read. -/
theorem read_batch_mem (hbatch : verb.isBatch = true) {statements : List Statement}
    (h : verb.read schema = .ok statements) {s : Statement} (hs : s ∈ statements) :
    ∃ item, verb.parse item = .ok s := by
  rw [read, if_pos hbatch] at h
  cases helements : schema.elements? with
  | none =>
    rw [helements] at h
    cases h
  | some items =>
    rw [helements] at h
    obtain ⟨i, hi, rfl⟩ := List.mem_iff_getElem.1 hs
    have hmembers := forall₂_of_mapM_eq_ok h
    have hlength := hmembers.length_eq
    exact ⟨items[i], (List.forall₂_iff_get.1 hmembers).2 i (by omega) hi⟩

end Verb

namespace Compiled

theorem exists_of_members_error {drafts : List (Draft Sql)} {taken : Nat} {e : Error}
    (h : (members taken drafts).result = .error e) : ∃ draft ∈ drafts, draft.result = .error e := by
  induction drafts generalizing taken with
  | nil => cases h
  | cons draft rest ih =>
    rw [members] at h
    rcases Draft.bind_result_eq_error_iff.1 h with hdraft | ⟨sql, -, h⟩
    · exact ⟨draft, List.mem_cons_self, hdraft⟩
    · rcases Draft.bind_result_eq_error_iff.1 h with hrest | ⟨texts, -, hpure⟩
      · obtain ⟨d, hmem, hd⟩ := ih hrest
        exact ⟨d, List.mem_cons_of_mem draft hmem, hd⟩
      · cases hpure

theorem batch_error_cases {config : Config} {verb : Verb} {drafts : List (Draft Sql)} {e : Error}
    (hdrafts : ∀ draft ∈ drafts, draft.InOrder) (h : (batch config verb drafts).result = .error e) :
    e.IsFault ∨ ∃ draft ∈ drafts, draft.result = .error e := by
  by_cases hempty : drafts = []
  · rw [batch, hempty] at h
    obtain rfl := Except.error.inj h
    exact .inl (.fault _ _ _)
  · rw [batch_result config verb hempty hdrafts] at h
    exact .inr (exists_of_members_error (eq_error_of_map h))

end Compiled

theorem build_single_error {config : Config} {verb : Verb} {schema : Value} {e : Error}
    (hbatch : verb.isBatch = false) (h : (build config verb schema).result = .error e) :
    e.Reported ∨ ∃ cause, verb.Misuses schema cause ∧ e = .misuse cause := by
  rw [build_single hbatch] at h
  cases hparse : verb.parse schema with
  | error e' =>
    rw [hparse] at h
    obtain rfl := Except.error.inj h
    exact .inl (SchemaName.parse_reported hparse)
  | ok s =>
    rw [hparse] at h
    dsimp only at h
    rw [Compiled.single_result _ _ (s.draft_inOrder config)] at h
    rcases s.draft_refuses config e (eq_error_of_map h) with hfault | ⟨v, hv, rfl⟩
    · exact .inl (.fault hfault)
    · exact .inr ⟨_, .notName hbatch hparse hv, rfl⟩

theorem build_batch_error {config : Config} {verb : Verb} {schema : Value} {e : Error}
    (hbatch : verb.isBatch = true) (h : (build config verb schema).result = .error e) :
    e.Reported ∨ ∃ cause, verb.Misuses schema cause ∧ e = .misuse cause := by
  rw [build_batch hbatch] at h
  cases hread : verb.read schema with
  | error e' =>
    rw [hread] at h
    obtain rfl := Except.error.inj h
    rcases Verb.read_batch_error hbatch hread with hreported | ⟨helements, rfl⟩
    · exact .inl hreported
    · exact .inr ⟨_, .notIterable hbatch helements, rfl⟩
  | ok statements =>
    rw [hread] at h
    have hdrafts := Statement.drafts_inOrder config statements
    rcases Compiled.batch_error_cases hdrafts h with hfault | ⟨draft, hmem, hdraft⟩
    · exact .inl (.fault hfault)
    · obtain ⟨s, hs, rfl⟩ := List.mem_map.1 hmem
      obtain ⟨item, hitem⟩ := Verb.read_batch_mem hbatch hread hs
      rcases s.draft_refuses config e hdraft with hfault | ⟨v, hv, -⟩
      · exact .inl (.fault hfault)
      · exact absurd hv (Verb.not_misnamed_of_batch hbatch hitem v)

theorem build_misuses {config : Config} {verb : Verb} {schema : Value} {cause : Misuse}
    (h : verb.Misuses schema cause) :
    (build config verb schema).result = .error (.misuse cause) := by
  cases h with
  | notIterable hbatch hnone =>
    rw [build_batch hbatch, Verb.read, if_pos hbatch, hnone]
    rfl
  | notName hbatch hparse hname =>
    obtain ⟨hselect⟩ := hname
    rw [build_single hbatch, hparse]
    dsimp only
    rw [Compiled.single_result _ _ (Statement.draft_inOrder config _), Statement.draft,
      Select.draft_misnamed hselect]
    rfl

/-- Building fails with a report on the schema, or with an operation that a value does not support;
the latter where the schemas of a batch cannot be gone through, or where a SELECT comes to a
verbatim query whose alias counts as true and is no text, and nowhere else. -/
theorem build_error_cases (config : Config) (verb : Verb) (schema : Value) :
    (∀ e, (build config verb schema).result = .error e →
      e.Reported ∨ ∃ cause, e = .misuse cause) ∧
    ∀ cause, (build config verb schema).result = .error (.misuse cause) ↔
      verb.Misuses schema cause := by
  have hcases : ∀ e, (build config verb schema).result = .error e →
      e.Reported ∨ ∃ cause, verb.Misuses schema cause ∧ e = .misuse cause := by
    intro e h
    cases hbatch : verb.isBatch with
    | true => exact build_batch_error hbatch h
    | false => exact build_single_error hbatch h
  refine ⟨fun e h => ?_, fun cause => ⟨fun h => ?_, build_misuses⟩⟩
  · rcases hcases e h with hreported | ⟨cause, -, hcause⟩
    · exact .inl hreported
    · exact .inr ⟨cause, hcause⟩
  · rcases hcases _ h with hreported | ⟨cause', hmisuses, hcause⟩
    · exact absurd hreported (Error.not_reported_misuse cause)
    · rwa [Error.misuse.inj hcause]

def numberedAlias : Value :=
  .mapping [(.text "from", .mapping [(.text "raw", .text "SELECT 1"), (.text "as", .int 5)])]

/-- It is refused, and the error is no report on the schema. -/
theorem unreported_of_number_alias :
    ∃ e, (build {} .select numberedAlias).result = .error e ∧ ¬ e.Reported :=
  ⟨.misuse (.notName (.int 5)), by rfl, Error.not_reported_misuse _⟩

end ParamSql
