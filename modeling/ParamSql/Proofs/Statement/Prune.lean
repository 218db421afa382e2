import ParamSql.Proofs.Clause.Prune
import ParamSql.Proofs.Statement.Build

/-!
Statements are built as if what is `unset` were left out.

A schema and the pruned schema have the same outcome: the same compiled statement, or errors that
are alike. The same holds of the members of a batch (`build_pruneSchema`).
-/

namespace ParamSql

/-! ## Drafts of statements -/

theorem Select.joins_pruned {s s' : Select} (h : s.Pruned s') :
    List.Forall₂ Join.Pruned s.joins s'.joins := by
  have hjoin := h.join
  rw [joins, joins]
  generalize s.join = join at hjoin
  generalize s'.join = join' at hjoin
  cases hjoin with
  | none => exact .nil
  | some h => exact h.toList

theorem Select.draft_pruned {s s' : Select} (h : s.Pruned s') : s.draft.Alike s'.draft := by
  rw [draft, draft, h.columns, h.table, h.limit, h.offset]
  dsimp only
  split
  · exact .refl _
  · refine .bind_right _ fun table => ?_
    refine .bind' (.mapM ((joins_pruned h).imp fun _ _ => Join.clause_pruned)) fun joins => ?_
    refine .bind' (Where.clause_pruned h.condition) fun condition => ?_
    exact .bind' (Order.clause_pruned h.order) fun order => .refl _

theorem Create.draft_pruned (config : Config) {c c' : Create} (h : c.Pruned c') :
    (c.draft config).Alike (c'.draft config) := by
  rw [draft, draft, h.values, Assignment.values_dropUnset, h.table, h.returning]
  exact .refl _

theorem restriction_pruned (verb : Verb) (table : String) {condition condition' : Option Spec}
    (h : Option.Rel Spec.Pruned condition condition') :
    (restriction verb table condition).Alike (restriction verb table condition') :=
  .bind_left (Where.clause_pruned h) _

theorem Update.draft_pruned {u u' : Update} (h : u.Pruned u') : u.draft.Alike u'.draft := by
  rw [draft, draft, h.assignments, Assignment.set_dropUnset, h.table]
  exact .bind_right _ fun assignments => .bind_left (restriction_pruned _ _ h.condition) _

theorem Delete.draft_pruned {d d' : Delete} (h : d.Pruned d') : d.draft.Alike d'.draft := by
  rw [draft, draft, h.table]
  exact .bind_left (restriction_pruned _ _ h.condition) _

namespace Statement

inductive Pruned : Statement → Statement → Prop where
  | select {s s' : Select} (h : s.Pruned s') : Pruned (.select s) (.select s')
  | create {c c' : Create} (h : c.Pruned c') : Pruned (.create c) (.create c')
  | update {u u' : Update} (h : u.Pruned u') : Pruned (.update u) (.update u')
  | delete {d d' : Delete} (h : d.Pruned d') : Pruned (.delete d) (.delete d')

theorem draft_pruned (config : Config) {s s' : Statement} (h : s.Pruned s') :
    (s.draft config).Alike (s'.draft config) := by
  cases h with
  | select h => exact Select.draft_pruned h
  | create h => exact Create.draft_pruned config h
  | update h => exact Update.draft_pruned h
  | delete h => exact Delete.draft_pruned h

end Statement

/-! ## Reading schemas -/

/-- Two readings of a schema give related statements, or fail alike. -/
inductive ReadingsAlike {α : Type} (R : α → α → Prop) : Except Error α → Except Error α → Prop where
  | ok {a a' : α} (h : R a a') : ReadingsAlike R (.ok a) (.ok a')
  | error {e e' : Error} (h : e.Alike e') : ReadingsAlike R (.error e) (.error e')

namespace Verb

theorem check_related (verb : Verb) {es : List (Value × Value)} (h : (Value.mapping es).Named) :
    Checked.Related Statement.Pruned (verb.check (.mapping es))
      (verb.check (Value.mapping es).pruneSchema) := by
  cases verb with
  | select => exact (Select.check_related h).map fun _ _ => .select
  | create | creates => exact (Create.check_related h).map fun _ _ => .create
  | update | updates => exact (Update.check_related h).map fun _ _ => .update
  | delete | deletes => exact (Delete.check_related h).map fun _ _ => .delete

theorem parse_pruneSchema (verb : Verb) {es : List (Value × Value)}
    (h : (Value.mapping es).Named) :
    ReadingsAlike Statement.Pruned (verb.parse (.mapping es))
      (verb.parse (Value.mapping es).pruneSchema) := by
  have hcheck := verb.check_related h
  rw [parse, parse, SchemaName.parse, SchemaName.parse]
  generalize verb.check (.mapping es) = x at hcheck
  generalize verb.check (Value.mapping es).pruneSchema = y at hcheck
  cases hcheck with
  | valid h => exact .ok h
  | invalid issues => exact .error (.invalidSchema _ _ _ _)

end Verb

theorem ReadingsAlike.mapM {α : Type} {R : α → α → Prop} {f : Value → Except Error α}
    {items items' : List Value}
    (h : List.Forall₂ (fun item item' => ReadingsAlike R (f item) (f item')) items items') :
    ReadingsAlike (List.Forall₂ R) (items.mapM f) (items'.mapM f) := by
  induction h with
  | nil => exact .ok .nil
  | @cons item item' rest rest' hitem _ hothers =>
    rw [List.mapM_cons, List.mapM_cons]
    generalize f item = x at hitem
    generalize f item' = y at hitem
    generalize rest.mapM f = xs at hothers
    generalize rest'.mapM f = ys at hothers
    cases hitem with
    | error h => exact .error h
    | ok hab =>
      cases hothers with
      | error h => exact .error h
      | ok habs => exact .ok (.cons hab habs)

/-! ## Building -/

/-- The same log and the same result, or errors that are alike. -/
structure Outcome.Alike (x y : Outcome Compiled) : Prop where
  notes : x.notes = y.notes
  result : ResultsAlike x.result y.result

namespace Compiled

variable {config : Config} {verb : Verb}

theorem single_alike {x y : Draft Sql} (hx : x.InOrder) (hy : y.InOrder) (h : x.Alike y) :
    Outcome.Alike (single config verb x) (single config verb y) := by
  rw [single_eq hx, single_eq hy, h.bound, h.notes]
  obtain ⟨-, -, hresult⟩ := h
  generalize x.result = r at hresult
  generalize y.result = r' at hresult
  cases hresult with
  | ok sql => exact ⟨rfl, .refl _⟩
  | error h => exact ⟨rfl, .error h⟩

theorem members_alike {drafts drafts' : List (Draft Sql)}
    (h : List.Forall₂ Draft.Alike drafts drafts') (taken : Nat) :
    (members taken drafts).Alike (members taken drafts') := by
  induction h generalizing taken with
  | nil => exact .refl _
  | cons hdraft _ ih =>
    rw [members, members, hdraft.bound]
    exact hdraft.bind' fun sql => (ih _).bind_left _

/-- A batch is as alike as its members are. -/
theorem batch_alike_of_members {drafts drafts' : List (Draft Sql)}
    (hlength : drafts.length = drafts'.length) (hdrafts : ∀ draft ∈ drafts, draft.InOrder)
    (hdrafts' : ∀ draft ∈ drafts', draft.InOrder)
    (h : (members 0 drafts).Alike (members 0 drafts')) :
    Outcome.Alike (batch config verb drafts) (batch config verb drafts') := by
  by_cases hne : drafts = []
  · obtain rfl := hne
    obtain rfl := List.eq_nil_of_length_eq_zero hlength.symm
    exact ⟨rfl, .refl _⟩
  · have hne' : drafts' ≠ [] := by
      rintro rfl
      exact hne (List.eq_nil_of_length_eq_zero hlength)
    rw [batch_eq hne hdrafts, batch_eq hne' hdrafts', hlength, h.bound, h.notes]
    obtain ⟨-, -, hresult⟩ := h
    generalize (members 0 drafts).result = r at hresult
    generalize (members 0 drafts').result = r' at hresult
    cases hresult with
    | ok texts => exact ⟨rfl, .refl _⟩
    | error h => exact ⟨rfl, .error h⟩

theorem batch_alike {drafts drafts' : List (Draft Sql)} (hdrafts : ∀ draft ∈ drafts, draft.InOrder)
    (hdrafts' : ∀ draft ∈ drafts', draft.InOrder) (h : List.Forall₂ Draft.Alike drafts drafts') :
    Outcome.Alike (batch config verb drafts) (batch config verb drafts') :=
  batch_alike_of_members h.length_eq hdrafts hdrafts' (members_alike h 0)

end Compiled

theorem build_single_pruneSchema (config : Config) {verb : Verb} {es : List (Value × Value)}
    (hbatch : verb.isBatch = false) (h : (Value.mapping es).Named) :
    Outcome.Alike (build config verb (.mapping es))
      (build config verb (Value.mapping es).pruneSchema) := by
  have hparse := verb.parse_pruneSchema h
  rw [build_single hbatch, build_single hbatch]
  generalize verb.parse (.mapping es) = x at hparse
  generalize verb.parse (Value.mapping es).pruneSchema = y at hparse
  cases hparse with
  | ok h =>
    exact Compiled.single_alike (Statement.draft_inOrder config _)
      (Statement.draft_inOrder config _) (Statement.draft_pruned config h)
  | error h => exact ⟨rfl, .error h⟩

theorem build_batch_pruneSchema (config : Config) {verb : Verb} {items : List Value}
    (hbatch : verb.isBatch = true) (h : ∀ item ∈ items, ∃ es, item = .mapping es ∧ item.Named) :
    Outcome.Alike (build config verb (.list items))
      (build config verb (.list (items.map Value.pruneSchema))) := by
  have hread : ReadingsAlike (List.Forall₂ Statement.Pruned) (verb.read (.list items))
      (verb.read (.list (items.map Value.pruneSchema))) := by
    rw [Verb.read, Verb.read, if_pos hbatch, if_pos hbatch]
    refine .mapM (List.forall₂_map_right_iff.2 (List.forall₂_same.2 fun item hitem => ?_))
    obtain ⟨es, rfl, hnamed⟩ := h item hitem
    exact verb.parse_pruneSchema hnamed
  rw [build_batch hbatch, build_batch hbatch]
  generalize verb.read (.list items) = x at hread
  generalize verb.read (.list (items.map Value.pruneSchema)) = y at hread
  cases hread with
  | ok h =>
    refine Compiled.batch_alike (Statement.drafts_inOrder config _)
      (Statement.drafts_inOrder config _) ?_
    rw [List.forall₂_map_left_iff, List.forall₂_map_right_iff]
    exact h.imp fun _ _ => Statement.draft_pruned config
  | error h => exact ⟨rfl, .error h⟩

/-- What is `unset` is not given: a schema, and every member of a batch, has the same outcome
without it. -/
theorem build_pruneSchema (config : Config) (verb : Verb) :
    (∀ es, verb.isBatch = false → (Value.mapping es).Named →
      Outcome.Alike (build config verb (.mapping es))
        (build config verb (Value.mapping es).pruneSchema)) ∧
    ∀ items, verb.isBatch = true → (∀ item ∈ items, ∃ es, item = .mapping es ∧ item.Named) →
      Outcome.Alike (build config verb (.list items))
        (build config verb (.list (items.map Value.pruneSchema))) :=
  ⟨fun _ => build_single_pruneSchema config, fun _ => build_batch_pruneSchema config⟩

/-- A SELECT whose direction and whose limit are not given. -/
def sparseSelect : List (Value × Value) :=
  [(.text "from", .text "words"), (.text "limit", .unset),
    (.text "order", .list [.mapping [(.text "by", .text "id"), (.text "sort", .unset)]])]

/-- A DELETE with entries that are not given at both levels of its condition. -/
def sparseDelete : List (Value × Value) :=
  [(.text "from", .text "words"), (.text "where", .mapping
    [(.text "kind", .unset), (.text "or", .mapping [(.text "id", .int 7), (.text "tag", .unset)])])]

theorem named_sparseSelect : (Value.mapping sparseSelect).Named := by
  have horder : (Value.mapping [(.text "by", .text "id"), (.text "sort", .unset)]).Named :=
    .mapping ⟨by decide, by decide⟩ (List.forall_mem_cons.2 ⟨.scalar nofun rfl,
      List.forall_mem_singleton.2 (.scalar nofun rfl)⟩)
  exact .mapping ⟨by decide, by decide⟩ (List.forall_mem_cons.2 ⟨.scalar nofun rfl,
    List.forall_mem_cons.2 ⟨.scalar nofun rfl,
      List.forall_mem_singleton.2 (.list (List.forall_mem_singleton.2 horder))⟩⟩)

theorem named_sparseDelete : (Value.mapping sparseDelete).Named := by
  have hgroup : (Value.mapping [(.text "id", .int 7), (.text "tag", .unset)]).Named :=
    .mapping ⟨by decide, by decide⟩ (List.forall_mem_cons.2 ⟨.scalar nofun rfl,
      List.forall_mem_singleton.2 (.scalar nofun rfl)⟩)
  have hcondition : (Value.mapping [(.text "kind", .unset),
      (.text "or", .mapping [(.text "id", .int 7), (.text "tag", .unset)])]).Named :=
    .mapping ⟨by decide, by decide⟩ (List.forall_mem_cons.2 ⟨.scalar nofun rfl,
      List.forall_mem_singleton.2 hgroup⟩)
  exact .mapping ⟨by decide, by decide⟩ (List.forall_mem_cons.2 ⟨.scalar nofun rfl,
    List.forall_mem_singleton.2 hcondition⟩)

theorem build_sparse :
    Outcome.Alike (build {} .select (.mapping sparseSelect)) (build {} .select (.mapping
      [(.text "from", .text "words"),
        (.text "order", .list [.mapping [(.text "by", .text "id")]])])) ∧
    Outcome.Alike (build {} .deletes (.list [.mapping sparseDelete]))
      (build {} .deletes (.list [.mapping [(.text "from", .text "words"),
        (.text "where", .mapping [(.text "or", .mapping [(.text "id", .int 7)])])]])) := by
  have hselect : (Value.mapping sparseSelect).pruneSchema = .mapping [(.text "from", .text "words"),
      (.text "order", .list [.mapping [(.text "by", .text "id")]])] := by rfl
  have hdelete : (Value.mapping sparseDelete).pruneSchema = .mapping [(.text "from", .text "words"),
      (.text "where", .mapping [(.text "or", .mapping [(.text "id", .int 7)])])] := by rfl
  have halone := (build_pruneSchema {} .select).1 sparseSelect rfl named_sparseSelect
  have hbatch := (build_pruneSchema {} .deletes).2 [.mapping sparseDelete] rfl
    (List.forall_mem_singleton.2 ⟨_, rfl, named_sparseDelete⟩)
  rw [hselect] at halone
  rw [List.map_singleton, hdelete] at hbatch
  exact ⟨halone, hbatch⟩

end ParamSql
