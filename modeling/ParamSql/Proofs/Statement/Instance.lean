import ParamSql.Proofs.Clause.Instance
import ParamSql.Proofs.Statement.Prune

/-!
Statements whose schemas are given as instances.

A schema, a member of a batch and a join may each be given as a mapping or as the instance that the
mapping is checked into, and nothing changes. The instance of a verbatim query is no verbatim query:
where the building of a statement comes to it, it is refused (`build_given`).
-/

namespace ParamSql

open Checked Draft Relation

variable {queries : Bool}

/-! ## Drafts of statements -/

namespace Select

variable {s s' : Select}

theorem joins_instanced
    (h : Replaced (Table.Instanced queries) (Where.Instanced queries) s s') :
    List.Forall₂ (Join.Replaced (Table.Instanced queries) (Where.Instanced queries)) s.joins
      s'.joins := by
  have hjoin := h.join
  rw [joins, joins]
  generalize s.join = join at hjoin
  generalize s'.join = join' at hjoin
  cases hjoin with
  | none => exact .nil
  | some h => exact h.toList

theorem draft_instanced (h : Replaced (Table.Instanced queries) (Where.Instanced queries) s s') :
    AlikeUnless queries s.draft s'.draft := by
  rw [draft, draft, h.columns, h.order, h.limit, h.offset]
  dsimp only
  split
  · exact .refl _
  · refine (Table.reference_instanced h.table).bind' fun table => ?_
    have hjoins := (joins_instanced h).imp fun _ _ => Join.clause_instanced
    exact .bind' (.mapM hjoins) fun joins => .bind_left (Where.clause_instanced h.condition) _

end Select

theorem restriction_instanced (verb : Verb) (table : String) {condition condition' : Option Spec}
    (h : Option.Rel (Spec.Replaced (Where.Instanced queries)) condition condition') :
    AlikeUnless queries (restriction verb table condition) (restriction verb table condition') :=
  .bind_left (Where.clause_instanced h) _

theorem Update.draft_instanced {u u' : Update} (h : Replaced (Where.Instanced queries) u u') :
    AlikeUnless queries u.draft u'.draft := by
  rw [draft, draft, h.table, h.assignments]
  exact .bind_right _ fun assignments => .bind_left (restriction_instanced _ _ h.condition) _

theorem Delete.draft_instanced {d d' : Delete} (h : Replaced (Where.Instanced queries) d d') :
    AlikeUnless queries d.draft d'.draft := by
  rw [draft, draft, h.table]
  exact .bind_left (restriction_instanced _ _ h.condition) _

namespace Statement

/-- The second statement is the first one with some verbatim queries given as instances. -/
inductive Instanced (queries : Bool) : Statement → Statement → Prop where
  | select {s s' : Select}
    (h : s.Replaced (Table.Instanced queries) (Where.Instanced queries) s') :
    Instanced queries (.select s) (.select s')
  | create (c : Create) : Instanced queries (.create c) (.create c)
  | update {u u' : Update} (h : u.Replaced (Where.Instanced queries) u') :
    Instanced queries (.update u) (.update u')
  | delete {d d' : Delete} (h : d.Replaced (Where.Instanced queries) d') :
    Instanced queries (.delete d) (.delete d')

theorem draft_instanced (config : Config) {s s' : Statement} (h : Instanced queries s s') :
    AlikeUnless queries (s.draft config) (s'.draft config) := by
  cases h with
  | select h => exact Select.draft_instanced h
  | create c => exact .refl _
  | update h => exact Update.draft_instanced h
  | delete h => exact Delete.draft_instanced h

theorem Instanced.refl (s : Statement) : Instanced queries s s := by
  cases s with
  | select s => exact .select (.refl s)
  | create c => exact .create c
  | update u => exact .update (.refl u)
  | delete d => exact .delete (.refl d)

end Statement

/-! ## Reading schemas -/

/-- The fields of a schema that hold what may be given as an instance: joins, and verbatim queries
if `queries` is true. -/
def SchemaName.Field (queries : Bool) : SchemaName → String → Value → Value → Prop
  | .select => Select.Field (Table.Instanced queries) (Where.Instanced queries)
  | .update | .delete => Restriction (Where.Instanced queries)
  | .rawQuery | .join | .create => fun _ _ _ => False

namespace Verb

/-- A schema that is a mapping, given as its instance or with instances in it; of a batch, each
member may be. -/
inductive Given (verb : Verb) (queries : Bool) : Value → Value → Prop where
  | single {v v' : Value} (hbatch : verb.isBatch = false)
    (h : verb.schema.Given (verb.schema.Field queries) v v') : Given verb queries v v'
  | list {items items' : List Value} (hbatch : verb.isBatch = true)
    (h : List.Forall₂ (ReflGen (verb.schema.Given (verb.schema.Field queries))) items items') :
    Given verb queries (.list items) (.list items')
  | tuple {items items' : List Value} (hbatch : verb.isBatch = true)
    (h : List.Forall₂ (ReflGen (verb.schema.Given (verb.schema.Field queries))) items items') :
    Given verb queries (.tuple items) (.tuple items')

variable {verb : Verb} {v v' : Value}

theorem check_given (hv : v.Proper) (h : verb.schema.Given (verb.schema.Field queries) v v') :
    Related (Statement.Instanced queries) (verb.check v) (verb.check v') := by
  cases verb with
  | select => exact (Select.check_given hv h).map fun _ _ => .select
  | create | creates =>
    refine (Create.check_given hv h).map ?_
    rintro c _ rfl
    exact .create c
  | update | updates => exact (Update.check_given hv h).map fun _ _ => .update
  | delete | deletes => exact (Delete.check_given hv h).map fun _ _ => .delete

theorem parse_given (hv : v.Proper) (h : verb.schema.Given (verb.schema.Field queries) v v') :
    ReadingsAlike (Statement.Instanced queries) (verb.parse v) (verb.parse v') := by
  have hcheck := check_given hv h
  rw [parse, parse, SchemaName.parse, SchemaName.parse]
  generalize verb.check v = x at hcheck
  generalize verb.check v' = y at hcheck
  cases hcheck with
  | valid h => exact .ok h
  | invalid issues => exact .error (.invalidSchema _ _ _ _)

/-- The members of a batch are read one by one. -/
theorem parse_members {items items' : List Value} (hproper : ∀ item ∈ items, item.Proper)
    (h : List.Forall₂ (ReflGen (verb.schema.Given (verb.schema.Field queries))) items items') :
    ReadingsAlike (List.Forall₂ (Statement.Instanced queries)) (items.mapM verb.parse)
      (items'.mapM verb.parse) := by
  have hboth := (List.forall₂_and_left _ _).2 ⟨hproper, h⟩
  refine .mapM (hboth.imp fun item item' hitem => ?_)
  obtain ⟨hproper, hgiven⟩ := hitem
  cases hgiven with
  | single hgiven => exact parse_given hproper hgiven
  | refl =>
    cases verb.parse item with
    | ok s => exact .ok (.refl s)
    | error e => exact .error (.same e)

end Verb

/-! ## Building -/

/-- The outcomes are alike, or the second one refuses the instance of a verbatim query; the latter
only if `queries` is true. -/
inductive Outcome.AlikeUnless (queries : Bool) (x y : Outcome Compiled) : Prop where
  | alike (h : x.Alike y) : AlikeUnless queries x y
  | refused (hqueries : queries = true) {e : Error} (h : y.result = .error e) (he : e.OfQuery) :
    AlikeUnless queries x y

namespace Compiled

variable {config : Config} {verb : Verb}

theorem single_alikeUnless {x y : Draft Sql} (hx : x.InOrder) (hy : y.InOrder)
    (h : AlikeUnless queries x y) :
    Outcome.AlikeUnless queries (single config verb x) (single config verb y) := by
  cases h with
  | alike h => exact .alike (single_alike hx hy h)
  | refused hqueries h he =>
    refine .refused hqueries ?_ he
    rw [single_result config verb hy, h]
    rfl

theorem members_alikeUnless {drafts drafts' : List (Draft Sql)}
    (h : List.Forall₂ (AlikeUnless queries) drafts drafts') (taken : Nat) :
    AlikeUnless queries (members taken drafts) (members taken drafts') := by
  induction h generalizing taken with
  | nil => exact .refl _
  | cons hdraft _ ih =>
    rw [members, members]
    cases hdraft with
    | refused hqueries h he => exact .refused hqueries (bind_result_error h) he
    | alike h =>
      rw [h.bound]
      exact .bind' (.alike h) fun sql => .bind_left (ih _) _

theorem batch_alikeUnless {drafts drafts' : List (Draft Sql)}
    (hdrafts : ∀ draft ∈ drafts, draft.InOrder) (hdrafts' : ∀ draft ∈ drafts', draft.InOrder)
    (h : List.Forall₂ (AlikeUnless queries) drafts drafts') :
    Outcome.AlikeUnless queries (batch config verb drafts) (batch config verb drafts') := by
  cases members_alikeUnless h 0 with
  | alike hmembers =>
    exact .alike (batch_alike_of_members h.length_eq hdrafts hdrafts' hmembers)
  | refused hqueries hmembers he =>
    have hne : drafts' ≠ [] := by
      rintro rfl
      cases hmembers
    refine .refused hqueries ?_ he
    rw [batch_result config verb hne hdrafts', hmembers]
    rfl

end Compiled

section Build

variable {config : Config} {verb : Verb} {v v' : Value}

theorem build_single_given (hbatch : verb.isBatch = false) (hv : v.Proper)
    (h : verb.schema.Given (verb.schema.Field queries) v v') :
    Outcome.AlikeUnless queries (build config verb v) (build config verb v') := by
  have hparse := Verb.parse_given hv h
  rw [build_single hbatch, build_single hbatch]
  generalize verb.parse v = x at hparse
  generalize verb.parse v' = y at hparse
  cases hparse with
  | ok h =>
    exact Compiled.single_alikeUnless (Statement.draft_inOrder config _)
      (Statement.draft_inOrder config _) (Statement.draft_instanced config h)
  | error h => exact .alike ⟨rfl, .error h⟩

theorem build_batch_given {items items' : List Value} (hbatch : verb.isBatch = true)
    (helements : v.elements? = some items) (helements' : v'.elements? = some items')
    (hproper : ∀ item ∈ items, item.Proper)
    (h : List.Forall₂ (ReflGen (verb.schema.Given (verb.schema.Field queries))) items items') :
    Outcome.AlikeUnless queries (build config verb v) (build config verb v') := by
  have hread : ReadingsAlike (List.Forall₂ (Statement.Instanced queries)) (verb.read v)
      (verb.read v') := by
    rw [Verb.read, Verb.read, if_pos hbatch, if_pos hbatch, helements, helements']
    exact Verb.parse_members hproper h
  rw [build_batch hbatch, build_batch hbatch]
  generalize verb.read v = x at hread
  generalize verb.read v' = y at hread
  cases hread with
  | error h => exact .alike ⟨rfl, .error h⟩
  | ok h =>
    refine Compiled.batch_alikeUnless (Statement.drafts_inOrder config _)
      (Statement.drafts_inOrder config _) ?_
    rw [List.forall₂_map_left_iff, List.forall₂_map_right_iff]
    exact h.imp fun _ _ => Statement.draft_instanced config

/-- Schemas and joins may be given as instances instead of mappings, in a batch too, and nothing
changes: the compiled statement is the same, or the errors are of the same kind. If verbatim queries
are given as instances, then nothing changes either unless one of the instances is refused. -/
theorem build_given (config : Config) (hv : v.Proper) (h : verb.Given queries v v') :
    (queries = false → Outcome.Alike (build config verb v) (build config verb v')) ∧
      (Outcome.Alike (build config verb v) (build config verb v') ∨
        ∃ e, (build config verb v').result = .error e ∧ e.OfQuery) := by
  have hbuild : Outcome.AlikeUnless queries (build config verb v) (build config verb v') := by
    cases h with
    | single hbatch h => exact build_single_given hbatch hv h
    | list hbatch h => exact build_batch_given hbatch rfl rfl (fun _ => hv.part) h
    | tuple hbatch h => exact build_batch_given hbatch rfl rfl (fun _ => hv.part) h
  cases hbuild with
  | alike h => exact ⟨fun _ => h, .inl h⟩
  | @refused hqueries e h he =>
    refine ⟨fun hnone => ?_, .inr ⟨e, h, he⟩⟩
    rw [hqueries] at hnone
    cases hnone

end Build

def wordsJoined (join : Value) : Value :=
  .mapping [(.text "from", .text "words"), (.text "join", join)]

def kindsAsMapping : List (Value × Value) :=
  [(.text "to", .text "kinds"), (.text "on", .text "true")]

def kindsAsInstance : Value :=
  .record .join [("type", .constant (.joinType .inner)), ("to", .text "kinds"),
    ("on", .text "true"), ("match", .null)]

theorem proper_wordsJoined : (wordsJoined (.mapping kindsAsMapping)).Proper := by
  have hjoin : (Value.mapping kindsAsMapping).Proper := by
    refine Value.proper_mapping ?_
    simp only [kindsAsMapping, List.forall_mem_cons]
    exact ⟨Value.proper_text "kinds", Value.proper_text "true", List.forall_mem_nil _⟩
  refine Value.proper_mapping ?_
  simp only [List.forall_mem_cons]
  exact ⟨Value.proper_text "words", hjoin, List.forall_mem_nil _⟩

/-- The join may be given as its instance. -/
theorem build_given_kinds :
    (wordsJoined (.mapping kindsAsMapping)).Proper ∧
      Verb.select.Given false (wordsJoined (.mapping kindsAsMapping))
        (wordsJoined kindsAsInstance) ∧
      Outcome.Alike (build {} .select (wordsJoined (.mapping kindsAsMapping)))
        (build {} .select (wordsJoined kindsAsInstance)) := by
  have hjoin : SchemaName.join.check (.mapping kindsAsMapping) = .valid kindsAsInstance := rfl
  have hgiven : Verb.select.Given false (wordsJoined (.mapping kindsAsMapping))
      (wordsJoined kindsAsInstance) :=
    .single rfl (.fields (.same _ (.other rfl (.join rfl (.one (.checked hjoin))) .nil)))
  exact ⟨proper_wordsJoined, hgiven, (build_given {} proper_wordsJoined hgiven).1 rfl⟩

/-- A SELECT of the words whose name comes from a verbatim query. -/
def namedByQuery (query : Value) : Value :=
  .mapping [(.text "from", .text "words"),
    (.text "where", .mapping [(.text "name", .mapping [(.text "raw", query)])])]

/-- The query may be given as a mapping, but not as the instance of the mapping. -/
theorem refused_of_query_instance :
    let query : Value := .mapping [(.text "query", .text "SELECT 1")]
    RawQuery.check query = .valid ⟨"SELECT 1", []⟩ ∧
      (build {} .select (namedByQuery query)).result =
        .ok ⟨"SELECT * FROM words WHERE name = (SELECT 1)", [], false⟩ ∧
      ∃ e, (build {} .select (namedByQuery (RawQuery.mk "SELECT 1" []).toValue)).result = .error e ∧
        e.OfQuery :=
  ⟨rfl, by rfl, _, rfl, .unsupported .where _ _⟩

end ParamSql
