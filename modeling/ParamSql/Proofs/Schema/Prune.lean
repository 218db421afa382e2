import ParamSql.Proofs.Clause.Spec
import ParamSql.Proofs.Schema.Related

/-!
Schemas are checked as if what is `unset` were left out.

A schema and the pruned schema both pass their check or both fail it with the same issues; the
statements that they are read into differ in nothing but that the specifications, and the values to
write, of the second are those of the first without what is `unset` (`Select.Pruned` and the like).
-/

namespace ParamSql

open Checked

/-! ## Specifications -/

namespace Spec

/-- The second specification is the first one without what is `unset`; no name is given twice. -/
structure Pruned (spec spec' : Spec) : Prop where
  toValue : spec'.toValue = spec.toValue.prune
  byName : ∀ es, spec.toValue = .mapping es → Value.ByName es

/-- A text stays as it is, and a mapping stays a mapping. -/
theorem Pruned.text_or_mapping {spec spec' : Spec} (h : Pruned spec spec') :
    (∃ s, spec = .text s ∧ spec' = .text s) ∨
      ∃ es es', spec = .mapping es ∧ spec' = .mapping es' := by
  have hvalue := h.toValue
  cases spec with
  | text s =>
    cases spec' with
    | text s' =>
      obtain rfl : s' = s := by simpa [Spec.toValue, Value.prune] using hvalue
      exact .inl ⟨s', rfl, rfl⟩
    | mapping es' => simp [Spec.toValue, Value.prune] at hvalue
  | mapping es =>
    cases spec' with
    | text s' => simp [Spec.toValue, Value.prune] at hvalue
    | mapping es' => exact .inr ⟨es, es', rfl, rfl⟩

theorem pruneEntries_textEntries (es : List (String × Value)) :
    Value.pruneEntries (textEntries es) =
      textEntries ((Value.dropUnset es).map fun e => (e.1, e.2.prune)) := by
  rw [Value.pruneEntries_eq, textEntries, textEntries, List.map_map]
  have hdrop : Value.dropUnset (es.map fun e => (Value.text e.1, e.2)) =
      (Value.dropUnset es).map fun e => (.text e.1, e.2) := List.filter_map
  rw [hdrop, List.map_map]
  rfl

theorem dropUnset_named (es : List (Value × Value)) :
    Value.dropUnset (Check.named es) = Check.named (Value.dropUnset es) :=
  List.filter_map

theorem named_pruneEntries (es : List (Value × Value)) :
    Check.named (Value.pruneEntries es) =
      (Value.dropUnset (Check.named es)).map fun e => (e.1, e.2.prune) := by
  rw [dropUnset_named, Value.pruneEntries_eq, Check.named, Check.named, List.map_map, List.map_map]
  rfl

theorem byName_textEntries {es : List (String × Value)} (h : (es.map Prod.fst).Nodup) :
    Value.ByName (textEntries es) := by
  refine ⟨fun e he => ?_, ?_⟩
  · obtain ⟨e', -, rfl⟩ := List.mem_map.1 he
    rfl
  · rw [textEntries, List.map_map]
    have hnames := h.map (Option.some_injective String)
    rwa [List.map_map] at hnames

theorem pruned_text (s : String) : Pruned (.text s) (.text s) :=
  ⟨by rw [Spec.toValue, Value.prune.eq_def], nofun⟩

theorem pruned_mapping {es : List (Value × Value)} (h : Value.ByName es) :
    Pruned (.mapping (Check.named es)) (.mapping (Check.named (Value.pruneEntries es))) := by
  constructor
  · rw [Spec.toValue, Spec.toValue, Value.prune, named_pruneEntries]
    exact congrArg Value.mapping (pruneEntries_textEntries _).symm
  · intro es' hes'
    obtain rfl := Value.mapping.inj hes'
    exact byName_textEntries (Check.nodup_named h)

theorem check_mapping {es : List (Value × Value)} (h : Value.ByName es) :
    check (.mapping es) = .valid (.mapping (Check.named es)) := by
  rw [check, Check.either]
  dsimp only [Check.map, Check.text]
  rw [Check.mappingOf_any h]
  rfl

/-- What is no mapping is checked as a text. -/
theorem check_of_not_mapping {v : Value} (h : ∀ es, v ≠ .mapping es) :
    (∃ s, check v = .valid (.text s)) ∨ ∃ issues, check v = .invalid issues := by
  rw [check, Check.either]
  dsimp only [Check.map]
  cases Check.text v with
  | valid s => exact .inl ⟨s, rfl⟩
  | invalid issues =>
    have hmapping : Check.mappingOf .any v = .refuse .notMapping := by
      cases v <;> first | rfl | exact absurd rfl (h _)
    exact .inr ⟨_, by rw [hmapping]; rfl⟩

theorem check_related {v : Value} (h : v.Named) : Related Pruned (check v) (check v.prune) := by
  rcases v.prune_cases with ⟨es, rfl, hprune⟩ | ⟨hv, hprune⟩
  · rw [hprune, check_mapping h.byName, check_mapping h.byName.pruneEntries]
    exact .valid (pruned_mapping h.byName)
  · rw [hprune]
    rcases check_of_not_mapping hv with ⟨s, hs⟩ | ⟨issues, hissues⟩
    · rw [hs]
      exact .valid (pruned_text s)
    · rw [hissues]
      exact .invalid issues

theorem optional_related {es : List (Value × Value)} {f : String → Value → Value} (key : String)
    (hf : ∀ v, f key v = v.prune) (hnamed : ∀ e ∈ es, e.2.Named) :
    Related (Option.Rel Spec.Pruned) (FieldName.optional key none (.nullable Spec.check) es)
      (FieldName.optional key none (.nullable Spec.check) (Value.overFields f es)) := by
  refine FieldName.optional_related .none (List.forall_mem_singleton.2 fun k v hmem => ?_)
  rw [hf v]
  exact Check.nullable_related (Spec.check_related (hnamed _ hmem)) v.isNull_prune.symm

end Spec

/-! ## One value, or a list of them -/

/-- A pruned value is of the same kind, and a record has as many fields as before. -/
inductive Value.Reshaped : Value → Value → Prop where
  | same (v : Value) : Reshaped v v
  | mapping (es es' : List (Value × Value)) : Reshaped (.mapping es) (.mapping es')
  | record (schema : SchemaName) {fields fields' : List (String × Value)}
    (h : fields.length = fields'.length) : Reshaped (.record schema fields) (.record schema fields')

theorem Value.reshaped_prune (v : Value) : Reshaped v v.prune := by
  rcases v.prune_cases with ⟨es, rfl, hprune⟩ | ⟨-, hprune⟩
  · rw [hprune]
    exact .mapping _ _
  · rw [hprune]
    exact .same v

theorem Value.reshaped_pruneJoin (v : Value) : Reshaped v v.pruneJoin := by
  cases v with
  | mapping es => exact .mapping _ _
  | record schema fields => exact .record schema (by rw [List.length_map])
  | _ => exact .same _

theorem Value.Reshaped.isNull_eq {v w : Value} (h : Reshaped v w) : w.isNull = v.isNull := by
  cases h <;> rfl

theorem Value.Reshaped.isUnset_eq {v w : Value} (h : Reshaped v w) : w.isUnset = v.isUnset := by
  cases h <;> rfl

section Each

variable {pruned : Value → Value}

theorem Value.isNull_pruneEach (h : ∀ v, Reshaped v (pruned v)) (v : Value) :
    (v.pruneEach pruned).isNull = v.isNull := by
  cases v with
  | list items => rfl
  | tuple items => rfl
  | _ => exact (h _).isNull_eq

theorem Value.isUnset_pruneEach (h : ∀ v, Reshaped v (pruned v)) (v : Value) :
    (v.pruneEach pruned).isUnset = v.isUnset := by
  cases v with
  | list items => rfl
  | tuple items => rfl
  | _ => exact (h _).isUnset_eq

end Each

namespace OneOrMany

variable {α : Type} {R : α → α → Prop} {single : Check α} {pruned : Value → Value}
  {issues : List Issue}

/-- Both are one value, or both are lists, with related values in the same places. -/
inductive Related (R : α → α → Prop) : OneOrMany α → OneOrMany α → Prop where
  | one {a b : α} (h : R a b) : Related R (.one a) (.one b)
  | many {as bs : List α} (h : List.Forall₂ R as bs) : Related R (.many as) (.many bs)

theorem Related.toList {a b : OneOrMany α} (h : Related R a b) :
    List.Forall₂ R a.toList b.toList := by
  cases h with
  | one h => exact .cons h .nil
  | many h => exact h

/-- The named fields of records with equally many fields are refused alike, since tuples are. -/
theorem items_namedFields (htuple : ∀ items, single (.tuple items) = .invalid issues)
    {fields fields' : List (String × Value)} (hlength : fields.length = fields'.length) :
    Checked.Related (List.Forall₂ R) (Check.items single 0 (Value.namedFields fields))
      (Check.items single 0 (Value.namedFields fields')) := by
  refine Check.items_related ?_ 0
  rw [Value.namedFields, Value.namedFields, List.forall₂_map_left_iff, List.forall₂_map_right_iff]
  refine List.forall₂_iff_get.2 ⟨hlength, fun i hi hi' => ?_⟩
  rw [htuple, htuple]
  exact .invalid issues

theorem listOf_related (htuple : ∀ items, single (.tuple items) = .invalid issues) {v w : Value}
    (hreshaped : Value.Reshaped v w) (hlist : ∀ items, v ≠ .list items)
    (hnotTuple : ∀ items, v ≠ .tuple items) :
    Checked.Related (List.Forall₂ R) (Check.listOf single v) (Check.listOf single w) := by
  cases hreshaped with
  | mapping es es' => exact .invalid _
  | record schema hlength => exact items_namedFields htuple hlength
  | same =>
    cases v with
    | list items => exact absurd rfl (hlist items)
    | tuple items => exact absurd rfl (hnotTuple items)
    | record schema fields => exact items_namedFields htuple rfl
    | _ => exact .invalid _

theorem items_map_related {items : List Value}
    (h : ∀ item ∈ items, Checked.Related R (single item) (single (pruned item))) :
    Checked.Related (List.Forall₂ R) (Check.items single 0 items)
      (Check.items single 0 (items.map pruned)) := by
  refine Check.items_related ?_ 0
  rw [List.forall₂_map_right_iff]
  exact List.forall₂_same.2 h

theorem check_related (hlist : ∀ items, single (.list items) = .invalid issues)
    (htuple : ∀ items, single (.tuple items) = .invalid issues)
    (hpruned : ∀ v, Value.Reshaped v (pruned v)) {v : Value}
    (h : ∀ w, w = v ∨ w ∈ v.parts → Checked.Related R (single w) (single (pruned w))) :
    Checked.Related (Related R) (check single v) (check single (v.pruneEach pruned)) := by
  rw [check]
  refine Check.either_related ?_ ?_
  · have hone : Checked.Related R (single v) (single (v.pruneEach pruned)) := by
      cases v with
      | list items =>
        rw [Value.pruneEach, hlist, hlist]
        exact .invalid issues
      | tuple items =>
        rw [Value.pruneEach, htuple, htuple]
        exact .invalid issues
      | _ => exact h _ (.inl rfl)
    exact hone.map fun a b => Related.one
  · have hmany : Checked.Related (List.Forall₂ R) (Check.listOf single v)
        (Check.listOf single (v.pruneEach pruned)) := by
      cases v with
      | list items => exact items_map_related fun item hitem => h item (.inr hitem)
      | tuple items => exact items_map_related fun item hitem => h item (.inr hitem)
      | _ => exact listOf_related htuple (hpruned _) nofun nofun
    exact hmany.map fun as bs => Related.many

theorem optional_related {es : List (Value × Value)} {f : String → Value → Value} (key : String)
    (hlist : ∀ items, single (.list items) = .invalid issues)
    (htuple : ∀ items, single (.tuple items) = .invalid issues)
    (hpruned : ∀ v, Value.Reshaped v (pruned v))
    (hsingle : ∀ v, v.Named → Checked.Related R (single v) (single (pruned v)))
    (hf : ∀ v, f key v = v.pruneEach pruned) (hnamed : ∀ e ∈ es, e.2.Named) :
    Checked.Related (Option.Rel (Related R))
      (FieldName.optional key none (.nullable (check single)) es)
      (FieldName.optional key none (.nullable (check single)) (Value.overFields f es)) := by
  refine FieldName.optional_related .none (List.forall_mem_singleton.2 fun k v hmem => ?_)
  have hv := hnamed _ hmem
  rw [hf v]
  refine Check.nullable_related ?_ (Value.isNull_pruneEach hpruned v).symm
  refine check_related hlist htuple hpruned ?_
  rintro w (rfl | hw)
  · exact hsingle w hv
  · exact hsingle w (hv.part hw)

end OneOrMany

/-! ## Joins -/

namespace Join

/-- The condition of the second join is that of the first without what is `unset`. -/
structure Pruned (join join' : Join) : Prop where
  type : join.type = join'.type
  table : join.table = join'.table
  condition : Option.Rel Spec.Pruned join.condition join'.condition
  pairs : join.pairs = join'.pairs

theorem pruneJoinField_other (key : String) (h : key ∉ ["on"]) (v : Value) :
    Value.pruneJoinField key v = v := by
  rw [Value.pruneJoinField, if_neg fun heq => h (List.mem_singleton.2 heq)]

theorem isUnset_pruneJoinField (name : String) (v : Value) :
    (Value.pruneJoinField name v).isUnset = v.isUnset := by
  rw [Value.pruneJoinField]
  split
  · exact Value.isUnset_prune v
  · rfl

def read (es : List (Value × Value)) : Checked Join :=
  Join.mk <$> FieldName.optional "type" .inner typeCheck es
    <*> FieldName.required "to" Spec.check es
    <*> FieldName.optional "on" none (.nullable Spec.check) es
    <*> FieldName.optional "match" none (.nullable (.mappingOf .text)) es

theorem check_eq : check = .schema .join ["type", "to", "on", "match"] read rule := rfl

theorem read_related {es : List (Value × Value)} (hnamed : ∀ e ∈ es, e.2.Named) :
    Related Pruned (read es) (read (Value.overFields Value.pruneJoinField es)) := by
  have huntouched : ∀ name : FieldName, (∀ key ∈ name.keys, key ∉ ["on"]) →
      FieldName.Untouched Value.pruneJoinField name := fun name =>
    FieldName.untouched_of_not_mem pruneJoinField_other
  have hcondition := Spec.optional_related (f := Value.pruneJoinField) "on" (fun v => if_pos rfl)
    hnamed
  have htype := (huntouched "type" (by decide)).optional JoinType.inner typeCheck es
  have htable := (huntouched "to" (by decide)).required Spec.check es
  have hpairs := (huntouched "match" (by decide)).optional none (.nullable (.mappingOf .text)) es
  refine .seq (.seq (.seq (htype.map ?_) htable) hcondition) hpairs
  rintro type _ rfl table _ rfl condition condition' hcond pairs _ rfl
  exact ⟨rfl, rfl, hcond, rfl⟩

theorem isNone_eq_of_rel {α β : Type} {R : α → β → Prop} {a : Option α} {b : Option β}
    (h : Option.Rel R a b) : a.isNone = b.isNone := by
  cases h <;> rfl

theorem rule_related {join join' : Join} (h : Pruned join join') :
    Related Pruned join.rule join'.rule := by
  rw [rule, rule, isNone_eq_of_rel h.condition, h.pairs]
  split
  · exact .invalid _
  · exact .valid h

theorem check_related {v : Value} (h : v.Named) : Related Pruned (check v) (check v.pruneJoin) := by
  rw [check_eq]
  cases v with
  | mapping es =>
    refine Check.schema_related isUnset_pruneJoinField (read_related fun e he => ?_)
      fun a b => rule_related
    exact h.part (List.mem_map_of_mem (Value.mem_dropUnset he).1)
  | record schema fields =>
    -- An instance is read from its fields, which are all given.
    have hfields : Value.overFields Value.pruneJoinField
        (fields.map fun f => (.text f.1, f.2)) =
          (fields.map fun f => (f.1, Value.pruneJoinField f.1 f.2)).map
            fun f => (.text f.1, f.2) := by
      rw [Value.overFields, List.map_map, List.map_map]
      rfl
    rw [Value.pruneJoin, Check.schema, Check.schema]
    split
    · rw [← hfields]
      refine read_related fun e he => ?_
      obtain ⟨f, hf, rfl⟩ := List.mem_map.1 he
      exact h.part (List.mem_map_of_mem hf)
    · exact .invalid _
  | _ => exact .invalid _

end Join

/-! ## Statements -/

theorem Value.pruneField_other (key : String)
    (h : key ∉ ["where", "order", "join", "values", "set"]) (v : Value) : pruneField key v = v := by
  simp only [List.mem_cons, List.not_mem_nil, or_false, not_or] at h
  obtain ⟨hwhere, horder, hjoin, hvalues, hset⟩ := h
  rw [pruneField, if_neg hwhere, if_neg horder, if_neg hjoin, if_neg (not_or.2 ⟨hvalues, hset⟩)]

theorem Value.isUnset_pruneField (name : String) (v : Value) :
    (pruneField name v).isUnset = v.isUnset := by
  rw [pruneField]
  split_ifs
  · exact isUnset_prune v
  · exact isUnset_pruneEach reshaped_prune v
  · exact isUnset_pruneEach reshaped_pruneJoin v
  · cases v <;> rfl
  · rfl

structure Select.Pruned (s s' : Select) : Prop where
  columns : s.columns = s'.columns
  table : s.table = s'.table
  join : Option.Rel (OneOrMany.Related Join.Pruned) s.join s'.join
  condition : Option.Rel Spec.Pruned s.condition s'.condition
  order : Option.Rel (OneOrMany.Related Spec.Pruned) s.order s'.order
  limit : s.limit = s'.limit
  offset : s.offset = s'.offset

structure Create.Pruned (c c' : Create) : Prop where
  table : c.table = c'.table
  values : c'.values = Value.dropUnset c.values
  returning : c.returning = c'.returning

structure Update.Pruned (u u' : Update) : Prop where
  table : u.table = u'.table
  assignments : u'.assignments = Value.dropUnset u.assignments
  condition : Option.Rel Spec.Pruned u.condition u'.condition

structure Delete.Pruned (d d' : Delete) : Prop where
  table : d.table = d'.table
  condition : Option.Rel Spec.Pruned d.condition d'.condition

/-- A field that pruning leaves as it is. -/
theorem untouched_pruneField (name : FieldName)
    (h : ∀ key ∈ name.keys, key ∉ ["where", "order", "join", "values", "set"]) :
    FieldName.Untouched Value.pruneField name :=
  FieldName.untouched_of_not_mem Value.pruneField_other h

section Fields

variable {es : List (Value × Value)}

theorem condition_related (hnamed : ∀ e ∈ es, e.2.Named) :
    Related (Option.Rel Spec.Pruned) (FieldName.optional "where" none (.nullable Spec.check) es)
      (FieldName.optional "where" none (.nullable Spec.check)
        (Value.overFields Value.pruneField es)) :=
  Spec.optional_related "where" (fun _ => if_pos rfl) hnamed

theorem order_related (hnamed : ∀ e ∈ es, e.2.Named) :
    Related (Option.Rel (OneOrMany.Related Spec.Pruned))
      (FieldName.optional "order" none (.nullable (OneOrMany.check Spec.check)) es)
      (FieldName.optional "order" none (.nullable (OneOrMany.check Spec.check))
        (Value.overFields Value.pruneField es)) := by
  refine OneOrMany.optional_related "order" (fun _ => rfl) (fun _ => rfl) Value.reshaped_prune
    (fun _ => Spec.check_related) (fun v => ?_) hnamed
  rw [Value.pruneField, if_neg (by decide), if_pos rfl]

theorem join_related (hnamed : ∀ e ∈ es, e.2.Named) :
    Related (Option.Rel (OneOrMany.Related Join.Pruned))
      (FieldName.optional "join" none (.nullable (OneOrMany.check Join.check)) es)
      (FieldName.optional "join" none (.nullable (OneOrMany.check Join.check))
        (Value.overFields Value.pruneField es)) := by
  refine OneOrMany.optional_related "join" (fun _ => rfl) (fun _ => rfl) Value.reshaped_pruneJoin
    (fun _ => Join.check_related) (fun v => ?_) hnamed
  rw [Value.pruneField, if_neg (by decide), if_neg (by decide), if_pos rfl]

/-- Values to write are those that are given. -/
theorem mappingOf_related {v : Value} (hv : v.Named) :
    Related (fun es es' => es' = Value.dropUnset es) (Check.mappingOf .any v)
      (Check.mappingOf .any v.pruneFirst) := by
  cases v with
  | mapping es =>
    rw [Value.pruneFirst, Check.mappingOf_any hv.byName, Check.mappingOf_any hv.byName.dropUnset]
    exact .valid (Spec.dropUnset_named es).symm
  | _ => exact .invalid _

theorem pruneField_written {key : String} (h : key = "values" ∨ key = "set") (v : Value) :
    Value.pruneField key v = v.pruneFirst := by
  rcases h with rfl | rfl
  · rw [Value.pruneField, if_neg (by decide), if_neg (by decide), if_neg (by decide),
      if_pos (.inl rfl)]
  · rw [Value.pruneField, if_neg (by decide), if_neg (by decide), if_neg (by decide),
      if_pos (.inr rfl)]

theorem values_related (hnamed : ∀ e ∈ es, e.2.Named) :
    Related (fun es es' => es' = Value.dropUnset es)
      (FieldName.optional "values" [] (.mappingOf .any) es)
      (FieldName.optional "values" [] (.mappingOf .any)
        (Value.overFields Value.pruneField es)) := by
  refine FieldName.optional_related rfl (List.forall_mem_singleton.2 fun k v hmem => ?_)
  rw [pruneField_written (.inl rfl)]
  exact mappingOf_related (hnamed _ hmem)

theorem assignments_related (hnamed : ∀ e ∈ es, e.2.Named) :
    Related (fun es es' => es' = Value.dropUnset es)
      (FieldName.required "set" (.mappingOf .any) es)
      (FieldName.required "set" (.mappingOf .any) (Value.overFields Value.pruneField es)) := by
  refine FieldName.required_related (List.forall_mem_singleton.2 fun k v hmem => ?_)
  rw [pruneField_written (.inr rfl)]
  exact mappingOf_related (hnamed _ hmem)

end Fields

section Statements

variable {es : List (Value × Value)}

theorem named_dropUnset (h : (Value.mapping es).Named) : ∀ e ∈ Value.dropUnset es, e.2.Named :=
  fun _ he => h.part (List.mem_map_of_mem (Value.mem_dropUnset he).1)

theorem Select.check_related (h : (Value.mapping es).Named) :
    Related Pruned (check (.mapping es)) (check (Value.mapping es).pruneSchema) := by
  rw [check]
  refine Check.schema_related Value.isUnset_pruneField ?_ fun a b => .valid
  have hnamed := named_dropUnset h
  have hcolumns := (untouched_pruneField "columns" (by decide)).optional (OneOrMany.one "*")
    (OneOrMany.check .text) (Value.dropUnset es)
  have htable := (untouched_pruneField ⟨"from", some "from_"⟩ (by decide)).required Spec.check
    (Value.dropUnset es)
  have hlimit := (untouched_pruneField "limit" (by decide)).optional none (.nullable .natural)
    (Value.dropUnset es)
  have hoffset := (untouched_pruneField "offset" (by decide)).optional none (.nullable .natural)
    (Value.dropUnset es)
  refine .seq (.seq (.seq (.seq (.seq (.seq (hcolumns.map ?_) htable) (join_related hnamed))
    (condition_related hnamed)) (order_related hnamed)) hlimit) hoffset
  rintro columns _ rfl table _ rfl join join' hjoin condition condition' hcondition order order'
    horder limit _ rfl offset _ rfl
  exact ⟨rfl, rfl, hjoin, hcondition, horder, rfl, rfl⟩

theorem Create.check_related (h : (Value.mapping es).Named) :
    Related Pruned (check (.mapping es)) (check (Value.mapping es).pruneSchema) := by
  refine Check.schema_related Value.isUnset_pruneField ?_ fun a b => .valid
  have htable := (untouched_pruneField "into" (by decide)).required Check.text
    (Value.dropUnset es)
  have hreturning := (untouched_pruneField "returning" (by decide)).optional none
    (.nullable (OneOrMany.check .text)) (Value.dropUnset es)
  refine .seq (.seq (htable.map ?_) (values_related (named_dropUnset h))) hreturning
  rintro table _ rfl values _ rfl returning _ rfl
  exact ⟨rfl, rfl, rfl⟩

theorem Update.check_related (h : (Value.mapping es).Named) :
    Related Pruned (check (.mapping es)) (check (Value.mapping es).pruneSchema) := by
  refine Check.schema_related Value.isUnset_pruneField ?_ fun a b => .valid
  have htable := (untouched_pruneField "on" (by decide)).required Check.text (Value.dropUnset es)
  have hnamed := named_dropUnset h
  refine .seq (.seq (htable.map ?_) (assignments_related hnamed)) (condition_related hnamed)
  rintro table _ rfl assignments _ rfl condition condition' hcondition
  exact ⟨rfl, rfl, hcondition⟩

theorem Delete.check_related (h : (Value.mapping es).Named) :
    Related Pruned (check (.mapping es)) (check (Value.mapping es).pruneSchema) := by
  rw [check]
  refine Check.schema_related Value.isUnset_pruneField ?_ fun a b => .valid
  have htable := (untouched_pruneField ⟨"from", some "from_"⟩ (by decide)).required Check.text
    (Value.dropUnset es)
  refine .seq (htable.map ?_) (condition_related (named_dropUnset h))
  rintro table _ rfl condition condition' hcondition
  exact ⟨rfl, hcondition⟩

end Statements

end ParamSql
