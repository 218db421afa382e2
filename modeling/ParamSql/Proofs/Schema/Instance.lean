import ParamSql.Proofs.Schema.Projection
import ParamSql.Proofs.Schema.Replaced

/-!
Schemas of which parts are given in another way.

A schema that is a mapping may be given with some values replaced, or as the instance that it is
checked into (`SchemaName.Given`); so may a join in a SELECT. What is given in such a way passes the
same checks, with results that are related field by field, or fails with the same issues
(`Join.check_given`, `Select.check_given` and the like): an instance is read again from its fields.
Which values are replaced in tables and in conditions, and how, is left open here.
-/

namespace ParamSql

open Checked Relation

/-! ## Schemas -/

/-- A mapping with values that are given otherwise, or the instance that it is checked into. -/
inductive SchemaName.Given (self : SchemaName) (R : String → Value → Value → Prop) :
    Value → Value → Prop where
  | fields {es es' : List (Value × Value)} (h : Value.Replaced R es es') :
    Given self R (.mapping es) (.mapping es')
  | checked {es : List (Value × Value)} {s : Value} (h : self.check (.mapping es) = .valid s) :
    Given self R (.mapping es) s

/-- One value that is given otherwise, or a list with such values. -/
inductive Value.Each (G : Value → Value → Prop) : Value → Value → Prop where
  | one {v v' : Value} (h : G v v') : Each G v v'
  | list {items items' : List Value} (h : List.Forall₂ (ReflGen G) items items') :
    Each G (.list items) (.list items')
  | tuple {items items' : List Value} (h : List.Forall₂ (ReflGen G) items items') :
    Each G (.tuple items) (.tuple items')

/-- What a value is checked into is a record. -/
theorem SchemaName.exists_record {self : SchemaName} {v s : Value} (h : self.check v = .valid s) :
    ∃ fields, s = .record self fields := by
  obtain ⟨α, r, rfl, hr, -⟩ := self.exists_reading
  rw [hr.check_eq] at h
  obtain ⟨a, -, rfl⟩ := Checked.map_eq_valid h
  exact ⟨r.fields a, rfl⟩

section Given

variable {R : String → Value → Value → Prop} {self : SchemaName} {v v' : Value}

theorem SchemaName.Given.isNull_eq (h : self.Given R v v') : v.isNull = v'.isNull := by
  cases h with
  | fields => rfl
  | checked h =>
    obtain ⟨fields, rfl⟩ := SchemaName.exists_record h
    rfl

theorem SchemaName.Given.isUnset_eq (h : self.Given R v v') : v.isUnset = v'.isUnset := by
  cases h with
  | fields => rfl
  | checked h =>
    obtain ⟨fields, rfl⟩ := SchemaName.exists_record h
    rfl

/-- An instance is read as what it was checked into. -/
theorem Reading.Lawful.check_given {α : Type} {r : Reading α} {S : α → α → Prop} (hr : r.Lawful)
    (hrefl : ∀ a, S a a) (hset : ∀ name v v', R name v v' → v.isUnset = v'.isUnset)
    (hread : ∀ es es', (∀ e ∈ es, e.2.Proper) → Value.Replaced R es es' →
      Related S (r.read es) (r.read es'))
    (hrule : ∀ a b, S a b → Related S (r.rule a) (r.rule b)) (hv : v.Proper)
    (h : r.self.Given R v v') : Related S (r.check v) (r.check v') := by
  cases h with
  | @fields es es' h =>
    refine Check.schema_replaced hset h (hread _ _ (fun e he => ?_) (h.dropUnset hset)) hrule
    exact hv.part (List.mem_map_of_mem (Value.mem_dropUnset he).1)
  | checked h =>
    rw [hr.check_eq] at h
    obtain ⟨a, ha, rfl⟩ := Checked.map_eq_valid h
    rw [ha, (hr.settled hv ha).record]
    exact .valid (hrefl a)

theorem FieldName.kept_of_mem {name : FieldName} {replaced : List String}
    (hR : ∀ key v v', R key v v' → key ∈ replaced) (h : ∀ key ∈ name.keys, key ∉ replaced) :
    Kept R name :=
  fun key hkey v v' hv => h key hkey (hR key v v' hv)

end Given

section Statements

-- How the values in tables and in conditions are given otherwise.
variable {T W : String → Value → Value → Prop}

theorem optionRel_refl {α : Type} {S : α → α → Prop} (h : ∀ a, S a a) (o : Option α) :
    Option.Rel S o o := by
  cases o with
  | none => exact .none
  | some a => exact .some (h a)

theorem Spec.nullable_replaced {R : String → Value → Value → Prop} {es es' : List (Value × Value)}
    (h : Value.Replaced R es es') :
    Related (Option.Rel (Spec.Replaced R)) (Check.nullable Spec.check (.mapping es))
      (Check.nullable Spec.check (.mapping es')) :=
  Check.nullable_related (Spec.check_replaced h) rfl

/-! ### Joins -/

namespace Join

/-- The fields of a join that hold what may be given otherwise. -/
inductive Field (T W : String → Value → Value → Prop) : String → Value → Value → Prop where
  | table {key : String} {es es' : List (Value × Value)} (hkey : key = "to")
    (h : Value.Replaced T es es') : Field T W key (.mapping es) (.mapping es')
  | condition {key : String} {es es' : List (Value × Value)} (hkey : key = "on")
    (h : Value.Replaced W es es') : Field T W key (.mapping es) (.mapping es')

theorem Field.mem {key : String} {v v' : Value} (h : Field T W key v v') : key ∈ ["to", "on"] := by
  cases h with
  | table hkey | condition hkey => simp [hkey]

theorem Field.isUnset_eq (key : String) (v v' : Value) (h : Field T W key v v') :
    v.isUnset = v'.isUnset := by
  cases h <;> rfl

/-- Joins with the same fields, but for the values in their table and in their condition. -/
structure Replaced (T W : String → Value → Value → Prop) (join join' : Join) : Prop where
  type : join.type = join'.type
  table : Spec.Replaced T join.table join'.table
  condition : Option.Rel (Spec.Replaced W) join.condition join'.condition
  pairs : join.pairs = join'.pairs

theorem Replaced.refl (join : Join) : Replaced T W join join :=
  ⟨rfl, .same _, optionRel_refl .same _, rfl⟩

variable {es es' : List (Value × Value)}

theorem kept (name : FieldName) (h : ∀ key ∈ name.keys, key ∉ ["to", "on"]) :
    FieldName.Kept (Field T W) name :=
  FieldName.kept_of_mem (fun _ _ _ => Field.mem) h

theorem read_replaced (h : Value.Replaced (Field T W) es es') :
    Related (Replaced T W) (read es) (read es') := by
  have htype := (kept "type" (by decide)).optional h JoinType.inner typeCheck
  have htable : Related (Spec.Replaced T) (FieldName.required "to" Spec.check es)
      (FieldName.required "to" Spec.check es') := by
    refine FieldName.required_replaced h .same (List.forall_mem_singleton.2 fun k v v' _ hv => ?_)
    cases hv with
    | table _ h => exact Spec.check_replaced h
    | condition hkey _ => exact absurd hkey (by decide)
  have hcondition : Related (Option.Rel (Spec.Replaced W))
      (FieldName.optional "on" none (.nullable Spec.check) es)
      (FieldName.optional "on" none (.nullable Spec.check) es') := by
    refine FieldName.optional_replaced h (optionRel_refl .same) none
      (List.forall_mem_singleton.2 fun k v v' _ hv => ?_)
    cases hv with
    | table hkey _ => exact absurd hkey (by decide)
    | condition _ h => exact Spec.nullable_replaced h
  have hpairs := (kept "match" (by decide)).optional h none (.nullable (.mappingOf .text))
  refine .seq (.seq (.seq (htype.map ?_) htable) hcondition) hpairs
  rintro type _ rfl table table' htable condition condition' hcondition pairs _ rfl
  exact ⟨rfl, htable, hcondition, rfl⟩

theorem rule_replaced {join join' : Join} (h : Replaced T W join join') :
    Related (Replaced T W) join.rule join'.rule := by
  rw [rule, rule, isNone_eq_of_rel h.condition, h.pairs]
  split
  · exact .invalid _
  · exact .valid h

variable {v v' : Value}

theorem check_given (hv : v.Proper) (h : SchemaName.join.Given (Field T W) v v') :
    Related (Replaced T W) (check v) (check v') :=
  lawful.check_given .refl Field.isUnset_eq (fun _ _ _ => read_replaced) (fun _ _ => rule_replaced)
    hv h

/-- One join, or a list of joins. -/
theorem each_given (hv : v.Proper) (h : Value.Each (SchemaName.join.Given (Field T W)) v v') :
    Related (OneOrMany.Related (Replaced T W)) (OneOrMany.check check v)
      (OneOrMany.check check v') := by
  have hitems : ∀ {items items' : List Value}, (∀ item ∈ items, item.Proper) →
      List.Forall₂ (ReflGen (SchemaName.join.Given (Field T W))) items items' →
      Related (OneOrMany.Related (Replaced T W)) ((Check.items check 0 items).map .many)
        ((Check.items check 0 items').map .many) := by
    intro items items' hproper hitems
    have hboth := (List.forall₂_and_left _ _).2 ⟨hproper, hitems⟩
    refine (Check.items_related (hboth.imp fun item item' hitem => ?_) 0).map fun _ _ => .many
    obtain ⟨hproper, hgiven⟩ := hitem
    cases hgiven with
    | refl => exact .refl .refl _
    | single hgiven => exact check_given hproper hgiven
  cases h with
  | list h => exact Check.either_related (.invalid _) (hitems (fun _ => hv.part) h)
  | tuple h => exact Check.either_related (.invalid _) (hitems (fun _ => hv.part) h)
  | one h =>
    have hone := check_given hv h
    cases h with
    | fields h => exact Check.either_related (hone.map fun _ _ => .one) (.invalid _)
    | checked hcheck =>
      -- The mapping and its instance are both one join, so lists are not tried.
      obtain ⟨join, hjoin, rfl⟩ := Checked.map_eq_valid hcheck
      have hrecord : check join.toValue = .valid join := (lawful.settled hv hjoin).record
      rw [OneOrMany.check, Check.either_of_first (congrArg (Checked.map OneOrMany.one) hjoin),
        Check.either_of_first (congrArg (Checked.map OneOrMany.one) hrecord)]
      exact .valid (.one (.refl join))

end Join

theorem Value.Each.isNull_eq {v v' : Value}
    (h : Each (SchemaName.join.Given (Join.Field T W)) v v') : v.isNull = v'.isNull := by
  cases h with
  | one h => exact h.isNull_eq
  | list | tuple => rfl

theorem Value.Each.isUnset_eq {v v' : Value}
    (h : Each (SchemaName.join.Given (Join.Field T W)) v v') : v.isUnset = v'.isUnset := by
  cases h with
  | one h => exact h.isUnset_eq
  | list | tuple => rfl

/-! ### Statements -/

namespace Select

inductive Field (T W : String → Value → Value → Prop) : String → Value → Value → Prop where
  | table {key : String} {es es' : List (Value × Value)} (hkey : key = "from" ∨ key = "from_")
    (h : Value.Replaced T es es') : Field T W key (.mapping es) (.mapping es')
  | condition {key : String} {es es' : List (Value × Value)} (hkey : key = "where")
    (h : Value.Replaced W es es') : Field T W key (.mapping es) (.mapping es')
  | join {key : String} {v v' : Value} (hkey : key = "join")
    (h : Value.Each (SchemaName.join.Given (Join.Field T W)) v v') : Field T W key v v'

theorem Field.mem {key : String} {v v' : Value} (h : Field T W key v v') :
    key ∈ ["from", "from_", "where", "join"] := by
  cases h with
  | table hkey => rcases hkey with rfl | rfl <;> simp
  | condition hkey | join hkey => simp [hkey]

theorem Field.isUnset_eq (key : String) (v v' : Value) (h : Field T W key v v') :
    v.isUnset = v'.isUnset := by
  cases h with
  | table | condition => rfl
  | join _ h => exact h.isUnset_eq

/-- SELECTs with the same fields, but for the values in their tables, joins and condition. -/
structure Replaced (T W : String → Value → Value → Prop) (s s' : Select) : Prop where
  columns : s.columns = s'.columns
  table : Spec.Replaced T s.table s'.table
  join : Option.Rel (OneOrMany.Related (Join.Replaced T W)) s.join s'.join
  condition : Option.Rel (Spec.Replaced W) s.condition s'.condition
  order : s.order = s'.order
  limit : s.limit = s'.limit
  offset : s.offset = s'.offset

theorem relatedJoins_refl (joins : OneOrMany Join) :
    OneOrMany.Related (Join.Replaced T W) joins joins := by
  cases joins with
  | one join => exact .one (.refl join)
  | many joins => exact .many (List.forall₂_same.2 fun join _ => .refl join)

theorem Replaced.refl (s : Select) : Replaced T W s s :=
  ⟨rfl, .same _, optionRel_refl relatedJoins_refl _, optionRel_refl .same _, rfl, rfl, rfl⟩

variable {es es' : List (Value × Value)}

theorem kept (name : FieldName) (h : ∀ key ∈ name.keys, key ∉ ["from", "from_", "where", "join"]) :
    FieldName.Kept (Field T W) name :=
  FieldName.kept_of_mem (fun _ _ _ => Field.mem) h

theorem read_replaced (hes : ∀ e ∈ es, e.2.Proper) (h : Value.Replaced (Field T W) es es') :
    Related (Replaced T W) (reading.read es) (reading.read es') := by
  have hcolumns := (kept "columns" (by decide)).optional h (OneOrMany.one "*")
    (OneOrMany.check .text)
  have htable : Related (Spec.Replaced T) (FieldName.required ⟨"from", some "from_"⟩ Spec.check es)
      (FieldName.required ⟨"from", some "from_"⟩ Spec.check es') := by
    refine FieldName.required_replaced h .same fun key hkey k v v' _ hv => ?_
    have hfrom : key = "from" ∨ key = "from_" := by simpa [FieldName.keys] using hkey
    cases hv with
    | table _ h => exact Spec.check_replaced h
    | condition hkey _ | join hkey _ =>
      rcases hfrom with rfl | rfl <;> exact absurd hkey (by decide)
  have hjoin : Related (Option.Rel (OneOrMany.Related (Join.Replaced T W)))
      (FieldName.optional "join" none (.nullable (OneOrMany.check Join.check)) es)
      (FieldName.optional "join" none (.nullable (OneOrMany.check Join.check)) es') := by
    refine FieldName.optional_replaced h (optionRel_refl relatedJoins_refl) none
      (List.forall_mem_singleton.2 fun k v v' hmem hv => ?_)
    cases hv with
    | table hkey _ => rcases hkey with hkey | hkey <;> exact absurd hkey (by decide)
    | condition hkey _ => exact absurd hkey (by decide)
    | join _ h => exact Check.nullable_related (Join.each_given (hes _ hmem) h) h.isNull_eq
  have hcondition : Related (Option.Rel (Spec.Replaced W))
      (FieldName.optional "where" none (.nullable Spec.check) es)
      (FieldName.optional "where" none (.nullable Spec.check) es') := by
    refine FieldName.optional_replaced h (optionRel_refl .same) none
      (List.forall_mem_singleton.2 fun k v v' _ hv => ?_)
    cases hv with
    | table hkey _ => rcases hkey with hkey | hkey <;> exact absurd hkey (by decide)
    | condition _ h => exact Spec.nullable_replaced h
    | join hkey _ => exact absurd hkey (by decide)
  have horder := (kept "order" (by decide)).optional h none
    (.nullable (OneOrMany.check Spec.check))
  have hlimit := (kept "limit" (by decide)).optional h none (.nullable .natural)
  have hoffset := (kept "offset" (by decide)).optional h none (.nullable .natural)
  refine .seq (.seq (.seq (.seq (.seq (.seq (hcolumns.map ?_) htable) hjoin) hcondition) horder)
    hlimit) hoffset
  rintro columns _ rfl table table' htable join join' hjoin condition condition' hcondition order _
    rfl limit _ rfl offset _ rfl
  exact ⟨rfl, htable, hjoin, hcondition, rfl, rfl, rfl⟩

theorem check_given {v v' : Value} (hv : v.Proper)
    (h : SchemaName.select.Given (Field T W) v v') :
    Related (Replaced T W) (check v) (check v') :=
  lawful.check_given .refl Field.isUnset_eq (fun _ _ => read_replaced) (fun _ _ => .valid) hv h

end Select

/-- The field of an UPDATE or a DELETE that holds what may be given otherwise. -/
inductive Restriction (W : String → Value → Value → Prop) : String → Value → Value → Prop where
  | condition {key : String} {es es' : List (Value × Value)} (hkey : key = "where")
    (h : Value.Replaced W es es') : Restriction W key (.mapping es) (.mapping es')

namespace Restriction

theorem mem {key : String} {v v' : Value} (h : Restriction W key v v') : key ∈ ["where"] := by
  cases h with
  | condition hkey => simp [hkey]

theorem isUnset_eq (key : String) (v v' : Value) (h : Restriction W key v v') :
    v.isUnset = v'.isUnset := by
  cases h
  rfl

variable {es es' : List (Value × Value)}

theorem kept (name : FieldName) (h : ∀ key ∈ name.keys, key ∉ ["where"]) :
    FieldName.Kept (Restriction W) name :=
  FieldName.kept_of_mem (fun _ _ _ => mem) h

theorem condition_replaced (h : Value.Replaced (Restriction W) es es') :
    Related (Option.Rel (Spec.Replaced W))
      (FieldName.optional "where" none (.nullable Spec.check) es)
      (FieldName.optional "where" none (.nullable Spec.check) es') := by
  refine FieldName.optional_replaced h (optionRel_refl .same) none
    (List.forall_mem_singleton.2 fun k v v' _ hv => ?_)
  cases hv with
  | condition _ h => exact Spec.nullable_replaced h

end Restriction

namespace Update

structure Replaced (W : String → Value → Value → Prop) (u u' : Update) : Prop where
  table : u.table = u'.table
  assignments : u.assignments = u'.assignments
  condition : Option.Rel (Spec.Replaced W) u.condition u'.condition

theorem Replaced.refl (u : Update) : Replaced W u u :=
  ⟨rfl, rfl, optionRel_refl .same _⟩

theorem read_replaced {es es' : List (Value × Value)} (h : Value.Replaced (Restriction W) es es') :
    Related (Replaced W) (reading.read es) (reading.read es') := by
  have htable := (Restriction.kept "on" (by decide)).required h .text
  have hassignments := (Restriction.kept "set" (by decide)).required h (.mappingOf .any)
  refine .seq (.seq (htable.map ?_) hassignments) (Restriction.condition_replaced h)
  rintro table _ rfl assignments _ rfl condition condition' hcondition
  exact ⟨rfl, rfl, hcondition⟩

theorem check_given {v v' : Value} (hv : v.Proper)
    (h : SchemaName.update.Given (Restriction W) v v') :
    Related (Replaced W) (check v) (check v') :=
  joinless.lawful.check_given .refl Restriction.isUnset_eq (fun _ _ _ => read_replaced)
    (fun _ _ => .valid) hv h

end Update

namespace Delete

structure Replaced (W : String → Value → Value → Prop) (d d' : Delete) : Prop where
  table : d.table = d'.table
  condition : Option.Rel (Spec.Replaced W) d.condition d'.condition

theorem Replaced.refl (d : Delete) : Replaced W d d :=
  ⟨rfl, optionRel_refl .same _⟩

theorem read_replaced {es es' : List (Value × Value)} (h : Value.Replaced (Restriction W) es es') :
    Related (Replaced W) (reading.read es) (reading.read es') := by
  have htable := (Restriction.kept ⟨"from", some "from_"⟩ (by decide)).required h .text
  refine .seq (htable.map ?_) (Restriction.condition_replaced h)
  rintro table _ rfl condition condition' hcondition
  exact ⟨rfl, hcondition⟩

theorem check_given {v v' : Value} (hv : v.Proper)
    (h : SchemaName.delete.Given (Restriction W) v v') :
    Related (Replaced W) (check v) (check v') :=
  joinless.lawful.check_given .refl Restriction.isUnset_eq (fun _ _ _ => read_replaced)
    (fun _ _ => .valid) hv h

end Delete

/-- Nothing in an INSERT may be given otherwise but the whole of it. -/
theorem Create.check_given {v v' : Value} (hv : v.Proper)
    (h : SchemaName.create.Given (fun _ _ _ => False) v v') :
    Related Eq (check v) (check v') := by
  have hkept : ∀ name, FieldName.Kept (fun _ _ _ => False) name := fun _ _ _ _ _ => id
  refine joinless.lawful.check_given (fun _ => rfl) (fun _ _ _ => False.elim) (fun es es' _ h => ?_)
    (fun a b hab => hab ▸ .refl (fun _ => rfl) _) hv h
  have htable := (hkept "into").required h .text
  have hvalues := (hkept "values").optional h [] (.mappingOf .any)
  have hreturning := (hkept "returning").optional h none (.nullable (OneOrMany.check .text))
  refine .seq (.seq (htable.map ?_) hvalues) hreturning
  rintro table _ rfl values _ rfl returning _ rfl
  rfl

end Statements

end ParamSql
