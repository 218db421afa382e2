import ParamSql.Proofs.Schema.Reading

/-!
Checking a schema is a projection.

An instance that came out of a check is what its fields are checked into again, given as a mapping
by name (`check_projection`): no value in it is converted any further. It and every instance in it
are as their schemas demand, and the open mappings of the given value are in it as they were.
-/

namespace ParamSql

open Check

/-! ## Specifications and kinds of joins -/

theorem Spec.check_eq_valid {v : Value} {spec : Spec} (h : check v = .valid spec) :
    (∃ s, Check.text v = .valid s ∧ spec = .text s) ∨
      ∃ es, mappingOf .any v = .valid es ∧ spec = .mapping es := by
  rcases either_eq_valid h with h | ⟨-, h⟩
  · obtain ⟨s, hs, rfl⟩ := Checked.map_eq_valid h
    exact .inl ⟨s, hs, rfl⟩
  · obtain ⟨es, hes, rfl⟩ := Checked.map_eq_valid h
    exact .inr ⟨es, hes, rfl⟩

theorem Spec.check_settles : check.Settles toValue Eq KeptMapping where
  again := by
    rintro v spec hv h _ rfl
    rcases check_eq_valid h with ⟨s, -, rfl⟩ | ⟨es, hes, rfl⟩
    · exact either_of_first rfl
    · have hagain := mappingOf_any_settles.again hv hes _ rfl
      exact either_of_second rfl (congrArg (Checked.map mapping) hagain)
  proper := by
    intro v spec hv h
    rcases check_eq_valid h with ⟨s, -, rfl⟩ | ⟨es, hes, rfl⟩
    · exact Value.proper_text s
    · exact mappingOf_any_settles.proper hv hes
  kept := by
    intro v spec hv h
    rcases check_eq_valid h with ⟨s, hs, rfl⟩ | ⟨es, hes, rfl⟩
    · exact text_settles.kept hv hs
    · exact mappingOf_any_settles.kept hv hes

theorem Spec.optional_settles : (nullable check).Settles (optionValue toValue) Eq KeptMapping :=
  Check.nullable_settles check_settles (fun spec => by cases spec <;> rfl)
    (fun _ _ => congrArg _) nofun

theorem Join.typeCheck_settles :
    typeCheck.Settles (fun t => .constant (.joinType t)) Eq KeptMapping := by
  refine .of_scalar (fun t => ?_) (fun _ => .scalar nofun rfl) fun _ => ⟨_, rfl⟩
  cases t <;> rfl

/-! ## Values that are shown -/

section Shown

variable {α : Type} {toValue : α → Value}

theorem Spec.isUnset_toValue (spec : Spec) : spec.toValue.isUnset = false := by
  cases spec <;> rfl

theorem Spec.isNull_toValue (spec : Spec) : spec.toValue.isNull = false := by
  cases spec <;> rfl

theorem isUnset_optionValue (h : ∀ a, (toValue a).isUnset = false) (o : Option α) :
    (optionValue toValue o).isUnset = false := by
  cases o with
  | none => rfl
  | some a => exact h a

theorem optionValue_eq_null (h : ∀ a, (toValue a).isNull = false) {o : Option α} :
    optionValue toValue o = .null ↔ o = none := by
  cases o with
  | none => exact ⟨fun _ => rfl, fun _ => rfl⟩
  | some a =>
    refine ⟨fun hnull => ?_, nofun⟩
    have hvalue := h a
    rw [show toValue a = .null from hnull] at hvalue
    cases hvalue

theorem OneOrMany.isUnset_toValue (h : ∀ a, (toValue a).isUnset = false) (o : OneOrMany α) :
    (o.toValue toValue).isUnset = false := by
  cases o with
  | one a => exact h a
  | many as => rfl

theorem OneOrMany.isNull_toValue (h : ∀ a, (toValue a).isNull = false) (o : OneOrMany α) :
    (o.toValue toValue).isNull = false := by
  cases o with
  | one a => exact h a
  | many as => rfl

end Shown

/-! ## One or many -/

theorem Check.list_settles_each {α : Type} {single : Check α} {toValue : α → Value}
    (h : single.Settles toValue Eq KeptMapping)
    (hlist : ∀ vs, (∃ issues, single (.list vs) = .invalid issues) ∧
      ∃ issues, single (.tuple vs) = .invalid issues)
    (hvalue : ∀ a us, toValue a ≠ .list us) :
    (OneOrMany.check single).Settles (OneOrMany.toValue toValue) Eq (KeptEach KeptMapping) := by
  have heach := oneOrMany_settles h hlist hvalue (fun _ => rfl) (fun _ _ => Eq.symm)
    fun v u _ _ hv es hes => absurd hes (hv es)
  exact heach.mono (fun _ _ => .one) fun _ _ => id

theorem text_each_settles : (OneOrMany.check Check.text).Settles (OneOrMany.toValue .text) Eq
    KeptMapping := by
  have heach := Check.list_settles_each text_settles (fun _ => ⟨⟨_, rfl⟩, _, rfl⟩) nofun
  exact heach.mono (fun _ _ => id) fun _ _ => And.left

theorem text_each_nullable : (nullable (OneOrMany.check Check.text)).Settles
    (optionValue (OneOrMany.toValue .text)) Eq KeptMapping :=
  nullable_settles text_each_settles (OneOrMany.isNull_toValue fun _ => rfl)
    (fun _ _ => congrArg _) nofun

theorem Spec.each_settles : (nullable (OneOrMany.check Spec.check)).Settles
    (optionValue (OneOrMany.toValue Spec.toValue)) Eq (KeptEach KeptMapping) := by
  have heach := Check.list_settles_each Spec.check_settles (fun _ => ⟨⟨_, rfl⟩, _, rfl⟩)
    fun spec _ => by cases spec <;> nofun
  refine nullable_settles heach ?_ (fun _ _ => congrArg _) ?_
  · exact OneOrMany.isNull_toValue Spec.isNull_toValue
  · refine ⟨nofun, ?_⟩
    rintro vs (h | h) <;> cases h

/-! ## The schemas without joins -/

def RawQuery.reading : Reading RawQuery where
  self := .rawQuery
  names := ["query", "values"]
  read es := RawQuery.mk <$> FieldName.required "query" .text es
    <*> FieldName.optional "values" [] (.listOf .any) es
  rule := .valid
  fields q := [("query", .text q.query), ("values", .list q.values)]

theorem RawQuery.joinless : reading.Joinless where
  check_eq _ := rfl
  rule_eq a b h := (Checked.valid.inj h).symm
  given q := by
    simp only [reading, List.forall_mem_cons]
    exact ⟨rfl, rfl, List.forall_mem_nil _⟩
  joinless q := by simp [reading]
  known _ := rfl
  read es q hes h := by
    obtain ⟨_, values, hfirst, hvalues, rfl⟩ := Checked.seq_eq_valid h
    obtain ⟨query, hquery, rfl⟩ := Checked.map_eq_valid hfirst
    have hquery := text_settles.required hes hquery
    have hvalues := listOf_any_settles.optional (fun _ hw => hw ▸ rfl)
      (Value.proper_list (List.forall_mem_nil _)) hes hvalues
    refine ⟨?_, .cons (hquery.read_open (by decide))
      (.cons (hvalues.read_open (by decide)) .nil)⟩
    simp only [reading]
    rw [hquery.required_again rfl rfl, hvalues.optional_again rfl rfl]
    rfl

def Create.reading : Reading Create where
  self := .create
  names := ["into", "values", "returning"]
  read es := Create.mk <$> FieldName.required "into" .text es
    <*> FieldName.optional "values" [] (.mappingOf .any) es
    <*> FieldName.optional "returning" none (.nullable (OneOrMany.check .text)) es
  rule := .valid
  fields c := [("into", .text c.table), ("values", (Spec.mapping c.values).toValue),
    ("returning", optionValue (OneOrMany.toValue .text) c.returning)]

theorem Create.joinless : reading.Joinless where
  check_eq _ := rfl
  rule_eq a b h := (Checked.valid.inj h).symm
  given c := by
    simp only [reading, List.forall_mem_cons]
    exact ⟨rfl, rfl, isUnset_optionValue (OneOrMany.isUnset_toValue fun _ => rfl) _,
      List.forall_mem_nil _⟩
  joinless c := by simp [reading]
  known _ := rfl
  read es c hes h := by
    obtain ⟨_, returning, hfront, hreturning, rfl⟩ := Checked.seq_eq_valid h
    obtain ⟨_, values, hfirst, hvalues, rfl⟩ := Checked.seq_eq_valid hfront
    obtain ⟨table, htable, rfl⟩ := Checked.map_eq_valid hfirst
    have htable := text_settles.required hes htable
    have hvalues := mappingOf_any_settles.optional (fun _ hw => hw ▸ rfl)
      (Value.proper_mapping (List.forall_mem_nil _)) hes hvalues
    have hreturning := text_each_nullable.optional_none (fun _ _ => congrArg _) hes hreturning
    refine ⟨?_, .cons (htable.read_open (by decide))
      (.cons (hvalues.read_open (by decide)) (.cons (hreturning.read_open (by decide)) .nil))⟩
    simp only [reading]
    rw [htable.required_again rfl rfl, hvalues.optional_again rfl rfl,
      hreturning.optional_again rfl rfl]
    rfl

def Update.reading : Reading Update where
  self := .update
  names := ["on", "set", "where"]
  read es := Update.mk <$> FieldName.required "on" .text es
    <*> FieldName.required "set" (.mappingOf .any) es
    <*> FieldName.optional "where" none (.nullable Spec.check) es
  rule := .valid
  fields u := [("on", .text u.table), ("set", (Spec.mapping u.assignments).toValue),
    ("where", optionValue Spec.toValue u.condition)]

theorem Update.joinless : reading.Joinless where
  check_eq _ := rfl
  rule_eq a b h := (Checked.valid.inj h).symm
  given u := by
    simp only [reading, List.forall_mem_cons]
    exact ⟨rfl, rfl, isUnset_optionValue Spec.isUnset_toValue _, List.forall_mem_nil _⟩
  joinless u := by simp [reading]
  known _ := rfl
  read es u hes h := by
    obtain ⟨_, condition, hfront, hcondition, rfl⟩ := Checked.seq_eq_valid h
    obtain ⟨_, assignments, hfirst, hassignments, rfl⟩ := Checked.seq_eq_valid hfront
    obtain ⟨table, htable, rfl⟩ := Checked.map_eq_valid hfirst
    have htable := text_settles.required hes htable
    have hassignments := mappingOf_any_settles.required hes hassignments
    have hcondition := Spec.optional_settles.optional_none (fun _ _ => congrArg _) hes hcondition
    refine ⟨?_, .cons (htable.read_open (by decide))
      (.cons (hassignments.read_open (by decide))
        (.cons (hcondition.read_open (by decide)) .nil))⟩
    simp only [reading]
    rw [htable.required_again rfl rfl, hassignments.required_again rfl rfl,
      hcondition.optional_again rfl rfl]
    rfl

def Delete.reading : Reading Delete where
  self := .delete
  names := [⟨"from", some "from_"⟩, "where"]
  read es := Delete.mk <$> FieldName.required ⟨"from", some "from_"⟩ .text es
    <*> FieldName.optional "where" none (.nullable Spec.check) es
  rule := .valid
  fields d := [("from_", .text d.table), ("where", optionValue Spec.toValue d.condition)]

theorem Delete.joinless : reading.Joinless where
  check_eq _ := rfl
  rule_eq a b h := (Checked.valid.inj h).symm
  given d := by
    simp only [reading, List.forall_mem_cons]
    exact ⟨rfl, isUnset_optionValue Spec.isUnset_toValue _, List.forall_mem_nil _⟩
  joinless d := by simp [reading]
  known _ := rfl
  read es d hes h := by
    obtain ⟨_, condition, hfirst, hcondition, rfl⟩ := Checked.seq_eq_valid h
    obtain ⟨table, htable, rfl⟩ := Checked.map_eq_valid hfirst
    have htable := text_settles.required hes htable
    have hcondition := Spec.optional_settles.optional_none (fun _ _ => congrArg _) hes hcondition
    refine ⟨?_, .cons (htable.read_open (by decide))
      (.cons (hcondition.read_open (by decide)) .nil)⟩
    simp only [reading]
    rw [htable.required_again rfl rfl, hcondition.optional_again rfl rfl]
    rfl

/-! ## Joins -/

def Join.reading : Reading Join where
  self := .join
  names := ["type", "to", "on", "match"]
  read := read
  rule := rule
  fields join := [("type", .constant (.joinType join.type)), ("to", join.table.toValue),
    ("on", optionValue Spec.toValue join.condition),
    ("match", optionValue (fun pairs => .mapping (pairs.map fun p => (.text p.1, .text p.2)))
      join.pairs)]

theorem Join.rule_eq_valid {join join' : Join} (h : join.rule = .valid join') :
    join' = join ∧ join.condition.isNone ≠ join.pairs.isNone := by
  rw [rule] at h
  split at h
  · cases h
  · next hrule => exact ⟨(Checked.valid.inj h).symm, fun heq => hrule (beq_iff_eq.2 heq)⟩

theorem Join.pairs_settles : (nullable (mappingOf .text)).Settles
    (optionValue fun pairs => .mapping (pairs.map fun p => (.text p.1, .text p.2))) Eq
      fun _ _ => True :=
  nullable_settles (mappingOf_settles text_settles) (fun _ => rfl) (fun _ _ => congrArg _) trivial

theorem Join.joinless : reading.Joinless where
  check_eq _ := rfl
  rule_eq a b h := (rule_eq_valid h).1
  given join := by
    simp only [reading, List.forall_mem_cons]
    exact ⟨rfl, Spec.isUnset_toValue _, isUnset_optionValue Spec.isUnset_toValue _,
      isUnset_optionValue (fun _ => rfl) _, List.forall_mem_nil _⟩
  joinless join := by simp [reading]
  known _ := rfl
  read es join hes h := by
    obtain ⟨_, pairs, hfront, hpairs, rfl⟩ := Checked.seq_eq_valid h
    obtain ⟨_, condition, hfront', hcondition, rfl⟩ := Checked.seq_eq_valid hfront
    obtain ⟨_, table, hfirst, htable, rfl⟩ := Checked.seq_eq_valid hfront'
    obtain ⟨type, htype, rfl⟩ := Checked.map_eq_valid hfirst
    have htype := typeCheck_settles.optional (fun _ hw => hw ▸ rfl) (.scalar nofun rfl) hes htype
    have htable := Spec.check_settles.required hes htable
    have hcondition := Spec.optional_settles.optional_none (fun _ _ => congrArg _) hes hcondition
    have hpairs := pairs_settles.optional_none (fun _ _ => congrArg _) hes hpairs
    refine ⟨?_, .cons (htype.read_open (by decide))
      (.cons (htable.read_open (by decide)) (.cons (hcondition.read_open (by decide))
        (.cons (hpairs.read fun key hkey => ?_) .nil)))⟩
    · simp only [reading, read]
      rw [htype.optional_again rfl rfl, htable.required_again rfl rfl,
        hcondition.optional_again rfl rfl, hpairs.optional_again rfl rfl]
      rfl
    · -- The pairs are checked as texts, so of them nothing has to stay.
      obtain rfl := List.mem_singleton.1 hkey
      exact ⟨rfl, fun _ _ _ hmatch => absurd rfl hmatch⟩

theorem Join.lawful : reading.Lawful :=
  joinless.lawful

theorem Join.check_settles : check.Settles toValue SpelledJoin (Retained .join keepsOpen) where
  again := by
    intro v join hv h w hw
    have hsettled := lawful.settled hv h
    generalize hu : toValue join = u at hw
    cases hw with
    | same _ => exact hu ▸ hsettled.record
    | fields fields =>
      obtain rfl : reading.fields join = fields := (Value.record.inj hu).2
      exact hsettled.mapping _ (spelled_textEntries _)
  proper hv h := (lawful.settled hv h).proper
  kept := by
    intro v join hv h
    have hretained := (lawful.settled hv h).retained
    have hkeeps : SchemaName.join.keeps = keepsOpen :=
      funext fun key => keeps_eq_keepsOpen nofun
    rw [show reading.self = .join from rfl, hkeeps] at hretained
    exact hretained

/-- An instance of a join passes the check of joins. -/
theorem Join.exists_of_proper {fields : List (String × Value)}
    (h : (Value.record .join fields).Proper) :
    ∃ join, check (.record .join fields) = .valid join := by
  cases h with
  | value hv _ => exact absurd rfl (hv _ _)
  | checked hraw hcheck _ =>
    obtain ⟨join, hjoin, hvalue⟩ := Checked.map_eq_valid hcheck
    exact ⟨join, hvalue ▸ (lawful.settled hraw hjoin).record⟩

theorem Join.each_settles : (nullable (OneOrMany.check check)).Settles
    (optionValue (OneOrMany.toValue toValue)) (SpelledEach SpelledJoin)
    (KeptEach (Retained .join keepsOpen)) := by
  have heach := oneOrMany_settles check_settles (fun _ => ⟨⟨_, rfl⟩, _, rfl⟩) nofun .same
    (fun us w hw => by cases hw; rfl) ?_
  · refine nullable_settles heach (OneOrMany.isNull_toValue fun _ => rfl)
      (fun _ _ => SpelledJoin.isNull_eq) ⟨⟨nofun, nofun⟩, ?_⟩
    rintro vs (h | h) <;> cases h
  · rintro v u hv ⟨issues, hissues⟩ hmapping
    refine ⟨fun fields hfields => ?_, fun es hes => absurd hes (hmapping es)⟩
    -- A join among the values would have passed the check.
    subst hfields
    obtain ⟨join, hjoin⟩ := exists_of_proper hv
    exact nomatch hissues.symm.trans hjoin

/-! ## SELECT -/

/-- The fields of a SELECT with some value for its joins. -/
def Select.fieldsWith (s : Select) (joins : Value) : List (String × Value) :=
  [("columns", s.columns.toValue .text), ("from_", s.table.toValue), ("join", joins),
    ("where", optionValue Spec.toValue s.condition),
    ("order", optionValue (OneOrMany.toValue Spec.toValue) s.order),
    ("limit", optionValue (fun n : Nat => .int n) s.limit),
    ("offset", optionValue (fun n : Nat => .int n) s.offset)]

def Select.reading : Reading Select where
  self := .select
  names := ["columns", ⟨"from", some "from_"⟩, "join", "where", "order", "limit", "offset"]
  read es := Select.mk <$> FieldName.optional "columns" (.one "*") (OneOrMany.check .text) es
    <*> FieldName.required ⟨"from", some "from_"⟩ Spec.check es
    <*> FieldName.optional "join" none (.nullable (OneOrMany.check Join.check)) es
    <*> FieldName.optional "where" none (.nullable Spec.check) es
    <*> FieldName.optional "order" none (.nullable (OneOrMany.check Spec.check)) es
    <*> FieldName.optional "limit" none (.nullable .natural) es
    <*> FieldName.optional "offset" none (.nullable .natural) es
  rule := .valid
  fields s := s.fieldsWith (optionValue (OneOrMany.toValue Join.toValue) s.join)

/-- Only the joins of a SELECT can be spelled in several ways. -/
theorem Select.exists_fieldsWith {s : Select} {joins : Value} {es : List (Value × Value)}
    (h : List.Forall₂ FieldSpelled (s.fieldsWith joins) es) :
    ∃ w, SpelledEach SpelledJoin joins w ∧ es = Spec.textEntries (s.fieldsWith w) := by
  obtain ⟨_, _, hcolumns, hfrom, rfl⟩ := List.forall₂_cons_left_iff.1 h
  obtain ⟨_, _, htable, hjoin, rfl⟩ := List.forall₂_cons_left_iff.1 hfrom
  obtain ⟨⟨key, w⟩, _, ⟨hkey, hvalue⟩, hrest, rfl⟩ := List.forall₂_cons_left_iff.1 hjoin
  obtain rfl : key = .text "join" := hkey
  rw [if_pos rfl] at hvalue
  refine ⟨w, hvalue, ?_⟩
  rw [hcolumns.eq_entry (by simp), htable.eq_entry (by simp), eq_textEntries (by simp) hrest]
  rfl

theorem Select.count_settles : (nullable natural).Settles (optionValue fun n : Nat => .int n) Eq
    KeptMapping :=
  nullable_settles natural_settles (fun _ => rfl) (fun _ _ => congrArg _) nofun

theorem Select.toValue_eq (s : Select) : s.toValue = reading.toValue s := by
  obtain ⟨columns, table, join, condition, order, limit, offset⟩ := s
  cases limit <;> cases offset <;> rfl

theorem Select.lawful : reading.Lawful where
  check_eq v := by
    rw [← funext toValue_eq]
    rfl
  rule_eq a b h := (Checked.valid.inj h).symm
  given s := by
    simp only [reading, fieldsWith, List.forall_mem_cons]
    exact ⟨OneOrMany.isUnset_toValue (fun _ => rfl) _, Spec.isUnset_toValue _,
      isUnset_optionValue (OneOrMany.isUnset_toValue fun _ => rfl) _,
      isUnset_optionValue Spec.isUnset_toValue _,
      isUnset_optionValue (OneOrMany.isUnset_toValue Spec.isUnset_toValue) _,
      isUnset_optionValue (fun _ => rfl) _, isUnset_optionValue (fun _ => rfl) _,
      List.forall_mem_nil _⟩
  known s es h := by
    obtain ⟨w, -, rfl⟩ := exists_fieldsWith h
    rfl
  read es s hes h := by
    obtain ⟨_, offset, hfront, hoffset, rfl⟩ := Checked.seq_eq_valid h
    obtain ⟨_, limit, hfront₂, hlimit, rfl⟩ := Checked.seq_eq_valid hfront
    obtain ⟨_, order, hfront₃, horder, rfl⟩ := Checked.seq_eq_valid hfront₂
    obtain ⟨_, condition, hfront₄, hcondition, rfl⟩ := Checked.seq_eq_valid hfront₃
    obtain ⟨_, join, hfront₅, hjoin, rfl⟩ := Checked.seq_eq_valid hfront₄
    obtain ⟨_, table, hfirst, htable, rfl⟩ := Checked.seq_eq_valid hfront₅
    obtain ⟨columns, hcolumns, rfl⟩ := Checked.map_eq_valid hfirst
    have hstar : (OneOrMany.toValue .text (.one "*")).Proper := Value.proper_text "*"
    have hcolumns := text_each_settles.optional (fun _ hw => hw ▸ rfl) hstar hes hcolumns
    have htable := Spec.check_settles.required hes htable
    have hjoin := Join.each_settles.optional_none (fun _ _ => SpelledJoin.isNull_eq) hes hjoin
    have hcondition := Spec.optional_settles.optional_none (fun _ _ => congrArg _) hes hcondition
    have horder := Spec.each_settles.optional_none (fun _ _ => congrArg _) hes horder
    have hlimit := count_settles.optional_none (fun _ _ => congrArg _) hes hlimit
    have hoffset := count_settles.optional_none (fun _ _ => congrArg _) hes hoffset
    refine ⟨fun es' hes' => ?_, ?_⟩
    · obtain ⟨w, hw, rfl⟩ := exists_fieldsWith hes'
      simp only [reading]
      rw [hcolumns.optional_again rfl rfl, htable.required_again rfl rfl,
        hjoin.optional_again rfl hw, hcondition.optional_again rfl rfl,
        horder.optional_again rfl rfl, hlimit.optional_again rfl rfl,
        hoffset.optional_again rfl rfl]
      rfl
    · refine .cons (hcolumns.read_open (by decide)) (.cons (htable.read_open (by decide))
        (.cons (hjoin.read fun key hkey => ?_) (.cons (hcondition.read_open (by decide))
          (.cons (horder.read fun key hkey => ?_) (.cons (hlimit.read_open (by decide))
            (.cons (hoffset.read_open (by decide)) .nil))))))
      · obtain rfl := List.mem_singleton.1 hkey
        exact ⟨rfl, fun _ _ => id⟩
      · obtain rfl := List.mem_singleton.1 hkey
        exact ⟨rfl, fun _ _ => id⟩

/-! ## Instances -/

/-- A value in another one, at any depth. -/
inductive Value.Inside (u : Value) : Value → Prop where
  | here : Inside u u
  | part {v p : Value} (hpart : p ∈ v.parts) (h : Inside u p) : Inside u v

theorem Value.Inside.proper {u v : Value} (h : u.Inside v) (hv : v.Proper) : u.Proper := by
  induction h with
  | here => exact hv
  | part hpart _ ih => exact ih (hv.part hpart)

/-- Exactly one of the condition and the pairs of a join is given. -/
def OneCondition (fields : List (String × Value)) : Prop :=
  ∃ condition pairs, fields.lookup "on" = some condition ∧ fields.lookup "match" = some pairs ∧
    (condition = .null ↔ pairs ≠ .null)

/-- The limit and the offset are not negative, where they are given. -/
def CountsNatural (fields : List (String × Value)) : Prop :=
  ∀ v, ("limit", v) ∈ fields ∨ ("offset", v) ∈ fields → v = .null ∨ ∃ n : Int, 0 ≤ n ∧ v = .int n

/-- What a schema demands of its instances. -/
structure IsInstance (schema : SchemaName) (fields : List (String × Value)) : Prop where
  given : ∀ f ∈ fields, f.2 ≠ .unset
  counts : CountsNatural fields
  condition : schema = .join → OneCondition fields

theorem countsNatural_of_absent {fields : List (String × Value)}
    (h : ∀ f ∈ fields, f.1 ≠ "limit" ∧ f.1 ≠ "offset") : CountsNatural fields := by
  rintro v (hv | hv)
  · exact absurd rfl (h _ hv).1
  · exact absurd rfl (h _ hv).2

theorem Select.countsNatural (s : Select) : CountsNatural (reading.fields s) := by
  have hcount : ∀ o : Option Nat, optionValue (fun n : Nat => Value.int n) o = .null ∨
      ∃ n : Int, 0 ≤ n ∧ optionValue (fun n : Nat => Value.int n) o = .int n := by
    intro o
    cases o with
    | none => exact .inl rfl
    | some n => exact .inr ⟨n, Int.natCast_nonneg n, rfl⟩
  intro v hv
  have heq : v = optionValue (fun n : Nat => Value.int n) s.limit ∨
      v = optionValue (fun n : Nat => Value.int n) s.offset := by
    simpa [reading, fieldsWith] using hv
  rcases heq with rfl | rfl
  · exact hcount s.limit
  · exact hcount s.offset

theorem Join.oneCondition {join : Join} (h : join.rule = .valid join) :
    OneCondition (reading.fields join) := by
  obtain ⟨-, hrule⟩ := rule_eq_valid h
  refine ⟨_, _, rfl, rfl, ?_⟩
  rw [optionValue_eq_null Spec.isNull_toValue, Ne, optionValue_eq_null fun _ => rfl]
  cases hcondition : join.condition <;> cases hpairs : join.pairs <;> simp_all

/-- Every schema is read lawfully, and as its rule demands. -/
theorem SchemaName.exists_reading (schema : SchemaName) :
    ∃ (α : Type) (r : Reading α), r.self = schema ∧ r.Lawful ∧
      ∀ a, r.rule a = .valid a → CountsNatural (r.fields a) ∧
        (schema = .join → OneCondition (r.fields a)) := by
  cases schema with
  | rawQuery =>
    refine ⟨_, _, rfl, RawQuery.joinless.lawful, fun q _ => ⟨?_, nofun⟩⟩
    exact countsNatural_of_absent (by simp [RawQuery.reading])
  | join =>
    refine ⟨_, _, rfl, Join.lawful, fun join hrule => ⟨?_, fun _ => Join.oneCondition hrule⟩⟩
    exact countsNatural_of_absent (by simp [Join.reading])
  | select => exact ⟨_, _, rfl, Select.lawful, fun s _ => ⟨Select.countsNatural s, nofun⟩⟩
  | create =>
    refine ⟨_, _, rfl, Create.joinless.lawful, fun c _ => ⟨?_, nofun⟩⟩
    exact countsNatural_of_absent (by simp [Create.reading])
  | update =>
    refine ⟨_, _, rfl, Update.joinless.lawful, fun u _ => ⟨?_, nofun⟩⟩
    exact countsNatural_of_absent (by simp [Update.reading])
  | delete =>
    refine ⟨_, _, rfl, Delete.joinless.lawful, fun d _ => ⟨?_, nofun⟩⟩
    exact countsNatural_of_absent (by simp [Delete.reading])

theorem Value.Proper.isInstance {schema : SchemaName} {fields : List (String × Value)}
    (h : (record schema fields).Proper) : IsInstance schema fields := by
  cases h with
  | value hv _ => exact absurd rfl (hv _ _)
  | checked hraw hcheck _ =>
    obtain ⟨α, r, rfl, hr, hdemands⟩ := schema.exists_reading
    rw [hr.check_eq] at hcheck
    obtain ⟨a, ha, hvalue⟩ := Checked.map_eq_valid hcheck
    obtain rfl : r.fields a = fields := (record.inj hvalue).2
    -- The instance was made of `a`, which its rule has passed.
    obtain ⟨hcounts, hcondition⟩ := hdemands a (hr.settled hraw ha).rule
    refine ⟨fun f hf hunset => ?_, hcounts, hcondition⟩
    have hgiven := hr.given a f hf
    rw [hunset] at hgiven
    cases hgiven

/-! ## The projection -/

/-- Checking a schema is a projection: what a value is checked into is an instance, which is checked
into itself, and so is the mapping of its fields by name, however the joins among them are spelled.
Every instance in it is as its schema demands, and the open mappings of the value are in it as they
were. -/
theorem check_projection {schema : SchemaName} {v s : Value} (hv : v.Proper)
    (h : schema.check v = .valid s) :
    ∃ fields, s = .record schema fields ∧ schema.check s = .valid s ∧
      (∀ es, List.Forall₂ FieldSpelled fields es → schema.check (.mapping es) = .valid s) ∧
      (∀ schema' fields', (Value.record schema' fields').Inside s → IsInstance schema' fields') ∧
      Retained schema schema.keeps v s := by
  obtain ⟨α, r, rfl, hr, -⟩ := schema.exists_reading
  rw [hr.check_eq] at h
  obtain ⟨a, ha, rfl⟩ := Checked.map_eq_valid h
  have hsettled := hr.settled hv ha
  refine ⟨r.fields a, rfl, ?_, fun es hes => ?_, fun _ _ hinside => ?_, hsettled.retained⟩
  · rw [hr.check_eq, hsettled.record]
    rfl
  · rw [hr.check_eq, hsettled.mapping es hes]
    rfl
  · exact (hinside.proper hsettled.proper).isInstance

def kindPairs : Value :=
  .mapping [(.text "kind", .text "id")]

def kindsJoin : List (String × Value) :=
  [("type", .constant (.joinType .inner)), ("to", .text "kinds"), ("on", .null),
    ("match", kindPairs)]

/-- A SELECT with that join in it and the limit as a text. -/
def kindsOfWords : Value :=
  .mapping [(.text "from", .text "words"), (.text "join", .record .join kindsJoin),
    (.text "where", .mapping [(.text "id", .int 7)]), (.text "limit", .text "10")]

/-- The fields of its instance, with some value for the join. -/
def kindsOfWordsWith (join : Value) : List (String × Value) :=
  [("columns", .text "*"), ("from_", .text "words"), ("join", join),
    ("where", .mapping [(.text "id", .int 7)]), ("order", .null), ("limit", .int 10),
    ("offset", .null)]

theorem proper_kindsJoin : (Value.record .join kindsJoin).Proper := by
  have hpairs : kindPairs.Proper := by
    refine Value.proper_mapping (List.forall_mem_singleton.2 ?_)
    exact Value.proper_text "id"
  have hraw : (Value.mapping [(.text "to", .text "kinds"), (.text "match", kindPairs)]).Proper := by
    refine Value.proper_mapping ?_
    simp only [List.forall_mem_cons]
    exact ⟨Value.proper_text "kinds", hpairs, List.forall_mem_nil _⟩
  refine .checked hraw rfl ?_
  simp only [kindsJoin, List.forall_mem_cons]
  exact ⟨.scalar nofun rfl, Value.proper_text "kinds", .scalar nofun rfl, hpairs,
    List.forall_mem_nil _⟩

theorem proper_kindsOfWords : kindsOfWords.Proper := by
  have hcondition : (Value.mapping [(.text "id", .int 7)]).Proper := by
    refine Value.proper_mapping (List.forall_mem_singleton.2 ?_)
    exact .scalar nofun rfl
  refine Value.proper_mapping ?_
  simp only [List.forall_mem_cons]
  exact ⟨Value.proper_text "words", proper_kindsJoin, hcondition, Value.proper_text "10",
    List.forall_mem_nil _⟩

/-- The instance has the limit as a number; its fields give it again, also with the join turned into
the mapping of its fields. -/
theorem check_kindsOfWords_again :
    kindsOfWords.Proper ∧
      SchemaName.select.check kindsOfWords =
        .valid (.record .select (kindsOfWordsWith (.record .join kindsJoin))) ∧
      SchemaName.select.check (.mapping (Spec.textEntries
          (kindsOfWordsWith (.mapping (Spec.textEntries kindsJoin))))) =
        .valid (.record .select (kindsOfWordsWith (.record .join kindsJoin))) := by
  have hcheck : SchemaName.select.check kindsOfWords =
    .valid (.record .select (kindsOfWordsWith (.record .join kindsJoin))) := by rfl
  refine ⟨proper_kindsOfWords, hcheck, ?_⟩
  obtain ⟨fields, hfields, -, hagain, -⟩ := check_projection proper_kindsOfWords hcheck
  obtain rfl := (Value.record.inj hfields).2
  refine hagain _ ?_
  have hjoin : FieldSpelled ("join", .record .join kindsJoin)
      (.text "join", .mapping (Spec.textEntries kindsJoin)) := ⟨rfl, .one (.fields kindsJoin)⟩
  exact .cons ⟨rfl, rfl⟩ (.cons ⟨rfl, rfl⟩ (.cons hjoin (.cons ⟨rfl, rfl⟩ (.cons ⟨rfl, rfl⟩
    (.cons ⟨rfl, rfl⟩ (.cons ⟨rfl, rfl⟩ .nil))))))

end ParamSql
