import ParamSql.Proofs.Schema.Prune

/-!
Checks that find nothing more to convert in what they gave.

`Check.Settles` says of a check what becomes of values that pass it: the result, shown as a value,
passes the check again and gives the same; in it instances stay instances, and the open mappings of
the given value stand as they were. There is a rule for each way of putting checks together.
-/

namespace ParamSql

/-! ## Proper values -/

namespace Value

/-- Every record in the value is an instance: it came out of the check of its schema. -/
inductive Proper : Value → Prop where
  | value {v : Value} (hv : ∀ schema fields, v ≠ .record schema fields)
    (hparts : ∀ part ∈ v.parts, Proper part) : Proper v
  | checked {schema : SchemaName} {fields : List (String × Value)} {raw : Value}
    (hraw : Proper raw) (h : schema.check raw = .valid (.record schema fields))
    (hfields : ∀ f ∈ fields, Proper f.2) : Proper (.record schema fields)

variable {v p : Value} {items : List Value}

theorem Proper.part (h : v.Proper) (hpart : p ∈ v.parts) : p.Proper := by
  cases h with
  | value _ hparts => exact hparts p hpart
  | checked _ _ hfields =>
    obtain ⟨f, hf, rfl⟩ := List.mem_map.1 hpart
    exact hfields f hf

/-- A value without any parts that is no record. -/
theorem Proper.scalar (hv : ∀ schema fields, v ≠ .record schema fields) (hparts : v.parts = []) :
    v.Proper := by
  refine .value hv fun part hpart => ?_
  rw [hparts] at hpart
  cases hpart

theorem proper_text (s : String) : (text s).Proper :=
  .scalar nofun rfl

theorem proper_list (h : ∀ item ∈ items, item.Proper) : (list items).Proper :=
  .value nofun h

theorem proper_mapping {es : List (Value × Value)} (h : ∀ e ∈ es, e.2.Proper) :
    (mapping es).Proper := by
  refine .value nofun fun part hpart => ?_
  obtain ⟨e, he, rfl⟩ := List.mem_map.1 hpart
  exact h e he

theorem Proper.namedFields {schema : SchemaName} {fields : List (String × Value)}
    (h : (record schema fields).Proper) : ∀ item ∈ namedFields fields, item.Proper := by
  intro item hitem
  obtain ⟨f, hf, rfl⟩ := List.mem_map.1 hitem
  refine .value nofun fun part hpart => ?_
  rcases List.mem_cons.1 hpart with rfl | hpart
  · exact proper_text f.1
  · obtain rfl := List.mem_singleton.1 hpart
    exact h.part (List.mem_map_of_mem hf)

end Value

/-! ## What stays of a value -/

/-- A mapping with text keys, all different, stays as it is: entry by entry in its order. -/
def KeptMapping (v u : Value) : Prop :=
  ∀ es, v = .mapping es → Value.ByName es → u = .mapping (Spec.textEntries (Check.named es))

/-- One value, or each item of a list, stays as it is in a given sense. -/
def KeptEach (kept : Value → Value → Prop) (v u : Value) : Prop :=
  kept v u ∧ ∀ vs, v = .list vs ∨ v = .tuple vs → ∃ us, u = .list us ∧ List.Forall₂ kept vs us

/-- One value, or each item of a list, is spelled in a given sense. -/
inductive SpelledEach (spelled : Value → Value → Prop) : Value → Value → Prop where
  | one {u w : Value} (h : spelled u w) : SpelledEach spelled u w
  | many {us ws : List Value} (h : List.Forall₂ spelled us ws) :
    SpelledEach spelled (.list us) (.list ws)

namespace Check

variable {α : Type} {check single : Check α} {toValue : α → Value}
  {spelled kept : Value → Value → Prop}

/-- What a check makes of a proper value can be checked again, however it is spelled, is proper
itself, and keeps of the value what it should. -/
structure Settles (check : Check α) (toValue : α → Value) (spelled kept : Value → Value → Prop) :
    Prop where
  again : ∀ {v a}, v.Proper → check v = .valid a → ∀ w, spelled (toValue a) w → check w = .valid a
  proper : ∀ {v a}, v.Proper → check v = .valid a → (toValue a).Proper
  kept : ∀ {v a}, v.Proper → check v = .valid a → kept v (toValue a)

theorem Settles.mono {spelled' kept' : Value → Value → Prop}
    (h : check.Settles toValue spelled kept) (hspelled : ∀ u w, spelled' u w → spelled u w)
    (hkept : ∀ v u, kept v u → kept' v u) : check.Settles toValue spelled' kept' where
  again hv ha w hw := h.again hv ha w (hspelled _ _ hw)
  proper := h.proper
  kept hv ha := hkept _ _ (h.kept hv ha)

/-- A check that refuses mappings and gives values without parts. -/
theorem Settles.of_scalar (hagain : ∀ a, check (toValue a) = .valid a)
    (hproper : ∀ a, (toValue a).Proper)
    (hmapping : ∀ es, ∃ issues, check (.mapping es) = .invalid issues) :
    check.Settles toValue Eq KeptMapping where
  again _ _ w hw := hw ▸ hagain _
  proper _ _ := hproper _
  kept _ h es hes := by
    obtain ⟨issues, hissues⟩ := hmapping es
    rw [hes, hissues] at h
    cases h

theorem text_settles : text.Settles .text Eq KeptMapping :=
  .of_scalar (fun _ => rfl) Value.proper_text fun _ => ⟨_, rfl⟩

theorem natural_settles : natural.Settles (fun n => .int n) Eq KeptMapping := by
  refine .of_scalar (fun n => ?_) (fun n => .scalar nofun rfl) fun _ => ⟨_, rfl⟩
  rw [natural, integer, Checked.andThen, if_pos (Int.natCast_nonneg n), Int.toNat_natCast]

/-! ## Mappings -/

section Mappings

variable {es : List (Value × Value)}

theorem exists_of_mem_entries {bs : List (String × α)} (h : entries check es = .valid bs)
    {b : String × α} (hb : b ∈ bs) : ∃ e ∈ es, check e.2 = .valid b.2 := by
  induction es generalizing bs with
  | nil =>
    obtain rfl := Checked.valid.inj h
    cases hb
  | cons e rest ih =>
    obtain ⟨f, cs, hentry, hrest, rfl⟩ := Checked.seq_eq_valid h
    obtain ⟨c, hc, rfl⟩ := Checked.map_eq_valid hentry
    rcases List.mem_cons.1 hb with rfl | hb
    · obtain ⟨g, a, hkey, hvalue, rfl⟩ := Checked.seq_eq_valid hc
      obtain ⟨name, -, rfl⟩ := Checked.map_eq_valid hkey
      exact ⟨e, List.mem_cons_self, Checked.under_eq_valid hvalue⟩
    · obtain ⟨e', he', hcheck⟩ := ih hrest hb
      exact ⟨e', List.mem_cons_of_mem e he', hcheck⟩

theorem mem_putNamed {name : String} {value : α} {bs : List (String × α)} {b : String × α}
    (h : b ∈ Value.putNamed name value bs) : b = (name, value) ∨ b ∈ bs := by
  induction bs with
  | nil => exact .inl (List.mem_singleton.1 h)
  | cons c rest ih =>
    rw [Value.putNamed] at h
    split at h
    · next hname =>
      rcases List.mem_cons.1 h with rfl | h
      · exact .inl (Prod.ext (beq_iff_eq.1 hname) rfl)
      · exact .inr (List.mem_cons_of_mem c h)
    · rcases List.mem_cons.1 h with rfl | h
      · exact .inr List.mem_cons_self
      · exact (ih h).imp_right (List.mem_cons_of_mem c)

theorem nodup_putNamed (name : String) (value : α) {bs : List (String × α)}
    (h : (bs.map Prod.fst).Nodup) : ((Value.putNamed name value bs).map Prod.fst).Nodup := by
  induction bs with
  | nil => exact List.nodup_singleton name
  | cons c rest ih =>
    obtain ⟨hnew, hrest⟩ := List.nodup_cons.1 h
    rw [Value.putNamed]
    split
    · exact h
    · next hname =>
      refine List.nodup_cons.2 ⟨fun hmem => ?_, ih hrest⟩
      obtain ⟨b, hb, hfst⟩ := List.mem_map.1 hmem
      rcases mem_putNamed hb with rfl | hb
      · exact hname (beq_iff_eq.2 hfst.symm)
      · exact hnew (hfst ▸ List.mem_map_of_mem hb)

/-- Merging keeps no entry that was not there, and no name twice. -/
theorem merged_spec (bs : List (String × α)) :
    (∀ b ∈ merged bs, b ∈ bs) ∧ ((merged bs).map Prod.fst).Nodup := by
  have hfold : ∀ (after acc : List (String × α)), (∀ b ∈ acc, b ∈ bs) → (∀ b ∈ after, b ∈ bs) →
      (acc.map Prod.fst).Nodup →
        let merged := after.foldl (fun acc e => Value.putNamed e.1 e.2 acc) acc
        (∀ b ∈ merged, b ∈ bs) ∧ (merged.map Prod.fst).Nodup := by
    intro after
    induction after with
    | nil => exact fun acc hacc _ hnodup => ⟨hacc, hnodup⟩
    | cons e rest ih =>
      intro acc hacc hafter hnodup
      obtain ⟨he, hrest⟩ := List.forall_mem_cons.1 hafter
      refine ih _ (fun b hb => ?_) hrest (nodup_putNamed e.1 e.2 hnodup)
      rcases mem_putNamed hb with rfl | hb
      · exact he
      · exact hacc b hb
  exact hfold bs [] (List.forall_mem_nil _) (fun b hb => hb) List.nodup_nil

theorem entries_of_settled {bs : List (String × α)}
    (h : ∀ b ∈ bs, check (toValue b.2) = .valid b.2) :
    entries check (bs.map fun b => (.text b.1, toValue b.2)) = .valid bs := by
  induction bs with
  | nil => rfl
  | cons b rest ih =>
    obtain ⟨hb, hrest⟩ := List.forall_mem_cons.1 h
    rw [List.map_cons, entries, ih hrest, hb]
    rfl

theorem mappingOf_settles (h : check.Settles toValue Eq kept) :
    (mappingOf check).Settles (fun bs => .mapping (bs.map fun b => (.text b.1, toValue b.2))) Eq
      fun _ _ => True := by
  have hvalid : ∀ {v : Value} {bs : List (String × α)}, v.Proper → mappingOf check v = .valid bs →
      (∀ b ∈ bs, ∃ w : Value, w.Proper ∧ check w = .valid b.2) ∧ (bs.map Prod.fst).Nodup := by
    intro v bs hv h
    cases v with
    | mapping es =>
      obtain ⟨cs, hcs, rfl⟩ := Checked.map_eq_valid h
      obtain ⟨hmem, hnodup⟩ := merged_spec cs
      refine ⟨fun b hb => ?_, hnodup⟩
      obtain ⟨e, he, hcheck⟩ := exists_of_mem_entries hcs (hmem b hb)
      exact ⟨e.2, hv.part (List.mem_map_of_mem he), hcheck⟩
    | _ => cases h
  refine ⟨?_, ?_, fun _ _ => trivial⟩
  · rintro v bs hv hbs _ rfl
    obtain ⟨hmem, hnodup⟩ := hvalid hv hbs
    have hentries : entries check (bs.map fun b => (.text b.1, toValue b.2)) = .valid bs := by
      refine entries_of_settled fun b hb => ?_
      obtain ⟨w, hw, hcheck⟩ := hmem b hb
      exact h.again hw hcheck _ rfl
    rw [mappingOf, hentries, Checked.map, merged_of_nodup hnodup]
  · intro v bs hv hbs
    refine Value.proper_mapping fun e he => ?_
    obtain ⟨b, hb, rfl⟩ := List.mem_map.1 he
    obtain ⟨w, hw, hcheck⟩ := (hvalid hv hbs).1 b hb
    exact h.proper hw hcheck

theorem any_settles : any.Settles id Eq Eq where
  again _ _ _ hw := hw ▸ rfl
  proper hv h := Checked.valid.inj h ▸ hv
  kept _ h := Checked.valid.inj h

/-- A mapping with text keys, whatever its values. -/
theorem mappingOf_any_settles :
    (mappingOf .any).Settles (fun es => .mapping (Spec.textEntries es)) Eq KeptMapping := by
  have h := mappingOf_settles any_settles
  refine ⟨h.again, h.proper, ?_⟩
  rintro v bs - hbs es rfl hes
  rw [mappingOf_any hes] at hbs
  rw [Checked.valid.inj hbs]

end Mappings

/-! ## Alternatives -/

theorem either_eq_valid {first second : Check α} {v : Value} {a : α}
    (h : either first second v = .valid a) :
    first v = .valid a ∨ (∃ issues, first v = .invalid issues) ∧ second v = .valid a := by
  rw [either] at h
  cases hfirst : first v with
  | valid b =>
    rw [hfirst] at h
    exact .inl h
  | invalid issues =>
    rw [hfirst] at h
    dsimp only at h
    cases hsecond : second v with
    | valid b =>
      rw [hsecond] at h
      exact .inr ⟨⟨issues, rfl⟩, h⟩
    | invalid more =>
      rw [hsecond] at h
      cases h

theorem either_of_first {first second : Check α} {v : Value} {a : α} (h : first v = .valid a) :
    either first second v = .valid a := by
  rw [either, h]

theorem either_of_second {first second : Check α} {v : Value} {a : α} {issues : List Issue}
    (hfirst : first v = .invalid issues) (h : second v = .valid a) :
    either first second v = .valid a := by
  rw [either, hfirst, h]

theorem nullable_of_not_null {v : Value} (h : v.isNull = false) :
    nullable check v = (check v).map some := by
  cases v <;> first
    | rfl
    | nomatch h

theorem nullable_eq_valid {v : Value} {o : Option α} (h : nullable check v = .valid o) :
    (v = .null ∧ o = none) ∨ ∃ a, check v = .valid a ∧ o = some a := by
  by_cases hv : v = .null
  · rw [hv] at h
    exact .inl ⟨hv, (Checked.valid.inj h).symm⟩
  · rw [nullable_of_not_null (Value.isNull_eq_false hv)] at h
    obtain ⟨a, ha, rfl⟩ := Checked.map_eq_valid h
    exact .inr ⟨a, ha, rfl⟩

theorem nullable_settles (h : check.Settles toValue spelled kept)
    (hvalue : ∀ a, (toValue a).isNull = false)
    (hspelled : ∀ u w, spelled u w → u.isNull = w.isNull) (hkept : kept .null .null) :
    (nullable check).Settles (optionValue toValue) spelled kept where
  again hv ho w hw := by
    have hnull := hspelled _ _ hw
    rcases nullable_eq_valid ho with ⟨-, rfl⟩ | ⟨a, ha, rfl⟩
    · rw [Value.eq_null_of_isNull hnull.symm]
      rfl
    · rw [nullable_of_not_null (hnull.symm.trans (hvalue a)), h.again hv ha w hw]
      rfl
  proper hv ho := by
    rcases nullable_eq_valid ho with ⟨-, rfl⟩ | ⟨a, ha, rfl⟩
    · exact .scalar nofun rfl
    · exact h.proper hv ha
  kept hv ho := by
    rcases nullable_eq_valid ho with ⟨rfl, rfl⟩ | ⟨a, ha, rfl⟩
    · exact hkept
    · exact h.kept hv ha

/-! ## Lists -/

theorem forall₂_of_items {vs : List Value} {as : List α} {start : Nat}
    (h : items check start vs = .valid as) :
    List.Forall₂ (fun v a => check v = .valid a) vs as := by
  induction vs generalizing as start with
  | nil =>
    obtain rfl := Checked.valid.inj h
    exact .nil
  | cons v rest ih =>
    obtain ⟨f, bs, hhere, hrest, rfl⟩ := Checked.seq_eq_valid h
    obtain ⟨a, ha, rfl⟩ := Checked.map_eq_valid hhere
    exact .cons (Checked.under_eq_valid ha) (ih hrest)

theorem items_of_forall₂ {vs : List Value} {as : List α} (start : Nat)
    (h : List.Forall₂ (fun v a => check v = .valid a) vs as) :
    items check start vs = .valid as := by
  induction h generalizing start with
  | nil => rfl
  | cons ha _ ih =>
    rw [items, ih, ha]
    rfl

/-- The values that are checked as a list. -/
inductive Listed : Value → List Value → Prop where
  | list (vs : List Value) : Listed (.list vs) vs
  | tuple (vs : List Value) : Listed (.tuple vs) vs
  | record (schema : SchemaName) (fields : List (String × Value)) :
    Listed (.record schema fields) (Value.namedFields fields)

theorem Listed.proper {v : Value} {vs : List Value} (h : Listed v vs) (hv : v.Proper) :
    ∀ item ∈ vs, item.Proper := by
  cases h with
  | list | tuple => exact fun item hitem => hv.part hitem
  | record => exact hv.namedFields

theorem listOf_eq_valid {v : Value} {as : List α} (h : listOf check v = .valid as) :
    ∃ vs, Listed v vs ∧ List.Forall₂ (fun v a => check v = .valid a) vs as := by
  cases v <;> first
    | exact ⟨_, .list _, forall₂_of_items h⟩
    | exact ⟨_, .tuple _, forall₂_of_items h⟩
    | exact ⟨_, .record _ _, forall₂_of_items h⟩
    | cases h

theorem listOf_any_settles : (listOf .any).Settles .list Eq KeptMapping where
  again _ _ w hw := hw ▸ items_any 0 _
  proper hv h := by
    obtain ⟨vs, hlisted, hitems⟩ := listOf_eq_valid h
    have heq := hitems.imp fun _ _ => Checked.valid.inj
    rw [List.forall₂_eq_eq_eq] at heq
    exact heq ▸ Value.proper_list (hlisted.proper hv)
  kept _ h es hes := by
    rw [hes] at h
    cases h

theorem oneOrMany_eq_valid {v : Value} {r : OneOrMany α}
    (h : OneOrMany.check single v = .valid r) :
    (∃ a, single v = .valid a ∧ r = .one a) ∨
      ∃ vs as, (∃ issues, single v = .invalid issues) ∧ Listed v vs ∧
        List.Forall₂ (fun v a => single v = .valid a) vs as ∧ r = .many as := by
  rcases either_eq_valid h with hone | ⟨⟨issues, hone⟩, hmany⟩
  · obtain ⟨a, ha, rfl⟩ := Checked.map_eq_valid hone
    exact .inl ⟨a, ha, rfl⟩
  · obtain ⟨as, has, rfl⟩ := Checked.map_eq_valid hmany
    obtain ⟨vs, hlisted, hitems⟩ := listOf_eq_valid has
    refine .inr ⟨vs, as, ?_, hlisted, hitems, rfl⟩
    cases hv : single v with
    | valid a =>
      rw [map, hv] at hone
      cases hone
    | invalid issues => exact ⟨issues, rfl⟩

/-- Items that were checked are checked again, however they are spelled. -/
theorem Settles.items_again (h : single.Settles toValue spelled kept) {vs ws : List Value}
    {as : List α} (hitems : List.Forall₂ (fun v a => v.Proper ∧ single v = .valid a) vs as)
    (hws : List.Forall₂ (fun a w => spelled (toValue a) w) as ws) :
    List.Forall₂ (fun w a => single w = .valid a) ws as := by
  induction hitems generalizing ws with
  | nil =>
    cases hws
    exact .nil
  | cons hhere _ ih =>
    cases hws with
    | cons hw hrest => exact .cons (h.again hhere.1 hhere.2 _ hw) (ih hrest)

theorem Settles.items_proper (h : single.Settles toValue spelled kept) {vs : List Value}
    {as : List α} (hitems : List.Forall₂ (fun v a => v.Proper ∧ single v = .valid a) vs as) :
    ∀ item ∈ as.map toValue, item.Proper := by
  induction hitems with
  | nil => exact List.forall_mem_nil _
  | cons hhere _ ih => exact List.forall_mem_cons.2 ⟨h.proper hhere.1 hhere.2, ih⟩

/-- One value, or a list of them: the check of one value has to refuse lists and to give none. -/
theorem oneOrMany_settles (h : single.Settles toValue spelled kept)
    (hlist : ∀ vs, (∃ issues, single (.list vs) = .invalid issues) ∧
      ∃ issues, single (.tuple vs) = .invalid issues)
    (hvalue : ∀ a us, toValue a ≠ .list us) (hrefl : ∀ u, spelled u u)
    (hspelled : ∀ us w, spelled (.list us) w → w = .list us)
    (hkept : ∀ v u, v.Proper → (∃ issues, single v = .invalid issues) →
      (∀ es, v ≠ .mapping es) → kept v u) :
    (OneOrMany.check single).Settles (OneOrMany.toValue toValue) (SpelledEach spelled)
      (KeptEach kept) where
  again := by
    intro v r hv hr w hw
    rcases oneOrMany_eq_valid hr with ⟨a, ha, rfl⟩ | ⟨vs, as, -, hlisted, hitems, rfl⟩
    · generalize hu : OneOrMany.toValue toValue (.one a) = u at hw
      cases hw with
      | one hw =>
        subst hu
        -- The check of one value comes first, so lists are not tried.
        exact either_of_first (congrArg (Checked.map OneOrMany.one) (h.again hv ha w hw))
      | many _ => exact absurd hu (hvalue a _)
    · obtain ⟨ws, rfl, hws⟩ : ∃ ws, w = .list ws ∧
          List.Forall₂ (fun a w => spelled (toValue a) w) as ws := by
        generalize hu : OneOrMany.toValue toValue (.many as) = u at hw
        cases hw with
        | one hw =>
          subst hu
          refine ⟨as.map toValue, hspelled _ _ hw, List.forall₂_map_right_iff.2 ?_⟩
          exact List.forall₂_same.2 fun a _ => hrefl (toValue a)
        | many hws =>
          obtain rfl := Value.list.inj hu
          exact ⟨_, rfl, List.forall₂_map_left_iff.1 hws⟩
      -- The list that is given back is refused as one value, as the given one was.
      obtain ⟨⟨issues, hissues⟩, -⟩ := hlist ws
      have hproper := (List.forall₂_and_left _ _).2 ⟨hlisted.proper hv, hitems⟩
      have hagain := items_of_forall₂ 0 (h.items_again hproper hws)
      exact either_of_second (congrArg (Checked.map OneOrMany.one) hissues)
        (congrArg (Checked.map OneOrMany.many) hagain)
  proper := by
    intro v r hv hr
    rcases oneOrMany_eq_valid hr with ⟨a, ha, rfl⟩ | ⟨vs, as, -, hlisted, hitems, rfl⟩
    · exact h.proper hv ha
    · have hproper := (List.forall₂_and_left _ _).2 ⟨hlisted.proper hv, hitems⟩
      exact Value.proper_list (h.items_proper hproper)
  kept := by
    intro v r hv hr
    rcases oneOrMany_eq_valid hr with ⟨a, ha, rfl⟩ | ⟨vs, as, hinvalid, hlisted, hitems, rfl⟩
    · refine ⟨h.kept hv ha, fun vs hvs => ?_⟩
      obtain ⟨⟨issues, hissues⟩, more, hmore⟩ := hlist vs
      rcases hvs with rfl | rfl
      · exact nomatch hissues.symm.trans ha
      · exact nomatch hmore.symm.trans ha
    · refine ⟨hkept v _ hv hinvalid ?_, fun vs' hvs' => ⟨as.map toValue, rfl, ?_⟩⟩
      · rintro es rfl
        cases hlisted
      · obtain rfl : vs' = vs := by
          rcases hvs' with rfl | rfl <;>
            · cases hlisted
              rfl
        have hproper := (List.forall₂_and_left _ _).2 ⟨hlisted.proper hv, hitems⟩
        exact List.forall₂_map_right_iff.2 (hproper.imp fun _ _ hhere => h.kept hhere.1 hhere.2)

end Check

end ParamSql
