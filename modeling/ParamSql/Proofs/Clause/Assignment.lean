import ParamSql.Clause.Assignment
import ParamSql.Proofs.Clause.Plain

/-!
What the values of an INSERT and the assignments of an UPDATE compile to.

Both are known exactly (`values_gives`, `set_gives`): the text depends on the given columns alone,
and the given values are bound in key order.
-/

namespace ParamSql.Assignment

/-- The columns that are given a value, in key order. -/
def columns (es : List (String × Value)) : List String :=
  (Value.dropUnset es).map Prod.fst

/-- The leaves of a mapping of columns to values: the values that are given, in key order. -/
def leaves (es : List (String × Value)) : List Value :=
  (Value.dropUnset es).map Prod.snd

/-- The columns and the parameters of an INSERT. -/
def insertion (columns : List String) (parameters : List Sql) : Sql :=
  Sql.verbatim ("(" ++ ", ".intercalate (columns.map Identifier.snake) ++ ") VALUES (") ++
    Sql.joined ", " parameters ++ ")"

def valuesText (columns : List String) : Sql :=
  insertion columns (columns.map fun _ => .hole)

/-- A column and the parameter assigned to it. -/
def assigned (column : String) (parameter : Sql) : Sql :=
  Sql.verbatim (Identifier.snake column ++ " = ") ++ parameter

/-- The assignments of an UPDATE. -/
def setText (columns : List String) : Sql :=
  Sql.verbatim "SET " ++ Sql.joined ", " (columns.map fun column => assigned column .hole)

/-! ## What is compiled -/

theorem given_toValue (es : List (String × Value)) :
    given (Spec.mapping es).toValue = pure (Spec.textEntries (Value.dropUnset es)) := by
  rw [Spec.toValue, given]
  exact congrArg pure List.filter_map

theorem nameOf_text (name : String) :
    Table.nameOf (.text name) = pure (Identifier.snake name) := rfl

theorem mapM_textEntries {α : Type} (f : Value × Value → Draft α) (es : List (String × Value)) :
    (Spec.textEntries es).mapM f = es.mapM fun e => f (.text e.1, e.2) := by
  rw [Spec.textEntries, List.mapM_map]
  rfl

theorem mapM_nameOf (es : List (String × Value)) :
    (Spec.textEntries es).mapM (fun e => Table.nameOf e.1) =
      pure ((es.map Prod.fst).map Identifier.snake) := by
  rw [mapM_textEntries]
  induction es with
  | nil => rfl
  | cons e rest ih =>
    rw [List.mapM_cons, ih, nameOf_text, pure_bind, pure_bind]
    rfl

theorem mapM_param_gives (es : List (String × Value)) :
    (es.mapM fun e => Draft.param e.2).Gives (es.map Prod.snd)
      ((es.map Prod.fst).map fun _ => .hole) := by
  induction es with
  | nil => exact Draft.gives_pure _
  | cons e rest ih =>
    rw [List.mapM_cons]
    exact (Draft.gives_param e.2).bind ih.bind_pure

/-- A column and its value, which is bound. -/
def assign (e : String × Value) : Draft Sql := do
  let parameter ← Draft.param e.2
  pure (assigned e.1 parameter)

theorem mapM_assignment (es : List (String × Value)) :
    (Spec.textEntries es).mapM assignment = es.mapM assign := by
  rw [mapM_textEntries]
  rfl

theorem mapM_assign_gives (es : List (String × Value)) :
    (es.mapM assign).Gives (es.map Prod.snd)
      ((es.map Prod.fst).map fun column => assigned column .hole) := by
  induction es with
  | nil => exact Draft.gives_pure _
  | cons e rest ih =>
    rw [List.mapM_cons]
    exact (Draft.gives_param e.2).bind_pure.bind ih.bind_pure

theorem isEmpty_textEntries (es : List (String × Value)) :
    (Spec.textEntries es).isEmpty = (es.map Prod.fst).isEmpty := by
  cases es <;> rfl

theorem values_eq (es : List (String × Value)) :
    values (Spec.mapping es).toValue =
      if (columns es).isEmpty then pure (.verbatim "DEFAULT VALUES")
      else (Value.dropUnset es).mapM (fun e => Draft.param e.2) >>= fun parameters =>
        pure (insertion (columns es) parameters) := by
  rw [values, given_toValue, pure_bind, isEmpty_textEntries, mapM_nameOf, pure_bind,
    mapM_textEntries]
  rfl

theorem set_eq (es : List (String × Value)) :
    set (Spec.mapping es).toValue =
      if (columns es).isEmpty then .fault .set .noAssignments []
      else (Value.dropUnset es).mapM assign >>= fun assignments =>
        pure (Sql.verbatim "SET " ++ Sql.joined ", " assignments) := by
  rw [set, given_toValue, pure_bind, isEmpty_textEntries, mapM_assignment]
  rfl

theorem values_gives {es : List (String × Value)} (h : columns es ≠ []) :
    (values (Spec.mapping es).toValue).Gives (leaves es) (valuesText (columns es)) := by
  rw [values_eq, if_neg (by rwa [List.isEmpty_iff])]
  exact (mapM_param_gives _).bind_pure

theorem set_gives {es : List (String × Value)} (h : columns es ≠ []) :
    (set (Spec.mapping es).toValue).Gives (leaves es) (setText (columns es)) := by
  rw [set_eq, if_neg (by rwa [List.isEmpty_iff])]
  exact (mapM_assign_gives _).bind_pure

/-! ## Mappings with keys of any kind -/

/-- The entries of a mapping with the texts of their keys. -/
def named (es : List (Value × Value)) : List (String × Value) :=
  es.map fun e => (e.1.text?.getD "", e.2)

theorem dropUnset_named (es : List (Value × Value)) :
    Value.dropUnset (named es) = named (Value.dropUnset es) :=
  List.filter_map

theorem mapM_named {α : Type} {f : Value × Value → Draft α} {es : List (Value × Value)}
    (h : ∀ e ∈ es, f (.text (e.1.text?.getD ""), e.2) = f e) :
    (Spec.textEntries (named es)).mapM f = es.mapM f := by
  induction es with
  | nil => rfl
  | cons e rest ih =>
    obtain ⟨he, hrest⟩ := List.forall_mem_cons.1 h
    rw [named, Spec.textEntries] at ih ⊢
    rw [List.map_cons, List.map_cons, List.mapM_cons, List.mapM_cons, ih hrest, he]

theorem nameOf_named {key : Value} (h : key.text?.isSome = true) :
    Table.nameOf (.text (key.text?.getD "")) = Table.nameOf key := by
  obtain ⟨s, hs⟩ := Option.isSome_iff_exists.1 h
  rw [Table.nameOf, Table.nameOf, hs]
  rfl

theorem isEmpty_named (es : List (Value × Value)) :
    (Spec.textEntries (named es)).isEmpty = es.isEmpty := by
  cases es <;> rfl

/-- Keys that count as texts are as good as texts. -/
theorem values_named {es : List (Value × Value)}
    (h : ∀ e ∈ Value.dropUnset es, e.1.text?.isSome = true) :
    values (Spec.mapping (named es)).toValue = values (.mapping es) := by
  rw [values, values, given_toValue, given, pure_bind, pure_bind, dropUnset_named, isEmpty_named,
    mapM_named fun e he => nameOf_named (h e he), mapM_named fun _ _ => rfl]

theorem set_named {es : List (Value × Value)}
    (h : ∀ e ∈ Value.dropUnset es, e.1.text?.isSome = true) :
    set (Spec.mapping (named es)).toValue = set (.mapping es) := by
  rw [set, set, given_toValue, given, pure_bind, pure_bind, dropUnset_named, isEmpty_named,
    mapM_named fun e he => by rw [assignment, assignment, nameOf_named (h e he)]]

/-! ## Placeholders -/

def Plain (es : List (String × Value)) : Prop :=
  ∀ e ∈ es, DollarFree e.1

theorem Plain.columns {es : List (String × Value)} (h : Plain es) :
    ∀ column ∈ columns es, DollarFree column := by
  intro column hcolumn
  obtain ⟨e, he, rfl⟩ := List.mem_map.1 hcolumn
  exact h e (List.mem_of_mem_filter he)

theorem length_leaves (es : List (String × Value)) : (leaves es).length = (columns es).length := by
  rw [leaves, columns, List.length_map, List.length_map]

theorem numbered_valuesText {columns : List String} (h : ∀ column ∈ columns, DollarFree column) :
    (valuesText columns).Numbered columns.length := by
  have hnames : DollarFree (", ".intercalate (columns.map Identifier.snake)) := by
    refine .intercalate (by decide) fun name hname => ?_
    obtain ⟨column, hcolumn, rfl⟩ := List.mem_map.1 hname
    exact Identifier.dollarFree_snake (h column hcolumn)
  have hholes : Sql.NumberedAll (columns.length * 1) (columns.map fun _ => .hole) :=
    Sql.numberedAll_map fun _ _ => Sql.numbered_hole
  rw [Nat.mul_one] at hholes
  have hopen := (DollarFree.append (s := "(") (by decide) hnames).append (t := ") VALUES (")
    (by decide)
  exact ((hholes.joined (by decide)).text_append hopen).append_text (by decide)

theorem numbered_setText {columns : List String} (h : ∀ column ∈ columns, DollarFree column) :
    (setText columns).Numbered columns.length := by
  have hassigned : Sql.NumberedAll (columns.length * 1)
      (columns.map fun column => assigned column .hole) :=
    Sql.numberedAll_map fun column hcolumn => Sql.numbered_hole.text_append
      ((Identifier.dollarFree_snake (h column hcolumn)).append (by decide))
  rw [Nat.mul_one] at hassigned
  exact (hassigned.joined (by decide)).text_append (by decide)

theorem values_binds (es : List (String × Value)) :
    (values (Spec.mapping es).toValue).Yields (Binds (leaves es) (Plain es)) := by
  cases hcolumns : columns es with
  | nil =>
    have hnone : leaves es = [] := by
      rw [← List.length_eq_zero_iff, length_leaves, hcolumns, List.length_nil]
    rw [values_eq, hcolumns, hnone]
    exact .pure' ⟨rfl, fun _ => Sql.numbered_verbatim (by decide)⟩
  | cons column rest =>
    refine .ok (values_gives (by rw [hcolumns]; exact List.cons_ne_nil _ _))
      ⟨rfl, fun hplain => ?_⟩
    rw [length_leaves]
    exact numbered_valuesText hplain.columns

theorem set_binds (es : List (String × Value)) :
    (set (Spec.mapping es).toValue).Yields (Binds (leaves es) (Plain es)) := by
  cases hcolumns : columns es with
  | nil =>
    rw [set_eq, hcolumns]
    exact .fault _ _ _
  | cons column rest =>
    refine .ok (set_gives (by rw [hcolumns]; exact List.cons_ne_nil _ _))
      ⟨rfl, fun hplain => ?_⟩
    rw [length_leaves]
    exact numbered_setText hplain.columns

theorem plain_named {es : List (Value × Value)}
    (h : ∀ e ∈ es, DollarFree (e.1.text?.getD "")) : Plain (named es) := by
  intro _ hmem
  obtain ⟨e, he, rfl⟩ := List.mem_map.1 hmem
  exact h e he

theorem nameOf_texts (e : Value × Value) :
    (Table.nameOf e.1).Yields fun _ _ => e.1.text?.isSome = true := by
  rw [Table.nameOf]
  split
  · next s hs => exact .pure' (by rw [hs]; rfl)
  · exact .fail _

/-- Values are made only if the keys of all given entries are texts. -/
theorem values_texts (es : List (Value × Value)) :
    (values (.mapping es)).Yields fun _ _ => ∀ e ∈ Value.dropUnset es, e.1.text?.isSome = true := by
  rw [values, given, pure_bind]
  split
  · next hempty =>
    rw [List.isEmpty_iff.1 hempty]
    exact .pure' nofun
  · refine (Draft.Yields.forall_mapM fun e _ => nameOf_texts e).bind' fun vs names htexts => ?_
    exact (Draft.yields_gives _).bind_pure fun _ _ _ => htexts

theorem set_texts (es : List (Value × Value)) :
    (set (.mapping es)).Yields fun _ _ => ∀ e ∈ Value.dropUnset es, e.1.text?.isSome = true := by
  rw [set, given, pure_bind]
  split
  · exact .fault _ _ _
  · refine (Draft.Yields.forall_mapM fun e _ => ?_).bind_pure fun vs sqls htexts => htexts
    exact (nameOf_texts e).bind' fun _ _ h => (Draft.yields_gives _).bind_pure fun _ _ _ => h

def PlainKeys : Value → Prop
  | .mapping es => ∀ e ∈ es, DollarFree (e.1.text?.getD "")
  | _ => True

theorem values_numbered (mapping : Value) :
    (values mapping).Yields fun vs sql => PlainKeys mapping → sql.Numbered vs.length := by
  cases mapping with
  | mapping es =>
    intro sql hsql hplain
    have htexts := values_texts es sql hsql
    rw [← values_named htexts] at hsql ⊢
    exact (values_binds _ sql hsql).numbered (plain_named hplain)
  | _ => exact .fail _

theorem set_numbered (mapping : Value) :
    (set mapping).Yields fun vs sql => PlainKeys mapping → sql.Numbered vs.length := by
  cases mapping with
  | mapping es =>
    intro sql hsql hplain
    have htexts := set_texts es sql hsql
    rw [← set_named htexts] at hsql ⊢
    exact (set_binds _ sql hsql).numbered (plain_named hplain)
  | _ => exact .fail _

/-! ## Shapes -/

/-- The same columns, `unset` in the same places. -/
def SameShape (es es' : List (String × Value)) : Prop :=
  List.Forall₂ (fun e e' => e.1 = e'.1 ∧ e.2.isUnset = e'.2.isUnset) es es'

/-- The given entries have the same columns. -/
theorem SameShape.dropUnset {es es' : List (String × Value)} (h : SameShape es es') :
    List.Forall₂ (fun e e' => e.1 = e'.1) (Value.dropUnset es) (Value.dropUnset es') := by
  induction h with
  | nil => exact .nil
  | @cons e e' _ _ he _ ih =>
    rw [Value.dropUnset, Value.dropUnset, List.filter_cons, List.filter_cons, he.2]
    cases e'.2.isUnset with
    | true => exact ih
    | false => exact .cons he.1 ih

theorem SameShape.columns_eq {es es' : List (String × Value)} (h : SameShape es es') :
    columns es = columns es' := by
  rw [columns, columns]
  rw [← List.forall₂_eq_eq_eq, List.forall₂_map_left_iff, List.forall₂_map_right_iff]
  exact h.dropUnset

theorem values_agree {es es' : List (String × Value)} (h : SameShape es es') :
    Draft.Agree Eq (values (Spec.mapping es).toValue) (values (Spec.mapping es').toValue) := by
  rw [values_eq, values_eq, h.columns_eq]
  split
  · exact .refl _
  · refine .bind_eq (.mapM ?_) fun _ => .refl _
    exact h.dropUnset.imp fun _ _ _ => .param _ _

theorem set_agree {es es' : List (String × Value)} (h : SameShape es es') :
    Draft.Agree Eq (set (Spec.mapping es).toValue) (set (Spec.mapping es').toValue) := by
  rw [set_eq, set_eq, h.columns_eq]
  split
  · exact .refl _
  · refine .bind_eq (.mapM (h.dropUnset.imp fun e e' hcolumn => ?_)) fun _ => .refl _
    rw [assign, assign, hcolumn]
    exact .bind_eq (.param _ _) fun _ => .refl _

end ParamSql.Assignment
