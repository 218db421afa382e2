import ParamSql.Clause.Table
import ParamSql.Proofs.Clause.Plain
import ParamSql.Proofs.Clause.Shape
import ParamSql.Proofs.Value.Prune

/-!
What a table reference compiles to.

A table binds the values of its verbatim query and nothing else.
-/

namespace ParamSql.Table

theorem nameOf_yields (value : Value) :
    (nameOf value).Yields fun vs name => vs = [] ∧
      ∃ s, value.text? = some s ∧ name = Identifier.snake s := by
  rw [nameOf]
  split
  · next s hs => exact .pure' ⟨rfl, s, hs, rfl⟩
  · exact .fail _

/-! ## Leaves -/

/-- The leaves of a table given by a mapping: the values of its verbatim query, if it has one. -/
def entryLeaves (es : List (Value × Value)) : List Value :=
  ((Value.lookupText rawKey es).map Clause.rawValues).getD []

/-- The leaves of a table: the values of its verbatim query, if it is one. -/
def leaves : Spec → List Value
  | .text _ => []
  | .mapping es => ((Value.lookupText rawKey (Spec.textEntries es)).map Clause.rawValues).getD []

/-- No name in a mapping has a dollar sign, and a verbatim query is plain. -/
def PlainEntries (es : List (Value × Value)) : Prop :=
  ∀ e ∈ es, DollarFree (e.1.text?.getD "") ∧
    if e.1.text? = some rawKey then Clause.PlainRaw e.2 else DollarFree (e.2.text?.getD "")

/-- No name has a dollar sign, and a verbatim query is plain. -/
def Plain : Spec → Prop
  | .text s => DollarFree s
  | .mapping es => ∀ e ∈ es, DollarFree e.1 ∧
    if e.1 = rawKey then Clause.PlainRaw e.2 else DollarFree (e.2.text?.getD "")

theorem PlainEntries.raw {es : List (Value × Value)} {query : Value} (hplain : PlainEntries es)
    (h : Value.lookupText rawKey es = some query) : Clause.PlainRaw query := by
  obtain ⟨key, hmem, hkey⟩ := Value.exists_of_lookupText h
  have hquery := (hplain _ hmem).2
  rwa [if_pos hkey] at hquery

theorem PlainEntries.alias {es : List (Value × Value)} {s : String} (hplain : PlainEntries es)
    (hs : ((Value.lookupText aliasKey es).getD .null).text? = some s) : DollarFree s := by
  cases h : Value.lookupText aliasKey es with
  | none =>
    rw [h] at hs
    nomatch hs
  | some name =>
    obtain ⟨key, hmem, hkey⟩ := Value.exists_of_lookupText h
    have halias : key.text? ≠ some rawKey := by
      rw [hkey]
      decide
    have hname := (hplain _ hmem).2
    rw [if_neg halias] at hname
    rw [h, Option.getD_some] at hs
    rwa [hs] at hname

theorem verbatim_binds {es : List (Value × Value)} {query : Value}
    (h : Value.lookupText rawKey es = some query) :
    (verbatim query es).Yields (Binds (Clause.rawValues query) (PlainEntries es)) := by
  rw [verbatim]
  dsimp only
  split
  · refine Clause.rawQuery_yields.bind' fun vs sql hsql => ?_
    have hsql' : PlainEntries es → sql.Numbered vs.length := fun hplain =>
      hsql.numbered (hplain.raw h)
    split
    · refine .bind_nil (nameOf_yields _) ?_
      rintro name ⟨s, hs, rfl⟩
      refine .pure' ⟨(List.append_nil vs).trans hsql.values, fun hplain => ?_⟩
      rw [List.append_nil]
      have hname := Sql.numbered_verbatim (Identifier.dollarFree_snake (hplain.alias hs))
      exact ((hsql' hplain).text_append (by decide)).append_stop (by decide) hname
    · refine .pure' ⟨(List.append_nil vs).trans hsql.values, fun hplain => ?_⟩
      rw [List.append_nil]
      exact ((hsql' hplain).text_append (by decide)).append_text (by decide)
  · exact (Draft.yields_gives _).bind' fun _ _ _ => .fault _ _ _

theorem aliased_binds {name : Value} (hname : name.text? ≠ some rawKey) (table : Value) :
    (aliased name table).Yields (Binds [] (PlainEntries [(name, table)])) := by
  rw [aliased]
  split
  · next s hs =>
    refine .bind_nil (nameOf_yields _) ?_
    rintro _ ⟨label, hlabel, rfl⟩
    refine .pure' ⟨rfl, fun hplain => Sql.numbered_verbatim ?_⟩
    obtain ⟨hfree, htable⟩ := hplain _ List.mem_cons_self
    rw [if_neg hname, hs] at htable
    rw [hlabel] at hfree
    exact ((Identifier.dollarFree_snake htable).append (by decide)).append
      (Identifier.dollarFree_snake hfree)
  · exact .fault _ _ _

theorem reference_raw {es : List (Value × Value)} {query : Value}
    (h : Value.lookupText rawKey es = some query) :
    reference (.mapping es) = verbatim query es := by
  unfold reference
  dsimp only [Value.text?]
  rw [h]

theorem reference_alias {name table : Value} (h : Value.lookupText rawKey [(name, table)] = none) :
    reference (.mapping [(name, table)]) = aliased name table := by
  unfold reference
  dsimp only [Value.text?]
  rw [h]

theorem reference_ambiguous {es : List (Value × Value)} (h : Value.lookupText rawKey es = none)
    (hes : ∀ name table, es ≠ [(name, table)]) :
    reference (.mapping es) = sortedKeys (es.map Prod.fst) >>= fun keys =>
      .fault .from (.aliasCount keys) [] := by
  unfold reference
  dsimp only [Value.text?]
  rw [h]
  rcases es with _ | ⟨⟨name, table⟩, _ | ⟨e, rest⟩⟩
  · rfl
  · exact absurd rfl (hes name table)
  · rfl

theorem mapping_binds (es : List (Value × Value)) :
    (reference (.mapping es)).Yields (Binds (entryLeaves es) (PlainEntries es)) := by
  rw [entryLeaves]
  cases hraw : Value.lookupText rawKey es with
  | some query =>
    rw [reference_raw hraw]
    exact verbatim_binds hraw
  | none =>
    -- Only a single entry gives an alias.
    rcases es with _ | ⟨⟨name, table⟩, _ | ⟨e, rest⟩⟩
    · rw [reference_ambiguous hraw (by simp)]
      exact (Draft.yields_gives _).bind' fun _ _ _ => .fault _ _ _
    · rw [reference_alias hraw]
      refine aliased_binds (fun hname => ?_) table
      rw [Value.lookupText_cons, if_pos hname] at hraw
      cases hraw
    · rw [reference_ambiguous hraw (by simp)]
      exact (Draft.yields_gives _).bind' fun _ _ _ => .fault _ _ _

theorem text_binds (s : String) :
    (if Text.isBlank s then .fault .from .blankTable []
      else pure (.verbatim (Identifier.snake s)) : Draft Sql).Yields
      (Binds [] (DollarFree s)) := by
  split
  · exact .fault _ _ _
  · exact .pure' ⟨rfl, fun hplain => Sql.numbered_verbatim (Identifier.dollarFree_snake hplain)⟩

theorem reference_value_binds (spec : Value) :
    (reference spec).Yields
      (Binds (Clause.valueLeaves entryLeaves spec) (Clause.PlainValue PlainEntries spec)) := by
  cases spec with
  | text s => exact text_binds s
  | constant c => exact text_binds c.text
  | mapping es => exact mapping_binds es
  | _ => exact .fault _ _ _

theorem plainEntries_textEntries {es : List (String × Value)} (h : Plain (.mapping es)) :
    PlainEntries (Spec.textEntries es) := by
  intro _ hmem
  obtain ⟨e, he, rfl⟩ := List.mem_map.1 hmem
  simpa [Value.text?] using h e he

theorem reference_binds (spec : Spec) :
    (reference spec.toValue).Yields (Binds (leaves spec) (Plain spec)) := by
  rcases spec with s | es
  · exact text_binds s
  · exact (mapping_binds _).mono fun _ _ h => h.imp plainEntries_textEntries

/-! ## Shapes -/

/-- The same entry, but for the values of a verbatim query. -/
def EntryShape (e e' : String × Value) : Prop :=
  e.1 = e'.1 ∧ if e.1 = rawKey then Clause.RawShape e.2 e'.2 else e.2 = e'.2

/-- Equal tables, but for the values of a verbatim query. -/
inductive SameShape : Spec → Spec → Prop where
  | text (s : String) : SameShape (.text s) (.text s)
  | mapping {es es' : List (String × Value)} (h : List.Forall₂ EntryShape es es') :
    SameShape (.mapping es) (.mapping es')

variable {es es' : List (String × Value)}

theorem keys_eq (h : List.Forall₂ EntryShape es es') :
    (Spec.textEntries es).map Prod.fst = (Spec.textEntries es').map Prod.fst := by
  induction h with
  | nil => rfl
  | cons he _ ih =>
    rw [Spec.textEntries] at ih ⊢
    rw [List.map_cons, List.map_cons, ih, he.1]
    rfl

theorem lookupText_eq (h : List.Forall₂ EntryShape es es') {name : String} (hname : name ≠ rawKey) :
    Value.lookupText name (Spec.textEntries es) = Value.lookupText name (Spec.textEntries es') := by
  induction h with
  | nil => rfl
  | @cons e e' rest rest' he _ ih =>
    obtain ⟨hkey, hvalue⟩ := he
    rw [Spec.lookupText_textEntries_cons, Spec.lookupText_textEntries_cons, ih, ← hkey]
    by_cases hhere : e.1 = name
    · rw [if_neg (hhere ▸ hname)] at hvalue
      rw [hvalue]
    · rw [if_neg hhere, if_neg hhere]

theorem lookupText_rawKey (h : List.Forall₂ EntryShape es es') :
    (es = es' ∧ Value.lookupText rawKey (Spec.textEntries es) = none) ∨
      ∃ query query', Value.lookupText rawKey (Spec.textEntries es) = some query ∧
        Value.lookupText rawKey (Spec.textEntries es') = some query' ∧
        Clause.RawShape query query' := by
  induction h with
  | nil => exact .inl ⟨rfl, rfl⟩
  | @cons e e' rest rest' he _ ih =>
    obtain ⟨hkey, hvalue⟩ := he
    rw [Spec.lookupText_textEntries_cons, Spec.lookupText_textEntries_cons, ← hkey]
    by_cases hraw : e.1 = rawKey
    · rw [if_pos hraw] at hvalue
      exact .inr ⟨e.2, e'.2, if_pos hraw, if_pos hraw, hvalue⟩
    · rw [if_neg hraw] at hvalue
      rw [if_neg hraw, if_neg hraw]
      rcases ih with ⟨rfl, hnone⟩ | hsome
      · exact .inl ⟨by rw [Prod.ext hkey hvalue], hnone⟩
      · exact .inr hsome

theorem verbatim_agree {query query' : Value} (hquery : Clause.RawShape query query')
    (h : List.Forall₂ EntryShape es es') :
    Draft.Agree Eq (verbatim query (Spec.textEntries es))
      (verbatim query' (Spec.textEntries es')) := by
  have halias : Value.lookupText aliasKey (Spec.textEntries es) =
      Value.lookupText aliasKey (Spec.textEntries es') := lookupText_eq h (by decide)
  rw [verbatim, verbatim, ← keys_eq h, ← halias]
  dsimp only
  split
  · exact .bind_eq (Clause.rawQuery_agree hquery) fun _ => .refl _
  · exact .refl _

theorem reference_agree {spec spec' : Spec} (h : SameShape spec spec') :
    Draft.Agree Eq (reference spec.toValue) (reference spec'.toValue) := by
  cases h with
  | text s => exact .refl _
  | mapping h =>
    -- Tables without a verbatim query bind nothing, and of the same shape they are equal.
    rcases lookupText_rawKey h with ⟨rfl, -⟩ | ⟨query, query', hquery, hquery', hshape⟩
    · exact .refl _
    · show Draft.Agree Eq (reference (.mapping (Spec.textEntries _)))
        (reference (.mapping (Spec.textEntries _)))
      rw [reference_raw hquery, reference_raw hquery']
      exact verbatim_agree hshape h

end ParamSql.Table
