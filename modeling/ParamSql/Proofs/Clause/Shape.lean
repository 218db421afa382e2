import ParamSql.Proofs.Clause.Walk

/-!
Specifications of the same shape: equal but for the values that they bind.

Two specifications of the same shape that both compile become the same text, bind equally many
values and log the same: no bound value gets into a text.
-/

namespace ParamSql.Clause

variable {clause : ClauseName} {path : KeyPath}

/-! ## Columns, lists and verbatim queries -/

theorem operand_agree (isKeyword : String → Bool) (key key' : Value) :
    Draft.Agree Eq (operand clause isKeyword path key) (operand clause isKeyword path key') := by
  rw [operand, operand]
  split
  · split
    · exact .fail_left _ _
    · exact .refl _
  · exact .fail_left _ _

/-- Any two lists agree as far as nobody looks at their texts. -/
theorem commaList_agree (key key' value value' : Value) :
    Draft.Agree (fun _ _ => True) (commaList clause path key value)
      (commaList clause path key' value') := by
  have hsilent : ∀ key value, (commaList clause path key value).bound = [] ∧
      (commaList clause path key value).notes = [] := by
    intro key value
    cases value <;> exact ⟨rfl, rfl⟩
  intro _ _ _ _
  obtain ⟨hbound, hnotes⟩ := hsilent key value
  obtain ⟨hbound', hnotes'⟩ := hsilent key' value'
  rw [hbound, hnotes, hbound', hnotes']
  exact ⟨trivial, rfl, rfl⟩

/-- Verbatim queries with the same text and equally many values. -/
inductive RawShape : Value → Value → Prop where
  | same (value : Value) : RawShape value value
  | values {es es' : List (Value × Value)} {q q' : RawQuery}
    (h : RawQuery.check (.mapping es) = .valid q) (h' : RawQuery.check (.mapping es') = .valid q')
    (hquery : q.query = q'.query) (hlength : q.values.length = q'.values.length) :
    RawShape (.mapping es) (.mapping es')

theorem rawQuery_agree {value value' : Value} (h : RawShape value value') :
    Draft.Agree Eq (rawQuery clause path value) (rawQuery clause path value') := by
  cases h with
  | same => exact .refl _
  | values h h' hquery hlength =>
    rw [rawQuery, rawQuery, h, h']
    dsimp only
    rw [hquery]
    exact .bind_eq (.params hlength) fun room => .refl _

/-! ## Entries -/

section Entries

variable {κ : Type} [Keyword κ]

/-- Entries with the same keys in the same order, `unset` in the same places, and the same mappings
nested in them; `own` says how two entries at the same place may differ. -/
inductive SameShape (nests : Option κ → Bool) (own : Value → Value → Option κ → Prop) :
    List (Value × Value) → List (Value × Value) → Prop where
  | nil : SameShape nests own [] []
  | unset {key key' value value' : Value} {rest rest' : List (Value × Value)}
    (hkey : key.text? = key'.text?) (hset : value.isUnset = true) (hset' : value'.isUnset = true)
    (hrest : SameShape nests own rest rest') :
    SameShape nests own ((key, value) :: rest) ((key', value') :: rest')
  | nested {key key' : Value} {es es' rest rest' : List (Value × Value)}
    (hkey : key.text? = key'.text?) (hnests : nests (key.keyword? κ) = true)
    (hes : SameShape nests own es es') (hrest : SameShape nests own rest rest') :
    SameShape nests own ((key, .mapping es) :: rest) ((key', .mapping es') :: rest')
  | own {key key' value value' : Value} {rest rest' : List (Value × Value)}
    (hkey : key.text? = key'.text?) (hown : Own nests key value) (hown' : Own nests key' value')
    (h : own value value' (key.keyword? κ)) (hrest : SameShape nests own rest rest') :
    SameShape nests own ((key, value) :: rest) ((key', value') :: rest')

theorem SameShape.isEmpty_eq {nests : Option κ → Bool} {own : Value → Value → Option κ → Prop}
    {es es' : List (Value × Value)} (h : SameShape nests own es es') :
    es.isEmpty = es'.isEmpty := by
  cases h <;> rfl

/-- Entries of the same shape stay so when those with some keys, or those that are `unset`, are left
out. -/
theorem SameShape.filter {nests : Option κ → Bool} {own : Value → Value → Option κ → Prop}
    {p : Value × Value → Bool} (hp : ∀ e e' : Value × Value, e.1.text? = e'.1.text? →
      e.2.isUnset = e'.2.isUnset → p e = p e') {es es' : List (Value × Value)}
    (h : SameShape nests own es es') : SameShape nests own (es.filter p) (es'.filter p) := by
  induction h with
  | nil => exact .nil
  | @unset key key' value value' rest rest' hkey hset hset' _ ih =>
    have hsame := hp (key, value) (key', value') hkey (hset.trans hset'.symm)
    rw [List.filter_cons, List.filter_cons, hsame]
    split
    · exact .unset hkey hset hset' ih
    · exact ih
  | @nested key key' es es' rest rest' hkey hnests hes _ _ ihrest =>
    have hsame := hp (key, .mapping es) (key', .mapping es') hkey rfl
    rw [List.filter_cons, List.filter_cons, hsame]
    split
    · exact .nested hkey hnests hes ihrest
    · exact ihrest
  | @own key key' value value' rest rest' hkey hown hown' h _ ih =>
    have hsame := hp (key, value) (key', value') hkey (hown.1.trans hown'.1.symm)
    rw [List.filter_cons, List.filter_cons, hsame]
    split
    · exact .own hkey hown hown' h ih
    · exact ih

/-- Entries of the same shape become the same fragments. -/
theorem Walk.entries_agree {w : Walk κ} {own : Value → Value → Option κ → Prop}
    (hoperator : ∀ path name key key' value value' keyword, own value value' keyword →
      Draft.Agree Eq (w.operator path name key value keyword)
        (w.operator path name key' value' keyword))
    {es es' : List (Value × Value)} (h : SameShape w.nests own es es') (path : KeyPath) :
    Draft.Agree Eq (w.entries path es) (w.entries path es') := by
  -- At the same place both entries are gone through in the same way: how depends on the text of the
  -- key and on whether the value is `unset` or a mapping.
  induction h generalizing path with
  | nil => exact .refl _
  | unset _ hset hset' _ ih =>
    rw [entries, entries, entry_unset hset, entry_unset hset']
    exact .bind_eq (.refl _) fun _ => .bind_eq (ih path) fun _ => .refl _
  | @nested key key' es es' rest rest' hkey hnests _ _ ihes ihrest =>
    rw [entries, entries]
    refine .bind_eq ?_ fun _ => .bind_eq (ihrest path) fun _ => .refl _
    cases hname : key.text? with
    | none =>
      rw [entry_keyNotText rfl hname]
      exact .fail_left _ _
    | some name =>
      have hkeyword := Value.keyword?_congr (κ := κ) hkey
      rw [entry_nested hname hnests, entry_nested (hkey ▸ hname) (hkeyword ▸ hnests), hkeyword]
      exact .bind_eq (ihes _) fun _ => .refl _
  | @own key key' value value' rest rest' hkey hown hown' h _ ih =>
    rw [entries, entries]
    refine .bind_eq ?_ fun _ => .bind_eq (ih path) fun _ => .refl _
    cases hname : key.text? with
    | none =>
      rw [entry_keyNotText hown.1 hname]
      exact .fail_left _ _
    | some name =>
      have hkeyword := Value.keyword?_congr (κ := κ) hkey
      rw [entry_own hname hown, entry_own (hkey ▸ hname) hown', ← hkeyword]
      exact hoperator _ _ _ _ _ _ _ h

end Entries

/-! ## Specifications -/

inductive SpecShape (entries : List (Value × Value) → List (Value × Value) → Prop) :
    Option Spec → Option Spec → Prop where
  | none : SpecShape entries none none
  | text (s : String) : SpecShape entries (some (.text s)) (some (.text s))
  | mapping {es es' : List (String × Value)}
    (h : entries (Spec.textEntries es) (Spec.textEntries es')) :
    SpecShape entries (some (.mapping es)) (some (.mapping es'))

theorem ofSpec_agree {walk : List (Value × Value) → Draft (List Sql)}
    {entries : List (Value × Value) → List (Value × Value) → Prop} {spec spec' : Option Spec}
    (hwalk : ∀ es es', entries es es' → Draft.Agree Eq (walk es) (walk es'))
    (h : SpecShape entries spec spec') :
    Draft.Agree Eq (ofSpec clause walk path (optionValue Spec.toValue spec))
      (ofSpec clause walk path (optionValue Spec.toValue spec')) := by
  cases h with
  | none => exact .refl _
  | text s => exact .refl _
  | mapping h => exact hwalk _ _ h

end ParamSql.Clause
