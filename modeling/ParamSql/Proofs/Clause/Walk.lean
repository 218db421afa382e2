import ParamSql.Proofs.Clause.Spec

/-!
Clauses that are compiled entry by entry.

Conditions and orders go through a mapping in the same way: an entry that is `unset` is skipped, a
mapping below some keys is gone through in its turn, and every other entry is left to an operator.
They differ in a `Walk`: below which keys they go, what becomes of the fragments found there, and
the operators. What is proved here of a walk holds of both.
-/

namespace ParamSql.Clause

/-- How a clause goes through its entries: `nests` tells below which keys, `wrapped` what becomes of
the fragments of a mapping there, and `operator` compiles the other entries. -/
structure Walk (κ : Type) where
  clause : ClauseName
  nests : Option κ → Bool
  wrapped : Option κ → List Sql → List Sql
  operator : KeyPath → String → Value → Value → Option κ → Draft (List Sql)

/-- The entry is not gone through further: it is given, and no mapping below a key that nests. -/
def Own {κ : Type} [Keyword κ] (nests : Option κ → Bool) (key value : Value) : Prop :=
  value.isUnset = false ∧ ∀ es, value = .mapping es → nests (key.keyword? κ) = false

namespace Walk

variable {κ : Type} [Keyword κ] (w : Walk κ)

mutual

/-- The fragments of the entries of a mapping, in key order. -/
def entries (path : KeyPath) : List (Value × Value) → Draft (List Sql)
  | [] => pure []
  | (key, value) :: rest => do
    let here ← entry path key value
    let others ← entries path rest
    pure (here ++ others)

def entry (path : KeyPath) (key value : Value) : Draft (List Sql) :=
  if value.isUnset then pure []
  else
    match key.text? with
    | none => .fault w.clause (.keyNotText key) path.keys
    | some name =>
      match w.nests (key.keyword? κ), value with
      | true, .mapping es => do
        let fragments ← entries (path.descend name) es
        pure (w.wrapped (key.keyword? κ) fragments)
      | _, value => w.operator (path.descend name) name key value (key.keyword? κ)

end

variable {w} {path : KeyPath} {key value : Value} {name : String} {es : List (Value × Value)}

theorem entry_unset (h : value.isUnset = true) : w.entry path key value = pure [] := by
  rw [entry, if_pos h]

theorem entry_keyNotText (hset : value.isUnset = false) (hkey : key.text? = none) :
    w.entry path key value = .fault w.clause (.keyNotText key) path.keys := by
  rw [entry, hset, if_neg Bool.false_ne_true, hkey]

theorem entry_nested (hname : key.text? = some name) (h : w.nests (key.keyword? κ) = true) :
    w.entry path key (.mapping es) = w.entries (path.descend name) es >>= fun fragments =>
      pure (w.wrapped (key.keyword? κ) fragments) := by
  have hset : (Value.mapping es).isUnset = false := rfl
  rw [entry, hset, if_neg Bool.false_ne_true, hname, h]

theorem entry_own (hname : key.text? = some name) (h : Own w.nests key value) :
    w.entry path key value =
      w.operator (path.descend name) name key value (key.keyword? κ) := by
  obtain ⟨hset, hvalue⟩ := h
  rw [entry, hset, if_neg Bool.false_ne_true, hname]
  dsimp only
  split
  · next es hnests => exact absurd (hnests.symm.trans (hvalue es rfl)) (by decide)
  · rfl

/-- The ways in which an entry is gone through. -/
inductive EntryCase (w : Walk κ) (key value : Value) : Prop where
  | unset (hset : value.isUnset = true)
  | keyNotText (hset : value.isUnset = false) (hkey : key.text? = none)
  | nested {name : String} {es : List (Value × Value)} (hname : key.text? = some name)
    (hnests : w.nests (key.keyword? κ) = true) (hvalue : value = .mapping es)
  | own {name : String} (hname : key.text? = some name) (hown : Own w.nests key value)

theorem entryCase (w : Walk κ) (key value : Value) : w.EntryCase key value := by
  cases hset : value.isUnset with
  | true => exact .unset hset
  | false =>
    cases hname : key.text? with
    | none => exact .keyNotText hset hname
    | some name =>
      by_cases h : ∃ es, value = .mapping es
      · obtain ⟨es, rfl⟩ := h
        cases hnests : w.nests (key.keyword? κ) with
        | true => exact .nested hname hnests rfl
        | false => exact .own hname ⟨rfl, fun _ _ => hnests⟩
      · exact .own hname ⟨hset, fun es hes => absurd ⟨es, hes⟩ h⟩

/-- Whatever goes through a mapping entry by entry, and through each entry as the walk does, is the
walk. -/
theorem eq_entries {f : KeyPath → List (Value × Value) → Draft (List Sql)}
    {g : KeyPath → Value → Value → Draft (List Sql)} (hnil : ∀ path, f path [] = pure [])
    (hcons : ∀ path key value rest, f path ((key, value) :: rest) = do
      let here ← g path key value
      let others ← f path rest
      pure (here ++ others))
    (hentry : ∀ path key value,
      (∀ es, value = .mapping es → ∀ path, f path es = w.entries path es) →
      g path key value = w.entry path key value)
    (path : KeyPath) (es : List (Value × Value)) : f path es = w.entries path es := by
  induction es using Value.entries_induction generalizing path with
  | nil => rw [hnil, entries]
  | cons key value rest ihvalue ihrest =>
    rw [hcons, entries, hentry path key value ihvalue, ihrest path]

/-! ## The derivation of a clause -/

/-- The values that the entries of a mapping bind and the fragments that they become. -/
inductive Compiles (w : Walk κ) :
    KeyPath → List (Value × Value) → List Value → List Sql → Prop where
  | nil {path : KeyPath} : Compiles w path [] [] []
  | unset {path : KeyPath} {key value : Value} {rest : List (Value × Value)} {vs : List Value}
    {fs : List Sql} (hset : value.isUnset = true) (hrest : Compiles w path rest vs fs) :
    Compiles w path ((key, value) :: rest) vs fs
  | nested {path : KeyPath} {key : Value} {name : String} {es rest : List (Value × Value)}
    {vs ws : List Value} {fs gs : List Sql} (hname : key.text? = some name)
    (hnests : w.nests (key.keyword? κ) = true) (hes : Compiles w (path.descend name) es vs fs)
    (hrest : Compiles w path rest ws gs) :
    Compiles w path ((key, .mapping es) :: rest) (vs ++ ws) (w.wrapped (key.keyword? κ) fs ++ gs)
  | own {path : KeyPath} {key value : Value} {name : String} {rest : List (Value × Value)}
    {vs ws : List Value} {fs gs : List Sql} (hname : key.text? = some name)
    (hown : Own w.nests key value)
    (hgives : (w.operator (path.descend name) name key value (key.keyword? κ)).Gives vs fs)
    (hrest : Compiles w path rest ws gs) :
    Compiles w path ((key, value) :: rest) (vs ++ ws) (fs ++ gs)

theorem entries_yields (w : Walk κ) (path : KeyPath) (es : List (Value × Value)) :
    (w.entries path es).Yields (w.Compiles path es) := by
  -- The induction takes the mapping below the first key and the rest of the entries; every way of
  -- going through the first entry is a rule of `Compiles`.
  induction es using Value.entries_induction generalizing path with
  | nil =>
    rw [entries]
    exact .pure' .nil
  | cons key value rest ihvalue ihrest =>
    rw [entries]
    cases w.entryCase key value with
    | unset hset =>
      rw [entry_unset hset, pure_bind]
      exact (ihrest path).bind_pure fun vs fs hrest => .unset hset hrest
    | keyNotText hset hkey =>
      rw [entry_keyNotText hset hkey]
      exact .fault_bind _ _ _
    | nested hname hnests hvalue =>
      subst hvalue
      rw [entry_nested hname hnests, bind_assoc]
      refine (ihvalue _ rfl _).bind' fun vs fs hes => ?_
      rw [pure_bind]
      exact (ihrest path).bind_pure fun ws gs hrest => .nested hname hnests hes hrest
    | own hname hown =>
      rw [entry_own hname hown]
      refine (Draft.yields_gives _).bind' fun vs fs hgives => ?_
      exact (ihrest path).bind_pure fun ws gs hrest => .own hname hown hgives hrest

end Walk

/-! ## Leaves -/

section Leaves

variable {κ : Type} [Keyword κ] (nests : Option κ → Bool) (own : Value → Option κ → List Value)

mutual

/-- The values that the entries of a mapping bind, in depth-first key order, if `own` gives those of
an entry that is not gone through further. -/
def leaves : List (Value × Value) → List Value
  | [] => []
  | (key, value) :: rest => entryLeaves key value ++ leaves rest

/-- The values that one entry binds; an entry that is `unset` binds none. -/
def entryLeaves (key value : Value) : List Value :=
  if value.isUnset then []
  else
    match nests (key.keyword? κ), value with
    | true, .mapping es => leaves es
    | _, value => own value (key.keyword? κ)

end

variable {nests own} {key value : Value} {es : List (Value × Value)}

theorem entryLeaves_unset (h : value.isUnset = true) : entryLeaves nests own key value = [] := by
  rw [entryLeaves.eq_def, if_pos h]

theorem entryLeaves_nested (h : nests (key.keyword? κ) = true) :
    entryLeaves nests own key (.mapping es) = leaves nests own es := by
  have hset : (Value.mapping es).isUnset = false := rfl
  rw [entryLeaves.eq_def, hset, if_neg Bool.false_ne_true, h]

theorem entryLeaves_own (h : Own nests key value) :
    entryLeaves nests own key value = own value (key.keyword? κ) := by
  obtain ⟨hset, hvalue⟩ := h
  rw [entryLeaves.eq_def, hset, if_neg Bool.false_ne_true]
  split
  · next es hnests => exact absurd (hnests.symm.trans (hvalue es rfl)) (by decide)
  · rfl

/-- Whatever the entries of a mapping compile to, they bind its leaves. -/
theorem Walk.Compiles.leaves_eq {w : Walk κ} {path : KeyPath} {vs : List Value} {fs : List Sql}
    (hown : ∀ path name key value keyword, (w.operator path name key value keyword).Yields
      fun vs _ => vs = own value keyword)
    (h : w.Compiles path es vs fs) : vs = leaves w.nests own es := by
  induction h with
  | nil => rw [leaves]
  | unset hset _ ih => rw [leaves, entryLeaves_unset hset, List.nil_append, ih]
  | nested _ hnests _ _ ihes ihrest => rw [leaves, entryLeaves_nested hnests, ihes, ihrest]
  | own _ hentry hgives _ ih =>
    rw [leaves, entryLeaves_own hentry, ih, (hown _ _ _ _ _).of_gives hgives]

end Leaves

end ParamSql.Clause
