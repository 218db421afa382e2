import ParamSql.Proofs.Clause.Prune
import ParamSql.Proofs.Schema.Instance

/-!
Clauses in which verbatim queries are given as instances.

A verbatim query stands under `raw`, below a column of a condition or in a table. It is taken as a
text or as a mapping, and its instance is refused. So a clause with instances in the place of some
mappings compiles as before (`Draft.AlikeUnless`) unless it comes to one of the instances
(`Where.condition_instanced`, `Table.reference_instanced`).
-/

namespace ParamSql

open Relation

/-! ## Drafts that come to the same or refuse an instance -/

/-- The error says that the instance of a verbatim query is no verbatim query. -/
inductive Error.OfQuery : Error → Prop where
  | unsupported (clause : ClauseName) (q : RawQuery) (path : List String) :
    OfQuery (.clause clause (.unsupportedRaw q.toValue) path)

namespace Draft

variable {α β γ : Type}

/-- The drafts come to the same, or the second one refuses the instance of a verbatim query; the
latter only if `queries` is true. -/
inductive AlikeUnless (queries : Bool) (x y : Draft α) : Prop where
  | alike (h : x.Alike y) : AlikeUnless queries x y
  | refused (hqueries : queries = true) {e : Error} (h : y.result = .error e) (he : e.OfQuery) :
    AlikeUnless queries x y

namespace AlikeUnless

variable {queries : Bool} {x y : Draft α} {f g : α → Draft β}

theorem refl (x : Draft α) : AlikeUnless queries x x :=
  .alike (.refl x)

theorem bind' (hxy : AlikeUnless queries x y) (hfg : ∀ a, AlikeUnless queries (f a) (g a)) :
    AlikeUnless queries (x >>= f) (y >>= g) := by
  cases hxy with
  | refused hqueries h he => exact .refused hqueries (bind_result_error h) he
  | alike h =>
    cases hresult : y.result with
    | error e => exact .alike (h.bind_of_error hresult)
    | ok a =>
      cases hfg a with
      | refused hqueries h he =>
        exact .refused hqueries (by rw [bind_result_ok hresult, h]) he
      | alike hfg => exact .alike (h.bind_of_ok hresult hfg)

/-- The same steps after drafts that come to the same or refuse. -/
theorem bind_left (hxy : AlikeUnless queries x y) (f : α → Draft β) :
    AlikeUnless queries (x >>= f) (y >>= f) :=
  bind' hxy fun a => refl (f a)

/-- Steps that come to the same or refuse after the same draft. -/
theorem bind_right (x : Draft α) (hfg : ∀ a, AlikeUnless queries (f a) (g a)) :
    AlikeUnless queries (x >>= f) (x >>= g) :=
  bind' (refl x) hfg

theorem mapM {f : α → Draft γ} {g : β → Draft γ} {as : List α} {bs : List β}
    (h : List.Forall₂ (fun a b => AlikeUnless queries (f a) (g b)) as bs) :
    AlikeUnless queries (as.mapM f) (bs.mapM g) := by
  induction h with
  | nil => exact refl _
  | cons hab _ ih =>
    rw [List.mapM_cons, List.mapM_cons]
    exact bind' hab fun c => bind_left ih fun cs => pure (c :: cs)

end AlikeUnless

end Draft

open Draft

variable {queries : Bool}

/-! ## Verbatim queries -/

/-- A mapping that is a verbatim query, and its instance; none if `queries` is false. -/
inductive RawQuery.Instanced (queries : Bool) : Value → Value → Prop where
  | query {es : List (Value × Value)} {q : RawQuery} (hqueries : queries = true)
    (h : RawQuery.check (.mapping es) = .valid q) : Instanced queries (.mapping es) q.toValue

theorem Clause.rawQuery_instanced {clause : ClauseName} {path : KeyPath} {v v' : Value}
    (h : RawQuery.Instanced queries v v') :
    AlikeUnless queries (rawQuery clause path v) (rawQuery clause path v') := by
  cases h with
  | query hqueries _ => exact .refused hqueries rfl (.unsupported _ _ _)

/-! ## Tables -/

namespace Table

/-- What may be given as an instance in a table: the verbatim query. -/
def Instanced (queries : Bool) (name : String) (v v' : Value) : Prop :=
  name = rawKey ∧ RawQuery.Instanced queries v v'

variable {bs bs' : List (String × Value)}

theorem lookupText_instanced (h : Value.TableReplaced (Instanced queries) bs bs') (name : String)
    (hname : name ≠ rawKey) :
    Value.lookupText name (Spec.textEntries bs) = Value.lookupText name (Spec.textEntries bs') := by
  have hvalue := (Value.replaced_textEntries h).lookupText name
  generalize Value.lookupText name (Spec.textEntries bs) = x at hvalue
  generalize Value.lookupText name (Spec.textEntries bs') = y at hvalue
  cases hvalue with
  | none => rfl
  | some hvalue =>
    cases hvalue with
    | refl => rfl
    | single hvalue => exact absurd hvalue.1 hname

/-- Tables without a verbatim query have nothing that may be given as an instance. -/
theorem rawKey_instanced (h : Value.TableReplaced (Instanced queries) bs bs') :
    bs = bs' ∨ ∃ query query', Value.lookupText rawKey (Spec.textEntries bs) = some query ∧
      Value.lookupText rawKey (Spec.textEntries bs') = some query' ∧
      ReflGen (RawQuery.Instanced queries) query query' := by
  induction h with
  | nil => exact .inl rfl
  | @cons b b' rest rest' hb _ ih =>
    obtain ⟨name, v⟩ := b
    obtain ⟨_, v'⟩ := b'
    obtain ⟨rfl, hvalue⟩ := hb
    rw [Spec.lookupText_textEntries_cons, Spec.lookupText_textEntries_cons]
    by_cases hname : name = rawKey
    · rw [if_pos hname, if_pos hname]
      exact .inr ⟨v, v', rfl, rfl, hvalue.mono fun _ _ => And.right⟩
    · obtain rfl : v = v' := by
        cases hvalue with
        | refl => rfl
        | single hvalue => exact absurd hvalue.1 hname
      rw [if_neg hname, if_neg hname]
      exact ih.imp_left fun hrest => by rw [hrest]

theorem verbatim_instanced (h : Value.TableReplaced (Instanced queries) bs bs')
    {query query' : Value} (hquery : ReflGen (RawQuery.Instanced queries) query query') :
    AlikeUnless queries (verbatim query (Spec.textEntries bs))
      (verbatim query' (Spec.textEntries bs')) := by
  have hkeys := (Value.replaced_textEntries h).keys_eq
  have halias := lookupText_instanced h aliasKey (by decide)
  rw [verbatim, verbatim, ← hkeys, ← halias]
  dsimp only
  split
  · refine .bind_left ?_ _
    cases hquery with
    | refl => exact .refl _
    | single hquery => exact Clause.rawQuery_instanced hquery
  · exact .refl _

theorem reference_instanced {spec spec' : Spec} (h : Spec.Replaced (Instanced queries) spec spec') :
    AlikeUnless queries (reference spec.toValue) (reference spec'.toValue) := by
  cases h with
  | same => exact .refl _
  | @mapping bs bs' h =>
    rcases rawKey_instanced h with rfl | ⟨query, query', hquery, hquery', hvalue⟩
    · exact .refl _
    · show AlikeUnless queries (reference (.mapping (Spec.textEntries bs)))
        (reference (.mapping (Spec.textEntries bs')))
      rw [reference_raw hquery, reference_raw hquery']
      exact verbatim_instanced h hvalue

end Table

/-! ## Conditions -/

namespace Where

/-- What may be given as an instance in a condition: a verbatim query, at any depth. -/
inductive Instanced (queries : Bool) : String → Value → Value → Prop where
  | query {name : String} {v v' : Value} (hname : name = WhereKeyword.verbatim.text)
    (h : RawQuery.Instanced queries v v') : Instanced queries name v v'
  | nested {name : String} {es es' : List (Value × Value)}
    (hnests : nests ((Value.text name).keyword? WhereKeyword) = true)
    (h : Value.Replaced (Instanced queries) es es') :
    Instanced queries name (.mapping es) (.mapping es')

theorem Instanced.isUnset {name : String} {v v' : Value} (h : Instanced queries name v v') :
    v.isUnset = false ∧ v'.isUnset = false := by
  cases h with
  | query _ h =>
    cases h
    exact ⟨rfl, rfl⟩
  | nested => exact ⟨rfl, rfl⟩

theorem operator_instanced {path : KeyPath} {name : String} {key v v' : Value}
    (h : RawQuery.Instanced queries v v') :
    AlikeUnless queries (operator path name key v .verbatim)
      (operator path name key v' .verbatim) :=
  .bind_right _ fun _ => .bind_left (Clause.rawQuery_instanced h) _

theorem entries_instanced {es es' : List (Value × Value)}
    (h : Value.Replaced (Instanced queries) es es') (path : KeyPath) :
    AlikeUnless queries (walk.entries path es) (walk.entries path es') := by
  -- The induction takes the mapping below the first key and the rest of the entries.
  induction es using Value.entries_induction generalizing es' path with
  | nil =>
    cases h
    exact .refl _
  | cons key value rest ihvalue ihrest =>
    cases h with
    | same _ hrest =>
      rw [Clause.Walk.entries, Clause.Walk.entries]
      exact .bind_right _ fun here => .bind_left (ihrest hrest path) _
    | @other _ _ v' name _ rest' hkey hv hrest =>
      obtain ⟨hset, hset'⟩ := hv.isUnset
      have hentry : AlikeUnless queries (walk.entry path key value) (walk.entry path key v') := by
        cases htext : key.text? with
        | none =>
          rw [Clause.Walk.entry_keyNotText hset htext, Clause.Walk.entry_keyNotText hset' htext]
          exact .refl _
        | some name' =>
          obtain rfl := Checked.valid.inj (hkey.symm.trans (Check.text_of_text? htext))
          have hkeyword : key.keyword? WhereKeyword = (Value.text name).keyword? WhereKeyword :=
            Value.keyword?_congr htext
          cases hv with
          | query hname hquery =>
            subst hname
            have hown : ∀ w : Value, w.isUnset = false → Clause.Own walk.nests key w := by
              refine fun w hw => ⟨hw, fun _ _ => ?_⟩
              rw [hkeyword]
              rfl
            rw [Clause.Walk.entry_own htext (hown _ hset),
              Clause.Walk.entry_own htext (hown _ hset'), hkeyword]
            exact .bind_left (operator_instanced hquery) _
          | nested hnests hes =>
            rw [← hkeyword] at hnests
            rw [Clause.Walk.entry_nested htext hnests, Clause.Walk.entry_nested htext hnests]
            exact .bind_left (ihvalue _ rfl hes _) _
      rw [Clause.Walk.entries, Clause.Walk.entries]
      exact hentry.bind' fun here => .bind_left (ihrest hrest path) _

theorem condition_instanced {spec spec' : Spec}
    (h : Spec.Replaced (Instanced queries) spec spec') :
    AlikeUnless queries (condition spec.toValue) (condition spec'.toValue) := by
  cases h with
  | same => exact .refl _
  | mapping h =>
    refine .bind_left ?_ _
    show AlikeUnless queries (entries .root (Spec.textEntries _))
      (entries .root (Spec.textEntries _))
    rw [entries_eq, entries_eq]
    exact entries_instanced (Value.replaced_textEntries h) _

theorem clause_instanced {condition condition' : Option Spec}
    (h : Option.Rel (Spec.Replaced (Instanced queries)) condition condition') :
    AlikeUnless queries (clause (optionValue Spec.toValue condition))
      (clause (optionValue Spec.toValue condition')) := by
  cases h with
  | none => exact .refl _
  | some h => exact .bind_left (condition_instanced h) _

end Where

/-! ## Joins -/

namespace Join

variable {join join' : Join}

theorem on_instanced (h : Replaced (Table.Instanced queries) (Where.Instanced queries) join join') :
    AlikeUnless queries join.on join'.on := by
  obtain ⟨type, table, condition, pairs⟩ := join
  obtain ⟨type', table', condition', pairs'⟩ := join'
  obtain ⟨-, -, hcondition, rfl⟩ := h
  rcases pairs with _ | pairs
  · cases hcondition with
    | none => exact .refl _
    | some h =>
      cases h with
      | same => exact .refl _
      | mapping h => exact Where.condition_instanced (.mapping h)
  · exact .refl _

theorem clause_instanced
    (h : Replaced (Table.Instanced queries) (Where.Instanced queries) join join') :
    AlikeUnless queries join.clause join'.clause := by
  rw [clause, clause, h.type]
  exact (Table.reference_instanced h.table).bind' fun table => .bind_left (on_instanced h) _

end Join

end ParamSql
