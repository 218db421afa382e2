import ParamSql.Proofs.Clause.Join
import ParamSql.Proofs.Sql.Text

/-!
Conditions without leaves.

A specification is leafless if it says nothing about any row: nothing, blank text, or a mapping in
which every entry is `unset` or holds a leafless mapping below a column, `and` or `or`. These are
the conditions that compile to no text, and every other one compiles to text that is not blank
(`condition_visible`). A join with a leafless condition is refused, and no other
(`clause_emptyJoin_iff`).
-/

namespace ParamSql

namespace Where

mutual

def leaflessAll : List (Value × Value) → Bool
  | [] => true
  | (key, value) :: rest => leaflessEntry key value && leaflessAll rest

/-- The entry is `unset`, or it holds a mapping without leaves below a key that is no operator. -/
def leaflessEntry (key : Value) : Value → Bool
  | .unset => true
  | .mapping es => nests (key.keyword? WhereKeyword) && leaflessAll es
  | _ => false

end

/-- The specification has no leaf. -/
def leafless (spec : Value) : Bool :=
  match spec with
  | .null | .unset => true
  | .mapping es => leaflessAll es
  | spec =>
    match spec.text? with
    | some s => Text.isBlank s
    | none => false

variable {path : KeyPath} {key value : Value} {name : String} {es : List (Value × Value)}
  {vs : List Value} {fs : List Sql}

theorem leaflessEntry_of_own (h : Clause.Own nests key value) :
    leaflessEntry key value = false := by
  obtain ⟨hset, hvalue⟩ := h
  cases value with
  | unset => cases hset
  | mapping es => rw [leaflessEntry, hvalue es rfl, Bool.false_and]
  | _ => rfl

/-! ## Fragments -/

theorem wrapped_eq_nil_iff (keyword : Option WhereKeyword) : wrapped keyword fs = [] ↔ fs = [] := by
  rcases wrapped_cases keyword fs with h | ⟨joiner, h⟩
  · rw [h]
  · rw [h, grouped]
    split
    · next hempty => simpa using hempty
    · next hempty => simpa using hempty

theorem visible_wrapped (keyword : Option WhereKeyword) (hfs : ∀ f ∈ fs, f.Visible) :
    ∀ f ∈ wrapped keyword fs, f.Visible := by
  rcases wrapped_cases keyword fs with h | ⟨joiner, h⟩
  · rwa [h]
  · intro f hf
    rw [h, grouped] at hf
    split at hf
    · cases hf
    · obtain rfl := List.mem_singleton.1 hf
      exact (Sql.visible_verbatim (by decide)).append_right.append_right

/-- Every operator writes something beside the column. -/
theorem Atom.visible {keyword : Option WhereKeyword} {f : Sql}
    (h : Atom path name value keyword vs f) : f.Visible := by
  cases h with
  | membership => exact (Sql.visible_verbatim (by decide)).append_left.append_right.append_right
  | nullTest _ htest =>
    apply Sql.visible_verbatim_append
    rcases htest with rfl | rfl <;> exact Bool.and_false _
  | substring => exact (Sql.visible_verbatim (by decide)).append_left.append_right.append_right
  | verbatim =>
    exact (Sql.visible_verbatim_append (Bool.and_false _)).append_right.append_right
  | column => exact (Sql.visible_verbatim_append (Bool.and_false _)).append_right

/-- What the entries of a mapping compile to can be seen, and it is nothing only if they have no
leaf. -/
theorem compiles_visible (h : walk.Compiles path es vs fs) :
    (fs = [] ↔ leaflessAll es = true) ∧ ∀ f ∈ fs, f.Visible := by
  -- Along the derivation: a mapping below a key that nests has fragments after wrapping when it had
  -- some before, and an operator always has one.
  induction h with
  | nil => exact ⟨by simp [leaflessAll], List.forall_mem_nil _⟩
  | @unset _ key value rest _ _ hset _ ih =>
    obtain rfl := Value.eq_unset_of_isUnset hset
    exact ⟨by rw [leaflessAll, leaflessEntry, Bool.true_and, ih.1], ih.2⟩
  | @nested _ key _ _ _ _ _ _ _ _ hnests _ _ ihes ihrest =>
    constructor
    · have hkey : nests (key.keyword? WhereKeyword) = true := hnests
      rw [leaflessAll, leaflessEntry, hkey, Bool.true_and, Bool.and_eq_true, ← ihes.1, ← ihrest.1,
        List.append_eq_nil_iff]
      exact and_congr_left fun _ => wrapped_eq_nil_iff _
    · exact List.forall_mem_append.2 ⟨visible_wrapped _ ihes.2, ihrest.2⟩
  | own _ hown hgives _ ih =>
    obtain ⟨f, rfl, hatom⟩ := (walk_operator_yields _).of_gives hgives
    constructor
    · rw [leaflessAll, leaflessEntry_of_own hown, Bool.false_and]
      simp
    · exact List.forall_mem_cons.2 ⟨hatom.visible, ih.2⟩

theorem fragments_visible (spec : Value) : (fragments .root spec).Yields fun _ fs =>
    (fs = [] ↔ leafless spec = true) ∧ ∀ f ∈ fs, f.Visible := by
  have htext : ∀ s : String, (pure (if Text.isBlank s then [] else [.verbatim s]) :
      Draft (List Sql)).Yields fun _ fs =>
        (fs = [] ↔ Text.isBlank s = true) ∧ ∀ f ∈ fs, f.Visible := by
    intro s
    refine .pure' ?_
    cases hs : Text.isBlank s with
    | true => simp
    | false => simpa using Sql.visible_verbatim hs
  cases spec with
  | null => exact .pure' ⟨by simp [leafless], List.forall_mem_nil _⟩
  | unset => exact .pure' ⟨by simp [leafless], List.forall_mem_nil _⟩
  | text s => exact htext s
  | constant c => exact htext c.text
  | mapping es =>
    show (entries .root es).Yields _
    rw [entries_eq]
    exact (walk.entries_yields .root es).mono fun vs fs h => compiles_visible h
  | _ => exact .fault _ _ _

/-! ## Conditions -/

/-- A condition is without text if it is leafless, and otherwise it is not blank. -/
theorem condition_visible (spec : Value) : (condition spec).Yields fun _ sql =>
    (leafless spec = true → sql = .empty) ∧ (leafless spec = false → sql.Visible) := by
  refine (fragments_visible spec).bind_pure fun vs fs ⟨hnil, hvisible⟩ => ⟨fun h => ?_, fun h => ?_⟩
  · rw [hnil.2 h, Sql.joined]
  · have hne : fs ≠ [] := fun hfs => Bool.false_ne_true (h.symm.trans (hnil.1 hfs))
    obtain ⟨f, rest, rfl⟩ := List.exists_cons_of_ne_nil hne
    exact Sql.Visible.joined List.mem_cons_self (hvisible f List.mem_cons_self)

theorem condition_eq_empty_iff {spec : Value} {sql : Sql} (h : (condition spec).result = .ok sql)
    (taken : Nat) : sql.write taken = "" ↔ leafless spec = true := by
  obtain ⟨hleafless, hleaves⟩ := condition_visible spec sql h
  rw [Sql.write_eq_empty_iff]
  cases hspec : leafless spec with
  | true => simp [hleafless hspec, Sql.isEmpty, Sql.empty]
  | false => simp [(hleaves hspec).isEmpty]

/-- A clause is left out if its condition is leafless, and otherwise there is something to see. -/
theorem clause_ok {spec : Value} {text : Sql} (h : (clause spec).result = .ok text) :
    ∃ sql, (condition spec).result = .ok sql ∧
      text = (if leafless spec then .empty else Sql.verbatim "WHERE " ++ sql) ∧
      text.isEmpty = leafless spec := by
  obtain ⟨sql, hsql, htext, -⟩ := Draft.result_bind h
  obtain ⟨hleafless, hleaves⟩ := condition_visible spec sql hsql
  obtain rfl := Except.ok.inj htext
  refine ⟨sql, hsql, ?_⟩
  cases hspec : leafless spec with
  | true =>
    rw [hleafless hspec]
    exact ⟨rfl, rfl⟩
  | false =>
    have hvisible := hleaves hspec
    rw [if_neg (by simp [hvisible.isEmpty])]
    exact ⟨rfl, hvisible.append_left.isEmpty⟩

end Where

/-! ## Joins -/

namespace Join

/-- The condition of the join has no leaf: no pairs, or else blank text or a leafless mapping. -/
def leafless (join : Join) : Bool :=
  match join.pairs with
  | some pairs => pairs.isEmpty
  | none => Where.leafless (optionValue Spec.toValue join.condition)

theorem on_isBlankBy (join : Join) :
    join.on.Yields fun _ sql => sql.isBlankBy Text.isBlank = join.leafless := by
  have hcondition : ∀ spec, (Where.condition spec).Yields fun _ sql =>
      sql.isBlankBy Text.isBlank = Where.leafless spec := by
    refine fun spec => (Where.condition_visible spec).mono fun vs sql ⟨hleafless, hleaves⟩ => ?_
    cases hspec : Where.leafless spec with
    | true =>
      rw [hleafless hspec]
      rfl
    | false => exact hleaves hspec
  obtain ⟨type, table, condition, pairs⟩ := join
  rcases pairs with _ | pairs
  · rcases condition with _ | s | es
    · exact hcondition _
    · exact .pure' (Bool.and_true _)
    · exact hcondition _
  · refine .pure' ?_
    cases pairs with
    | nil => rfl
    | cons p rest =>
      have hpair : (Dialect.textEquals (.verbatim (Identifier.snake p.1))
          (.verbatim (Identifier.snake p.2))).Visible :=
        (Sql.visible_verbatim (by decide)).append_left
      exact Sql.Visible.joined List.mem_cons_self hpair

/-- A join whose parts compile is refused for an empty condition if and only if that condition has
no leaf. -/
theorem clause_emptyJoin_iff (join : Join) {table condition : Sql}
    (htable : (Table.reference join.table.toValue).result = .ok table)
    (hcondition : join.on.result = .ok condition) :
    join.clause.result = .error (.clause .join (.emptyJoin table.text) []) ↔
      join.leafless = true := by
  rw [clause, Draft.bind_result_ok htable, Draft.bind_result_ok hcondition,
    on_isBlankBy join condition hcondition]
  cases join.leafless with
  | true => exact iff_of_true rfl rfl
  | false => exact iff_of_false nofun Bool.false_ne_true

end Join

end ParamSql
