import ParamSql.Proofs.Clause.Join
import ParamSql.Proofs.Clause.Order
import ParamSql.Proofs.Sql.Text

/-!
Texts that are taken over as they are.

A condition or an order given as text, the queries below `raw` in a condition, and the query of a
table are verbatim texts of their clause. `Sql.Holds f t` says that the text `t` is a piece of the
fragment `f`; every verbatim text of a clause that is not blank is a piece of what the clause
compiles to.
-/

namespace ParamSql

/-! ## Pieces of fragments -/

namespace Sql

/-- The text is a piece of the fragment. -/
def Holds (sql : Sql) (t : String) : Prop :=
  .text t ∈ sql.pieces

variable {a b : Sql} {t : String} {fs : List Sql}

theorem holds_verbatim (t : String) : (verbatim t).Holds t :=
  List.mem_singleton_self _

theorem Holds.append_left (h : b.Holds t) : (a ++ b).Holds t :=
  List.mem_append_right a.pieces h

theorem Holds.append_right (h : a.Holds t) : (a ++ b).Holds t :=
  List.mem_append_left b.pieces h

theorem Holds.joined {separator : String} {f : Sql} (hf : f ∈ fs) (h : f.Holds t) :
    (joined separator fs).Holds t := by
  induction fs with
  | nil => cases hf
  | cons g rest ih =>
    cases rest with
    | nil =>
      obtain rfl := List.mem_singleton.1 hf
      exact h
    | cons g' rest =>
      rcases List.mem_cons.1 hf with rfl | hrest
      · exact h.append_right.append_right
      · exact (ih hrest).append_left

theorem Holds.visible (h : a.Holds t) (ht : Text.isBlank t = false) : a.Visible := by
  rw [Visible, isBlankBy, List.all_eq_false]
  exact ⟨.text t, h, by simp [ht]⟩

/-- A fragment with a text that is not blank is not left out. -/
theorem Holds.mem_nonEmpty {f : Sql} (hf : f ∈ fs) (h : f.Holds t) (ht : Text.isBlank t = false) :
    f ∈ nonEmpty fs := by
  refine List.mem_filter.2 ⟨hf, ?_⟩
  rw [(h.visible ht).isEmpty]
  rfl

/-- The pieces of a fragment stand in its text. -/
theorem Holds.isInfix_write (h : a.Holds t) (taken : Nat) :
    t.toList <:+: (a.write taken).toList := by
  obtain ⟨pieces⟩ := a
  obtain ⟨before, after, hpieces⟩ := List.append_of_mem h
  obtain rfl : pieces = before ++ .text t :: after := hpieces
  rw [write, writePieces_append, writePieces, String.toList_append, String.toList_append]
  exact ⟨_, _, List.append_assoc _ _ _⟩

end Sql

/-! ## Verbatim queries -/

namespace Clause

variable {clause : ClauseName} {path : KeyPath} {value : Value} {t : String}

def rawText? : Value → Option String
  | .mapping es =>
    match RawQuery.check (.mapping es) with
    | .valid q => some q.query
    | .invalid _ => none
  | value => value.text?.map fun _ => value.plain

theorem RawText.holds {vs : List Value} {sql : Sql} (h : RawText value vs sql)
    (ht : rawText? value = some t) : sql.Holds t := by
  cases h with
  | text h =>
    have hplain : rawText? value = some value.plain := by
      cases value <;> first | rfl | nomatch h
    rw [← Option.some.inj (hplain.symm.trans ht)]
    exact Sql.holds_verbatim _
  | query h =>
    rw [rawText?, h] at ht
    rw [← Option.some.inj ht]
    exact (Sql.holds_verbatim _).append_left

/-- A specification that is text is its only fragment. -/
theorem ofSpec_text {walk : List (Value × Value) → Draft (List Sql)} (ht : Text.isBlank t = false) :
    ofSpec clause walk path (.text t) = pure [Sql.verbatim t] := by
  show pure (if Text.isBlank t then [] else [Sql.verbatim t]) = _
  rw [ht, if_neg Bool.false_ne_true]

end Clause

/-! ## Conditions -/

namespace Where

/-- The text is that of a query below `raw`, at any depth of a condition. -/
inductive Queried : List (Value × Value) → String → Prop where
  | here {key value : Value} {rest : List (Value × Value)} {t : String}
    (hkey : key.keyword? WhereKeyword = some .verbatim) (ht : Clause.rawText? value = some t) :
    Queried ((key, value) :: rest) t
  | nested {key : Value} {es rest : List (Value × Value)} {t : String}
    (hkey : nests (key.keyword? WhereKeyword) = true) (ht : Queried es t) :
    Queried ((key, .mapping es) :: rest) t
  | later {e : Value × Value} {rest : List (Value × Value)} {t : String} (ht : Queried rest t) :
    Queried (e :: rest) t

/-- The text is taken over as it is: the condition itself, or a query in it. -/
inductive Verbatim : Spec → String → Prop where
  | text (t : String) : Verbatim (.text t) t
  | query {es : List (String × Value)} {t : String} (ht : Queried (Spec.textEntries es) t) :
    Verbatim (.mapping es) t

variable {path : KeyPath} {es : List (Value × Value)} {vs : List Value} {fs : List Sql} {t : String}

/-- What is held by a fragment is still held when the fragments become a group. -/
theorem holds_wrapped (keyword : Option WhereKeyword) {f : Sql} (hf : f ∈ fs) (h : f.Holds t) :
    ∃ g ∈ wrapped keyword fs, g.Holds t := by
  rcases wrapped_cases keyword fs with hwrapped | ⟨joiner, hwrapped⟩
  · exact ⟨f, by rwa [hwrapped], h⟩
  · have hempty : fs.isEmpty = false := by
      cases fs with
      | nil => cases hf
      | cons g rest => rfl
    rw [hwrapped, grouped, hempty, if_neg Bool.false_ne_true]
    exact ⟨_, List.mem_singleton_self _, (h.joined hf).append_left.append_right⟩

theorem compiles_holds (h : walk.Compiles path es vs fs) (ht : Queried es t) :
    ∃ f ∈ fs, f.Holds t := by
  -- Along the derivation: only `raw` holds a query of its own, and only keys that nest hold more.
  induction h generalizing t with
  | nil => cases ht
  | unset hset _ ih =>
    obtain rfl := Value.eq_unset_of_isUnset hset
    cases ht with
    | here _ ht => cases ht
    | later ht => exact ih ht
  | @nested _ key _ es _ _ _ _ _ _ hnests _ _ ihes ihrest =>
    cases ht with
    | here hkey _ =>
      have hnests' : nests (key.keyword? WhereKeyword) = true := hnests
      rw [hkey] at hnests'
      cases hnests'
    | nested _ ht =>
      obtain ⟨f, hf, hholds⟩ := ihes ht
      obtain ⟨g, hg, hg'⟩ := holds_wrapped (key.keyword? WhereKeyword) hf hholds
      exact ⟨g, List.mem_append_left _ hg, hg'⟩
    | later ht =>
      obtain ⟨f, hf, hholds⟩ := ihrest ht
      exact ⟨f, List.mem_append_right _ hf, hholds⟩
  | @own _ key value _ _ _ _ _ _ hname hown hgives _ ih =>
    cases ht with
    | here hkey ht =>
      obtain ⟨f, rfl, hatom⟩ := (walk_operator_yields _).of_gives hgives
      rw [hkey] at hatom
      cases hatom with
      | verbatim _ hquery =>
        exact ⟨_, List.mem_cons_self, (hquery.holds ht).append_left.append_right⟩
    | nested hkey _ => exact absurd (hkey.symm.trans (hown.2 _ rfl)) (by decide)
    | later ht =>
      obtain ⟨f, hf, hholds⟩ := ih ht
      exact ⟨f, List.mem_append_right _ hf, hholds⟩

theorem condition_holds (spec : Spec) (ht : Text.isBlank t = false) :
    (condition spec.toValue).Yields fun _ sql => Verbatim spec t → sql.Holds t := by
  rcases spec with s | es
  · intro sql hsql hverbatim
    cases hverbatim
    rw [Spec.toValue, condition, fragments, Clause.ofSpec_text ht, pure_bind] at hsql
    obtain rfl := Except.ok.inj hsql
    exact Sql.holds_verbatim t
  · show (entries .root (Spec.textEntries es) >>= fun conditions =>
      pure (Sql.joined " AND " conditions)).Yields _
    rw [entries_eq]
    refine (walk.entries_yields .root _).bind_pure fun vs fs h hverbatim => ?_
    cases hverbatim with
    | query hquery =>
      obtain ⟨f, hf, hholds⟩ := compiles_holds h hquery
      exact hholds.joined hf

theorem clause_holds (condition : Option Spec) (ht : Text.isBlank t = false) :
    (clause (optionValue Spec.toValue condition)).Yields fun _ sql =>
      ∀ spec, condition = some spec → Verbatim spec t → sql.Holds t := by
  rcases condition with _ | spec
  · exact fun _ _ _ hspec => nomatch hspec
  · refine (condition_holds _ ht).bind_pure fun vs text htext spec' hspec hverbatim => ?_
    obtain rfl := Option.some.inj hspec
    have hholds := htext hverbatim
    rw [(hholds.visible ht).isEmpty, if_neg Bool.false_ne_true]
    exact hholds.append_left

end Where

/-! ## Orders -/

theorem Draft.Joint.exists_of_mem {α β : Type} {mid : α → List Value → β → Prop} {as : List α}
    {vs : List Value} {bs : List β} (h : Draft.Joint mid as vs bs) {a : α} (ha : a ∈ as) :
    ∃ b ∈ bs, ∃ ws, mid a ws b := by
  induction h with
  | nil => cases ha
  | cons hmid _ ih =>
    rcases List.mem_cons.1 ha with rfl | hrest
    · exact ⟨_, List.mem_cons_self, _, hmid⟩
    · obtain ⟨b, hb, hws⟩ := ih hrest
      exact ⟨b, List.mem_cons_of_mem _ hb, hws⟩

namespace Order

variable {t : String}

theorem term_holds (spec : Spec) (ht : Text.isBlank t = false) :
    (term spec.toValue).Yields fun _ sql => spec = .text t → sql.Holds t := by
  intro sql hsql hspec
  subst hspec
  rw [Spec.toValue, term.eq_def] at hsql
  dsimp only at hsql
  rw [plainTerm, fragments, Clause.ofSpec_text ht, pure_bind] at hsql
  obtain rfl := Except.ok.inj hsql
  exact Sql.holds_verbatim t

theorem clause_holds (order : Option (OneOrMany Spec)) (ht : Text.isBlank t = false) :
    (clause (optionValue (OneOrMany.toValue Spec.toValue) order)).Yields fun _ sql =>
      ∀ terms, order = some terms → .text t ∈ terms.toList → sql.Holds t := by
  rcases order with _ | terms
  · exact fun _ _ _ horder => nomatch horder
  · rw [clause, specs_toValue, given, List.map_map, List.mapM_map]
    refine (Draft.Yields.mapM fun spec _ => term_holds spec ht).bind_pure ?_
    intro vs fs h terms' horder hmem
    obtain rfl := Option.some.inj horder
    obtain ⟨f, hf, _, hholds⟩ := h.exists_of_mem hmem
    have hbody : (Sql.joined ", " (Sql.nonEmpty fs)).Holds t :=
      (hholds rfl).joined ((hholds rfl).mem_nonEmpty hf ht)
    rw [(hbody.visible ht).isEmpty, if_neg Bool.false_ne_true]
    exact hbody.append_left

end Order

/-! ## Tables and joins -/

namespace Table

/-- The text is that of the query of a table. -/
inductive Verbatim : Spec → String → Prop where
  | query {es : List (String × Value)} {query : Value} {t : String}
    (hquery : Value.lookupText rawKey (Spec.textEntries es) = some query)
    (ht : Clause.rawText? query = some t) : Verbatim (.mapping es) t

theorem reference_holds (spec : Spec) (t : String) :
    (reference spec.toValue).Yields fun _ sql => Verbatim spec t → sql.Holds t := by
  intro sql hsql hverbatim
  cases hverbatim with
  | @query es query _ hquery ht =>
    have hholds : (verbatim query (Spec.textEntries es)).Yields fun _ sql => sql.Holds t := by
      rw [verbatim]
      dsimp only
      split
      · refine Clause.rawQuery_yields.bind' fun vs sql hsql => ?_
        have hquery := (hsql.holds ht).append_left (a := Sql.verbatim "(")
        split
        · refine (Draft.yields_gives _).bind_pure fun ws name _ => ?_
          exact hquery.append_right.append_right
        · exact .pure' hquery.append_right
      · exact (Draft.yields_gives _).bind' fun _ _ _ => .fault _ _ _
    have hreference : (reference (.mapping (Spec.textEntries es))).result = .ok sql := hsql
    rw [reference_raw hquery] at hreference
    exact hholds sql hreference

end Table

namespace Join

/-- The text is taken over as it is, in the table of the join or in its condition; a join with
columns to match has no condition. -/
inductive Verbatim (join : Join) (t : String) : Prop where
  | table (h : Table.Verbatim join.table t)
  | condition {spec : Spec} (hpairs : join.pairs = none) (hspec : join.condition = some spec)
    (h : Where.Verbatim spec t)

theorem on_holds (join : Join) {t : String} (ht : Text.isBlank t = false) :
    join.on.Yields fun _ sql => ∀ spec, join.pairs = none → join.condition = some spec →
      Where.Verbatim spec t → sql.Holds t := by
  obtain ⟨type, table, condition, pairs⟩ := join
  rcases pairs with _ | pairs
  · rcases condition with _ | s | es
    · exact fun _ _ _ _ hspec => nomatch hspec
    · refine .pure' fun spec _ hspec hverbatim => ?_
      obtain rfl := Option.some.inj hspec
      cases hverbatim
      exact Sql.holds_verbatim _
    · refine (Where.condition_holds (.mapping es) ht).mono fun vs sql h spec _ hspec => ?_
      obtain rfl := Option.some.inj hspec
      exact h
  · exact fun _ _ _ hpairs => nomatch hpairs

theorem clause_holds (join : Join) {t : String} (ht : Text.isBlank t = false) :
    join.clause.Yields fun _ sql => join.Verbatim t → sql.Holds t := by
  refine (Table.reference_holds join.table t).bind' fun vs table htable => ?_
  refine (on_holds join ht).bind' fun ws condition hcondition => ?_
  split
  · exact .fault _ _ _
  · refine .pure' fun hverbatim => ?_
    cases hverbatim with
    | table h => exact (htable h).append_left.append_right.append_right
    | condition hpairs hspec h => exact (hcondition _ hpairs hspec h).append_left

end Join

end ParamSql
