import ParamSql.Proofs.Clause.Assignment
import ParamSql.Proofs.Clause.Join
import ParamSql.Proofs.Clause.Order
import ParamSql.Proofs.Schema.Prune

/-!
Clauses are compiled as if what is `unset` were left out.

`Draft.Alike x y` says that two drafts bind the same values, log the same, and have the same result
or fail alike: with the same kind of error at the same place. A specification and the pruned
specification compile alike.
-/

namespace ParamSql

/-! ## Drafts that come to the same -/

/-- Errors of the same kind, with the same issues or at the same place in the same clause. -/
inductive Error.Alike : Error → Error → Prop where
  | same (e : Error) : Alike e e
  | invalidSchema (schema : SchemaName) (issues : List Issue) (raw raw' : Value) :
    Alike (.invalidSchema schema issues raw) (.invalidSchema schema issues raw')
  | clause (name : ClauseName) (fault fault' : ClauseFault) (path : List String) :
    Alike (.clause name fault path) (.clause name fault' path)

inductive ResultsAlike {α : Type} : Except Error α → Except Error α → Prop where
  | ok (a : α) : ResultsAlike (.ok a) (.ok a)
  | error {e e' : Error} (h : e.Alike e') : ResultsAlike (.error e) (.error e')

theorem ResultsAlike.refl {α : Type} (x : Except Error α) : ResultsAlike x x := by
  cases x with
  | ok a => exact .ok a
  | error e => exact .error (.same e)

namespace Draft

variable {α β : Type}

/-- The drafts bind the same values, log the same, and have the same result or fail alike. -/
structure Alike (x y : Draft α) : Prop where
  bound : x.bound = y.bound
  notes : x.notes = y.notes
  result : ResultsAlike x.result y.result

namespace Alike

variable {x y : Draft α} {f g : α → Draft β}

theorem refl (x : Draft α) : Alike x x :=
  ⟨rfl, rfl, .refl _⟩

theorem fault (clause : ClauseName) (cause cause' : ClauseFault) (path : List String) :
    Alike (Draft.fault clause cause path : Draft α) (Draft.fault clause cause' path) :=
  ⟨rfl, rfl, .error (.clause _ _ _ _)⟩

/-- After a success of both, the second drafts have to be alike. -/
theorem bind_of_ok {a : α} (hxy : Alike x y) (h : y.result = .ok a) (hfg : Alike (f a) (g a)) :
    Alike (x >>= f) (y >>= g) := by
  obtain ⟨hbound, hnotes, hresult⟩ := hxy
  rw [h] at hresult
  generalize hx : x.result = r at hresult
  cases hresult with
  | ok _ =>
    obtain ⟨hxresult, hxbound, hxnotes⟩ := Draft.bind_of_ok (f := f) hx
    obtain ⟨hyresult, hybound, hynotes⟩ := Draft.bind_of_ok (f := g) h
    obtain ⟨hbound', hnotes', hresult'⟩ := hfg
    refine ⟨?_, ?_, ?_⟩
    · rw [hxbound, hybound, hbound, hbound']
    · rw [hxnotes, hynotes, hnotes, hnotes']
    · rwa [hxresult, hyresult]

/-- An error ends both. -/
theorem bind_of_error {e : Error} (hxy : Alike x y) (h : y.result = .error e) :
    Alike (x >>= f) (y >>= g) := by
  obtain ⟨hbound, hnotes, hresult⟩ := hxy
  rw [h] at hresult
  generalize hx : x.result = r at hresult
  cases hresult with
  | error halike =>
    obtain ⟨hxresult, hxbound, hxnotes⟩ := Draft.bind_of_error (f := f) hx
    obtain ⟨hyresult, hybound, hynotes⟩ := Draft.bind_of_error (f := g) h
    refine ⟨?_, ?_, ?_⟩
    · rw [hxbound, hybound, hbound]
    · rw [hxnotes, hynotes, hnotes]
    · rw [hxresult, hyresult]
      exact .error halike

theorem bind' (hxy : Alike x y) (hfg : ∀ a, Alike (f a) (g a)) : Alike (x >>= f) (y >>= g) := by
  cases h : y.result with
  | ok a => exact hxy.bind_of_ok h (hfg a)
  | error e => exact hxy.bind_of_error h

/-- The same steps after drafts that are alike. -/
theorem bind_left (hxy : Alike x y) (f : α → Draft β) : Alike (x >>= f) (y >>= f) :=
  bind' hxy fun a => refl (f a)

/-- Steps that are alike after the same draft. -/
theorem bind_right (x : Draft α) (hfg : ∀ a, Alike (f a) (g a)) : Alike (x >>= f) (x >>= g) :=
  bind' (refl x) hfg

theorem mapM {γ : Type} {f : α → Draft γ} {g : β → Draft γ} {as : List α} {bs : List β}
    (h : List.Forall₂ (fun a b => Alike (f a) (g b)) as bs) : Alike (as.mapM f) (bs.mapM g) := by
  induction h with
  | nil => exact refl _
  | cons hab _ ih =>
    rw [List.mapM_cons, List.mapM_cons]
    exact bind' hab fun c => bind_left ih fun cs => pure (c :: cs)

end Alike

end Draft

/-! ## Verbatim queries -/

namespace FieldName

variable {α : Type} {check : Check α}

theorem given?_pruneEntries (key : String) (es : List (Value × Value)) :
    (FieldName.mk key none).given? (Value.dropUnset (Value.pruneEntries es)) =
      (FieldName.mk key none).given? (Value.dropUnset es) := by
  rw [given?, given?, Value.lookupText_dropUnset_pruneEntries]
  cases Value.lookupText key (Value.dropUnset es) <;> rfl

theorem find?_pruneEntries (key : String) (es : List (Value × Value)) :
    (FieldName.mk key none).find? (Value.dropUnset (Value.pruneEntries es)) =
      ((FieldName.mk key none).find? (Value.dropUnset es)).map fun e => (e.1, e.2.prune) := by
  rw [find?_of_key, find?_of_key, Value.lookupText_dropUnset_pruneEntries, Option.map_map,
    Option.map_map]
  rfl

/-- A field is read as before where its check takes no notice of what pruning leaves out. -/
theorem required_pruneEntries (hcheck : ∀ v, check v.prune = check v) (key : String)
    (es : List (Value × Value)) :
    (FieldName.mk key none).required check (Value.dropUnset (Value.pruneEntries es)) =
      (FieldName.mk key none).required check (Value.dropUnset es) := by
  rw [required, required, find?_pruneEntries]
  cases (FieldName.mk key none).find? (Value.dropUnset es) with
  | none => rfl
  | some e => exact congrArg (Checked.under (.key e.1)) (hcheck e.2)

theorem optional_pruneEntries (hcheck : ∀ v, check v.prune = check v) (key : String) (fallback : α)
    (es : List (Value × Value)) :
    (FieldName.mk key none).optional fallback check (Value.dropUnset (Value.pruneEntries es)) =
      (FieldName.mk key none).optional fallback check (Value.dropUnset es) := by
  rw [optional, optional, find?_pruneEntries]
  cases (FieldName.mk key none).find? (Value.dropUnset es) with
  | none => rfl
  | some e => exact congrArg (Checked.under (.key e.1)) (hcheck e.2)

end FieldName

theorem Check.text_prune (v : Value) : text v.prune = text v := by
  rcases v.prune_cases with ⟨es, rfl, hprune⟩ | ⟨-, hprune⟩
  · rw [hprune]
    rfl
  · rw [hprune]

theorem Check.listOf_prune {α : Type} (check : Check α) (v : Value) :
    listOf check v.prune = listOf check v := by
  rcases v.prune_cases with ⟨es, rfl, hprune⟩ | ⟨-, hprune⟩
  · rw [hprune]
    rfl
  · rw [hprune]

/-- No field of a verbatim query holds a mapping, so pruning one changes nothing. -/
theorem RawQuery.check_prune (es : List (Value × Value)) :
    check (.mapping (Value.pruneEntries es)) = check (.mapping es) := by
  have hunknown : Check.unknownKeys ["query", "values"]
      (Value.dropUnset (Value.pruneEntries es)) =
        Check.unknownKeys ["query", "values"] (Value.dropUnset es) := by
    simp only [Check.unknownKeys, List.filterMap_cons, FieldName.given?_pruneEntries,
      List.filterMap_nil]
    rw [Value.dropUnset_pruneEntries, Value.pruneEntries_eq, List.flatMap_map]
  rw [check, Check.schema, Check.schema, hunknown,
    FieldName.required_pruneEntries Check.text_prune,
    FieldName.optional_pruneEntries (Check.listOf_prune _)]

namespace Clause

variable {clause : ClauseName} {path : KeyPath} {key : Value}

theorem rawQuery_prune (clause : ClauseName) (path : KeyPath) (value : Value) :
    rawQuery clause path value.prune = rawQuery clause path value := by
  rcases value.prune_cases with ⟨es, rfl, hprune⟩ | ⟨-, hprune⟩
  · rw [hprune, rawQuery, rawQuery, RawQuery.check_prune]
  · rw [hprune]

/-! ## Specifications -/

theorem Walk.entries_prune {κ : Type} [Keyword κ] {w : Walk κ}
    (h : ∀ path name key es keyword, w.nests keyword = false →
      (w.operator path name key (.mapping es) keyword).Alike
        (w.operator path name key (.mapping (Value.pruneEntries es)) keyword))
    (path : KeyPath) (es : List (Value × Value)) :
    (w.entries path es).Alike (w.entries path (Value.pruneEntries es)) := by
  -- The induction takes the mapping below the first key and the rest of the entries.
  induction es using Value.entries_induction generalizing path with
  | nil =>
    rw [Value.pruneEntries]
    exact .refl _
  | cons key value rest ihvalue ihrest =>
    cases hset : value.isUnset with
    | true =>
      rw [Value.pruneEntries_cons, if_pos hset, entries, entry_unset hset, pure_bind]
      dsimp only [List.nil_append]
      rw [bind_pure]
      exact ihrest path
    | false =>
      have hentry : (w.entry path key value).Alike (w.entry path key value.prune) := by
        rcases value.prune_cases with ⟨es, rfl, hprune⟩ | ⟨-, hprune⟩
        · rw [hprune]
          cases hname : key.text? with
          | none =>
            rw [entry_keyNotText rfl hname, entry_keyNotText rfl hname]
            exact .refl _
          | some name =>
            cases hnests : w.nests (key.keyword? κ) with
            | true =>
              rw [entry_nested hname hnests, entry_nested hname hnests]
              exact (ihvalue es rfl _).bind_left _
            | false =>
              rw [entry_own hname ⟨rfl, fun _ _ => hnests⟩,
                entry_own hname ⟨rfl, fun _ _ => hnests⟩]
              exact h _ _ _ _ _ hnests
        · rw [hprune]
          exact .refl _
      rw [Value.pruneEntries_cons, hset, if_neg Bool.false_ne_true, entries, entries]
      exact hentry.bind' fun here => (ihrest path).bind_left _

theorem ofSpec_prune {walk : List (Value × Value) → Draft (List Sql)}
    (hwalk : ∀ es, (walk es).Alike (walk (Value.pruneEntries es))) (spec : Value) :
    (ofSpec clause walk path spec).Alike (ofSpec clause walk path spec.prune) := by
  rcases spec.prune_cases with ⟨es, rfl, hprune⟩ | ⟨-, hprune⟩
  · rw [hprune]
    exact hwalk es
  · rw [hprune]
    exact .refl _

end Clause

/-- Nothing is left out of a specification that is not given. -/
theorem optionValue_pruned {spec spec' : Option Spec} (h : Option.Rel Spec.Pruned spec spec') :
    optionValue Spec.toValue spec' = (optionValue Spec.toValue spec).prune := by
  cases h with
  | none => rw [optionValue, Value.prune.eq_def]
  | some h => exact h.toValue

/-! ## Conditions -/

namespace Where

/-- Only the operators that do not look into a mapping are left with one. -/
theorem operator_prune (path : KeyPath) (name : String) (key : Value) (es : List (Value × Value))
    {keyword : Option WhereKeyword} (h : nests keyword = false) :
    (operator path name key (.mapping es) (Rule.of keyword)).Alike
      (operator path name key (.mapping (Value.pruneEntries es)) (Rule.of keyword)) := by
  rcases keyword with _ | k
  · cases h
  cases k with
  | conjunction => cases h
  | disjunction => cases h
  | membership => exact .bind_right _ fun column => .bind_left (.fault _ _ _ _) _
  | nullTest => exact .refl _
  | substring => exact .refl _
  | verbatim =>
    refine .bind_right _ fun column => ?_
    have hquery := Clause.rawQuery_prune .where path (.mapping es)
    rw [Value.prune] at hquery
    rw [hquery]
    exact .refl _

theorem condition_prune (spec : Value) : (condition spec).Alike (condition spec.prune) := by
  refine .bind_left (Clause.ofSpec_prune (fun es => ?_) spec) _
  rw [entries_eq, entries_eq]
  refine walk.entries_prune (fun path name key es keyword hnests => ?_) _ es
  exact (operator_prune path name key es hnests).bind_left _

theorem clause_pruned {spec spec' : Option Spec} (h : Option.Rel Spec.Pruned spec spec') :
    (clause (optionValue Spec.toValue spec)).Alike (clause (optionValue Spec.toValue spec')) := by
  rw [optionValue_pruned h]
  exact (condition_prune _).bind_left _

end Where

/-! ## Orders -/

namespace Order

theorem operator_prune (path : KeyPath) (name : String) (key : Value) (es : List (Value × Value))
    {keyword : Option OrderKeyword} (h : nests keyword = false) :
    (operator path name key (.mapping es) (Rule.of keyword)).Alike
      (operator path name key (.mapping (Value.pruneEntries es)) (Rule.of keyword)) := by
  rcases keyword with _ | k
  · cases h
  cases k with
  | expression => cases h
  | direction => exact .fault _ _ _ _
  | ranking => exact .bind_right _ fun column => .bind_left (.fault _ _ _ _) _

theorem entries_prune (path : KeyPath) (es : List (Value × Value)) :
    (entries path es).Alike (entries path (Value.pruneEntries es)) := by
  rw [entries_eq, entries_eq]
  exact walk.entries_prune
    (fun path name key es keyword hnests => operator_prune path name key es hnests) path es

theorem plainTerm_prune (spec : Value) : (plainTerm spec).Alike (plainTerm spec.prune) :=
  .bind_left (Clause.ofSpec_prune (entries_prune .root) spec) _

theorem givenDirection?_prune {es : List (Value × Value)} (h : Value.ByName es) :
    givenDirection? (Value.pruneEntries es) = (givenDirection? es).map Value.prune := by
  rw [givenDirection?, givenDirection?, Value.lookupText_pruneEntries h]
  cases Value.lookupText OrderKeyword.direction.text es with
  | none => rfl
  | some v =>
    rw [Option.filter_some]
    cases hset : v.isUnset with
    | true => rfl
    | false =>
      rw [Bool.not_false, if_pos rfl, Option.map_some, Option.filter_some, Value.isUnset_prune,
        hset, Bool.not_false, if_pos rfl]

theorem withoutDirection_prune (es : List (Value × Value)) :
    withoutDirection (Value.pruneEntries es) = Value.pruneEntries (withoutDirection es) := by
  rw [withoutDirection, withoutDirection, Value.pruneEntries_dropUnset,
    Value.pruneEntries_filter (fun key => key.text? != some OrderKeyword.direction.text)]
  exact Value.dropUnset_of_given fun e he =>
    Value.isUnset_of_mem_pruneEntries (List.mem_filter.1 he).1

theorem isEmpty_prune_withoutDirection (es : List (Value × Value)) :
    (Value.pruneEntries (withoutDirection es)).isEmpty = (withoutDirection es).isEmpty := by
  rw [Value.pruneEntries_eq, withoutDirection, Value.dropUnset_dropUnset, List.isEmpty_map]

theorem direction_prune {direction : Value} (h : direction.isUnset = false) :
    Value.pruneEntries [(.text OrderKeyword.direction.text, direction)] =
      [(.text OrderKeyword.direction.text, direction.prune)] := by
  rw [Value.pruneEntries_cons, h, if_neg Bool.false_ne_true, Value.pruneEntries]

theorem term_mapping_prune {es : List (Value × Value)} (h : Value.ByName es) :
    (term (.mapping es)).Alike (term (.mapping (Value.pruneEntries es))) := by
  rw [term, term, givenDirection?_prune h]
  cases hdirection : givenDirection? es with
  | none =>
    have hplain := plainTerm_prune (.mapping es)
    rwa [Value.prune] at hplain
  | some direction =>
    have hset : direction.isUnset = false := by
      have hgiven := (Option.filter_eq_some_iff.1 hdirection).2
      simpa using hgiven
    dsimp only [Option.map_some]
    rw [withoutDirection_prune, isEmpty_prune_withoutDirection]
    split
    · exact .refl _
    · refine (entries_prune _ _).bind' fun expression => ?_
      split
      · exact .refl _
      · have hlast := entries_prune .root [(.text OrderKeyword.direction.text, direction)]
        rw [direction_prune hset] at hlast
        exact hlast.bind_left _

theorem term_pruned {spec spec' : Spec} (h : Spec.Pruned spec spec') :
    (term spec.toValue).Alike (term spec'.toValue) := by
  rw [h.toValue]
  rcases spec.toValue.prune_cases with ⟨es, hes, hprune⟩ | ⟨-, hprune⟩
  · rw [hprune, hes]
    exact term_mapping_prune (h.byName es hes)
  · rw [hprune]
    exact .refl _

theorem clause_pruned {order order' : Option (OneOrMany Spec)}
    (h : Option.Rel (OneOrMany.Related Spec.Pruned) order order') :
    (clause (optionValue (OneOrMany.toValue Spec.toValue) order)).Alike
      (clause (optionValue (OneOrMany.toValue Spec.toValue) order')) := by
  cases h with
  | none => exact .refl _
  | some h =>
    rw [clause, clause, specs_toValue, specs_toValue, List.mapM_map, List.mapM_map, given, given,
      List.mapM_map, List.mapM_map]
    exact .bind_left (.mapM (h.toList.imp fun _ _ => term_pruned)) _

end Order

/-! ## Joins -/

namespace Join

theorem on_pruned {join join' : Join} (h : join.Pruned join') : join.on.Alike join'.on := by
  obtain ⟨type, table, condition, pairs⟩ := join
  obtain ⟨type', table', condition', pairs'⟩ := join'
  obtain ⟨-, -, hcondition, rfl⟩ := h
  rcases pairs with _ | pairs
  · cases hcondition with
    | none => exact .refl _
    | some h =>
      rcases h.text_or_mapping with ⟨s, rfl, rfl⟩ | ⟨es, es', rfl, rfl⟩
      · exact .refl _
      · show (Where.condition (Spec.mapping es).toValue).Alike
          (Where.condition (Spec.mapping es').toValue)
        rw [h.toValue]
        exact Where.condition_prune _
  · exact .refl _

theorem clause_pruned {join join' : Join} (h : join.Pruned join') :
    join.clause.Alike join'.clause := by
  rw [clause, clause, h.table, h.type]
  exact .bind_right _ fun table => (on_pruned h).bind_left _

end Join

/-! ## Assignments -/

/-- An INSERT writes what is given, and nothing else. -/
theorem Assignment.values_dropUnset (es : List (String × Value)) :
    values (Spec.mapping (Value.dropUnset es)).toValue = values (Spec.mapping es).toValue := by
  rw [values, values, given_toValue, given_toValue, Value.dropUnset_dropUnset]

/-- So does an UPDATE. -/
theorem Assignment.set_dropUnset (es : List (String × Value)) :
    set (Spec.mapping (Value.dropUnset es)).toValue = set (Spec.mapping es).toValue := by
  rw [set, set, given_toValue, given_toValue, Value.dropUnset_dropUnset]

end ParamSql
