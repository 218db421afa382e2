import ParamSql.Clause.Assignment
import ParamSql.Clause.Join
import ParamSql.Proofs.Clause.Order
import ParamSql.Proofs.Clause.Table
import ParamSql.Proofs.Clause.Where
import ParamSql.Proofs.Sql.Run

/-!
The clauses are drafted in order.

Every clause has its parameters in its text in the order in which their values are bound, whatever
is nested in it and whatever is left out. So a clause that is run on a context gives the
placeholders that `Sql.write` fills into its account.
-/

namespace ParamSql

open Draft

/-! ## What the clauses have in common -/

namespace Clause

variable {clause : ClauseName} {path : KeyPath} {key value : Value}

theorem operand_bare {isKeyword : String → Bool} : (operand clause isKeyword path key).Bare := by
  rw [operand]
  split
  · split
    · exact .fault _ _ _
    · exact .pure' _
  · exact .fault _ _ _

theorem commaList_bare : (commaList clause path key value).Bare := by
  cases value <;> first | exact .pure' _ | exact .fault _ _ _

/-- A verbatim query has its text alone; the values listed with it have no placeholder of ours. -/
theorem rawQuery_follows (taken : Nat) :
    Follows taken (rawQuery clause path value) (rawQuery clause path value) fun vs a b =>
      a.arity = vs.length ∧ b = a.fill taken ∧ b.text = a.text := by
  cases value with
  | text s => exact .pure' ⟨rfl, rfl, rfl⟩
  | constant c => exact .pure' ⟨rfl, rfl, rfl⟩
  | mapping es =>
    rw [rawQuery]
    split
    · refine (Follows.params _).bind_pure ?_
      rintro _ _ _ ⟨rfl, rfl, rfl⟩
      exact ⟨rfl, rfl, rfl⟩
    · exact .fault _ _ _
  | _ => exact .fault _ _ _

theorem ofSpec_inOrder {walk : List (Value × Value) → Draft (List Sql)} {spec : Value}
    (hwalk : ∀ es, (walk es).InOrderAll) : (ofSpec clause walk path spec).InOrderAll := by
  rw [ofSpec.eq_def]
  split
  · next s _ =>
    split
    · exact .nil
    · exact (InOrder.verbatim s).singleton
  · split
    · exact .nil
    · exact .nil
    · exact hwalk _
    · exact .fault _ _ _

/-- A walk is in order if its operators are and if wrapping changes no parameter. -/
theorem Walk.entries_inOrder {κ : Type} [Keyword κ] {w : Walk κ}
    (hoperator : ∀ path name key value keyword,
      (w.operator path name key value keyword).InOrderAll)
    (hwrapped : ∀ taken vs keyword fs gs, Sql.FillsAll taken vs fs gs →
      Sql.FillsAll taken vs (w.wrapped keyword fs) (w.wrapped keyword gs))
    (path : KeyPath) (es : List (Value × Value)) : (w.entries path es).InOrderAll := by
  induction es using Value.entries_induction generalizing path with
  | nil =>
    rw [entries]
    exact .nil
  | cons key value rest ihvalue ihrest =>
    rw [entries]
    refine InOrderAll.append ?_ (ihrest path)
    cases w.entryCase key value with
    | unset hset =>
      rw [entry_unset hset]
      exact .nil
    | keyNotText hset hkey =>
      rw [entry_keyNotText hset hkey]
      exact .fault _ _ _
    | nested hname hnests hvalue =>
      subst hvalue
      rw [entry_nested hname hnests]
      exact fun taken => (ihvalue _ rfl _ taken).bind_pure fun _ _ _ h => hwrapped _ _ _ _ _ h
    | own hname hown =>
      rw [entry_own hname hown]
      exact hoperator _ _ _ _ _

end Clause

/-! ## Conditions -/

namespace Where

theorem operand_bare {path : KeyPath} {key : Value} : (operand path key).Bare :=
  Clause.operand_bare

theorem operator_inOrder (path : KeyPath) (name : String) (key value : Value) (rule : Rule) :
    (operator path name key value rule).InOrder := by
  cases rule with
  | group joiner => exact .fault _ _ _
  | column => exact (InOrder.param value).map fun h => h.text_append _
  | membership =>
    refine .bare operand_bare fun column => .bare Clause.commaList_bare fun list => ?_
    exact (InOrder.param list).map fun h => ((h.text_append _).text_append _).append_text _
  | nullTest =>
    refine .bare operand_bare fun column => ?_
    split <;> exact .verbatim _
  | substring =>
    refine .bare operand_bare fun column => ?_
    split <;> first
      | exact .fault _ _ _
      | exact (InOrder.param value).map fun h => ((h.text_append _).text_append _).append_text _
  | verbatim =>
    refine .bare operand_bare fun column taken => ?_
    refine (Clause.rawQuery_follows taken).bind_pure ?_
    rintro vs a b ⟨harity, rfl, -⟩
    exact Sql.fills_between _ rfl harity

/-- A group has the parameters of its fragments. -/
theorem grouped_fills {taken : Nat} {vs : List Value} {fs gs : List Sql} (joiner : String)
    (h : Sql.FillsAll taken vs fs gs) :
    Sql.FillsAll taken vs (grouped joiner fs) (grouped joiner gs) := by
  rw [grouped, grouped, h.isEmpty_eq]
  split
  · next hnone =>
    rw [h.eq_nil hnone]
    exact Sql.fillsAll_nil
  · exact Sql.fillsAll_singleton (((h.joined joiner).text_append "(").append_text ")")

theorem wrapped_fills {taken : Nat} {vs : List Value} {fs gs : List Sql}
    (keyword : Option WhereKeyword) (h : Sql.FillsAll taken vs fs gs) :
    Sql.FillsAll taken vs (wrapped keyword fs) (wrapped keyword gs) := by
  rcases keyword with _ | k
  · exact h
  · cases k with
    | conjunction => exact grouped_fills _ h
    | disjunction => exact grouped_fills _ h
    | _ => exact h

theorem entries_inOrder (path : KeyPath) (es : List (Value × Value)) :
    (entries path es).InOrderAll := by
  rw [entries_eq]
  refine walk.entries_inOrder (fun path name key value keyword => ?_)
    (fun _ _ keyword _ _ => wrapped_fills keyword) path es
  exact (operator_inOrder _ _ _ _ _).singleton

theorem fragments_inOrder (path : KeyPath) (spec : Value) : (fragments path spec).InOrderAll :=
  Clause.ofSpec_inOrder (entries_inOrder path)

theorem condition_inOrder (spec : Value) : (condition spec).InOrder :=
  (fragments_inOrder .root spec).joined " AND "

theorem clause_inOrder (spec : Value) : (clause spec).InOrder :=
  (condition_inOrder spec).map fun h => h.headed "WHERE "

end Where

/-! ## Orders -/

namespace Order

theorem operator_inOrder (path : KeyPath) (name : String) (key value : Value) (rule : Rule) :
    (operator path name key value rule).InOrderAll := by
  cases rule with
  | expression =>
    rw [operator]
    split
    · exact (InOrder.verbatim _).singleton
    · exact .fault _ _ _
  | direction =>
    rw [operator]
    split
    · exact (InOrder.verbatim _).singleton
    · exact .fault _ _ _
  | ranking =>
    refine .bare Clause.operand_bare fun column => ?_
    split
    · exact .bare (.log _) fun _ => .nil
    · refine .bare Clause.commaList_bare fun list taken => ?_
      exact (Follows.param list).bind_pure fun _ _ _ h =>
        Sql.fillsAll_singleton
          ((((h.text_append _).append_text _).append_text _).append_text _)
  | column => exact (InOrder.verbatim _).singleton

theorem entries_inOrder (path : KeyPath) (es : List (Value × Value)) :
    (entries path es).InOrderAll := by
  rw [entries_eq]
  exact walk.entries_inOrder (fun _ _ _ _ _ => operator_inOrder _ _ _ _ _)
    (fun _ _ _ _ _ => id) path es

theorem fragments_inOrder (path : KeyPath) (spec : Value) : (fragments path spec).InOrderAll :=
  Clause.ofSpec_inOrder (entries_inOrder path)

theorem plainTerm_inOrder (spec : Value) : (plainTerm spec).InOrder :=
  (fragments_inOrder .root spec).joined " "

theorem term_inOrder (spec : Value) : (term spec).InOrder := by
  cases spec with
  | mapping es =>
    cases hdirection : givenDirection? es with
    | none =>
      rw [term, hdirection]
      exact plainTerm_inOrder _
    | some direction =>
      rw [term_mapping hdirection]
      split
      · exact .fault _ _ _
      · intro taken
        refine .bind' (entries_inOrder _ _ taken) fun vs fs gs h => ?_
        rw [h.isEmpty_eq]
        split
        · next hnone =>
          rw [h.eq_nil hnone]
          exact .pure' Sql.fills_empty
        · exact (entries_inOrder _ _ _).bind_pure fun _ _ _ h' => (h.append h').joined " "
  | _ => exact plainTerm_inOrder _

theorem clause_inOrder (spec : Value) : (clause spec).InOrder := by
  intro taken
  refine (InOrderAll.mapM (fun s _ => term_inOrder s) taken).bind_pure fun vs fs gs h => ?_
  exact (h.nonEmpty.joined ", ").headed "ORDER BY "

end Order

/-! ## Tables and joins -/

namespace Table

theorem nameOf_bare (value : Value) : (nameOf value).Bare := by
  rw [nameOf]
  split
  · exact .pure' _
  · exact .fail _

theorem sortedKeys_bare (keys : List Value) : (sortedKeys keys).Bare := by
  rw [sortedKeys]
  split
  · exact .pure' _
  · exact .fail _

/-- A table has no placeholder, so its text is the same in a run and in the account. -/
def FillsText (taken : Nat) (vs : List Value) (a b : Sql) : Prop :=
  Sql.Fills taken vs a b ∧ b.text = a.text

theorem verbatim_follows (query : Value) (es : List (Value × Value)) (taken : Nat) :
    Follows taken (verbatim query es) (verbatim query es) (FillsText taken) := by
  rw [verbatim]
  dsimp only
  split
  · refine .bind' (Clause.rawQuery_follows taken) ?_
    rintro vs a b ⟨harity, rfl, htext⟩
    split
    · refine (nameOf_bare _).follows fun name => .pure_behind ?_
      refine ⟨(Sql.fills_between "(" rfl harity).append_text name, ?_⟩
      simp only [Sql.text_append, htext]
    · refine .pure_behind ⟨Sql.fills_between "(" rfl harity, ?_⟩
      simp only [Sql.text_append, htext]
  · exact (sortedKeys_bare _).follows fun keys => .fault _ _ _

theorem fillsText_verbatim (taken : Nat) (s : String) :
    FillsText taken [] (.verbatim s) (.verbatim s) :=
  ⟨Sql.fills_verbatim s, rfl⟩

theorem mapping_follows (es : List (Value × Value)) (taken : Nat) :
    Follows taken (reference (.mapping es)) (reference (.mapping es)) (FillsText taken) := by
  cases hraw : Value.lookupText rawKey es with
  | some query =>
    rw [reference_raw hraw]
    exact verbatim_follows query es taken
  | none =>
    rcases es with _ | ⟨⟨name, table⟩, _ | ⟨e, rest⟩⟩
    · rw [reference_ambiguous hraw (by simp)]
      exact (sortedKeys_bare _).follows fun keys => .fault _ _ _
    · rw [reference_alias hraw, aliased]
      split
      · exact (nameOf_bare _).follows fun label => .pure' (fillsText_verbatim taken _)
      · exact .fault _ _ _
    · rw [reference_ambiguous hraw (by simp)]
      exact (sortedKeys_bare _).follows fun keys => .fault _ _ _

theorem name_follows (s : String) (taken : Nat) :
    let name : Draft Sql :=
      if Text.isBlank s then .fault .from .blankTable []
      else pure (.verbatim (Identifier.snake s))
    Follows taken name name (FillsText taken) := by
  intro name
  dsimp only [name]
  split
  · exact .fault _ _ _
  · exact .pure' (fillsText_verbatim taken _)

theorem reference_follows (spec : Value) (taken : Nat) :
    Follows taken (reference spec) (reference spec) (FillsText taken) := by
  cases spec with
  | text s => exact name_follows s taken
  | constant c => exact name_follows c.text taken
  | mapping es => exact mapping_follows es taken
  | _ => exact .fault _ _ _

theorem reference_inOrder (spec : Value) : (reference spec).InOrder :=
  fun taken => (reference_follows spec taken).mono fun _ _ _ h => h.1

end Table

namespace Join

theorem matching_fills (taken : Nat) (pairs : List (String × String)) :
    Sql.Fills taken [] (matching pairs) (matching pairs) := by
  refine Sql.FillsAll.joined ?_ " AND "
  induction pairs with
  | nil => exact Sql.fillsAll_nil
  | cons p rest ih =>
    have hpair : Sql.Fills taken [] _ _ :=
      ((Sql.fills_verbatim (Identifier.snake p.1)).append_text "::TEXT = ").append_text
        (Identifier.snake p.2) |>.append_text "::TEXT"
    exact .cons hpair ih

theorem on_inOrder (join : Join) : join.on.InOrder := by
  rw [on]
  split
  · exact fun taken => .pure' (matching_fills taken _)
  · exact .verbatim _
  · exact Where.condition_inOrder _
  · exact Where.condition_inOrder _

theorem clause_inOrder (join : Join) : join.clause.InOrder := by
  intro taken
  refine .bind' (Table.reference_follows _ taken) fun vs table table' htable => ?_
  refine .bind' (on_inOrder join _) fun ws condition condition' hcondition => ?_
  have hblank : condition'.isBlankBy Text.isBlank = condition.isBlankBy Text.isBlank := by
    rw [hcondition.filled, Sql.isBlankBy_fill Sql.isBlank_placeholder]
  rw [hblank, htable.2]
  split
  · exact .fault _ _ _
  · refine .pure' ?_
    rw [List.append_nil]
    exact ((htable.1.text_append _).append_text _).append hcondition

end Join

/-! ## Assignments -/

namespace Assignment

theorem given_bare (values : Value) : (given values).Bare := by
  cases values <;> first | exact .pure' _ | exact .fail _

theorem values_inOrder (mapping : Value) : (values mapping).InOrder := by
  refine .bare (given_bare mapping) fun es => ?_
  split
  · exact .verbatim _
  · refine .bare (.mapM (fun e => Table.nameOf_bare e.1) es) fun columns taken => ?_
    refine (InOrderAll.mapM (fun e _ => .param e.2) taken).bind_pure fun _ _ _ h => ?_
    exact ((h.joined ", ").text_append _).append_text _

theorem set_inOrder (mapping : Value) : (set mapping).InOrder := by
  refine .bare (given_bare mapping) fun es => ?_
  split
  · exact .fault _ _ _
  · intro taken
    refine (InOrderAll.mapM (fun e _ => ?_) taken).bind_pure fun _ _ _ h =>
      (h.joined ", ").text_append _
    refine .bare (Table.nameOf_bare e.1) fun column => ?_
    exact (InOrder.param e.2).map fun h => h.text_append _

end Assignment

end ParamSql
