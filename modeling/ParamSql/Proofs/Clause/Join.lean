import ParamSql.Clause.Join
import ParamSql.Proofs.Clause.Table
import ParamSql.Proofs.Clause.Where

/-!
What a join compiles to.

A join binds the values of its table before those of its condition, the order in which both stand in
its text. Columns to match bind nothing.
-/

namespace ParamSql.Join

/-- The leaves of a join: those of its table, then those of its condition. -/
def leaves (join : Join) : List Value :=
  Table.leaves join.table ++
    match join.pairs with
    | some _ => []
    | none => Where.specLeaves join.condition

/-- No name in the join has a dollar sign, and its table and its condition are plain. -/
structure Plain (join : Join) : Prop where
  table : Table.Plain join.table
  condition : Where.PlainSpec join.condition
  pairs : ∀ pairs, join.pairs = some pairs → ∀ p ∈ pairs, DollarFree p.1 ∧ DollarFree p.2

/-- Joins that are equal but for the values of their tables and of their conditions. -/
structure SameShape (join join' : Join) : Prop where
  type : join.type = join'.type
  table : Table.SameShape join.table join'.table
  condition : Where.SpecShape join.condition join'.condition
  pairs : join.pairs = join'.pairs

theorem numbered_matching {pairs : List (String × String)}
    (h : ∀ p ∈ pairs, DollarFree p.1 ∧ DollarFree p.2) : (matching pairs).Numbered 0 := by
  have hnone : Sql.NumberedAll (pairs.length * 0) _ := Sql.numberedAll_map fun p hp =>
    Dialect.numbered_textEquals (Sql.numbered_verbatim (Identifier.dollarFree_snake (h p hp).1))
      (Sql.numbered_verbatim (Identifier.dollarFree_snake (h p hp).2))
  exact hnone.joined (by decide)

theorem on_binds (join : Join) :
    join.on.Yields (Binds (match join.pairs with
      | some _ => []
      | none => Where.specLeaves join.condition) join.Plain) := by
  obtain ⟨type, table, condition, pairs⟩ := join
  rcases pairs with _ | pairs
  · rcases condition with _ | s | es
    · exact (Where.condition_binds none).mono fun _ _ h => h.imp Plain.condition
    · exact .pure' ⟨rfl, fun hplain => Sql.numbered_verbatim hplain.condition⟩
    · exact (Where.condition_binds (some (.mapping es))).mono fun _ _ h => h.imp Plain.condition
  · exact .pure' ⟨rfl, fun hplain => numbered_matching (hplain.pairs pairs rfl)⟩

theorem clause_binds (join : Join) : join.clause.Yields (Binds join.leaves join.Plain) := by
  refine (Table.reference_binds join.table).bind' fun vs table htable => ?_
  refine (on_binds join).bind' fun ws condition hcondition => ?_
  split
  · exact .fault _ _ _
  · refine .pure' ⟨?_, fun hplain => ?_⟩
    · rw [List.append_nil, htable.values, hcondition.values]
      rfl
    · rw [List.append_nil, List.length_append]
      have htype := join.type.dollarFree_text.append (t := " JOIN ") (by decide)
      exact ((htable.numbered hplain.table).text_append htype).append_stop (by decide)
        (hcondition.numbered hplain)

theorem on_agree {join join' : Join} (h : join.SameShape join') :
    Draft.Agree Eq join.on join'.on := by
  obtain ⟨type, table, condition, pairs⟩ := join
  obtain ⟨type', table', condition', pairs'⟩ := join'
  obtain ⟨-, -, hcondition, rfl⟩ := h
  rcases pairs with _ | pairs
  · cases hcondition with
    | none => exact .refl _
    | text s => exact .refl _
    | mapping h => exact Where.condition_agree (.mapping h)
  · exact .refl _

theorem clause_agree {join join' : Join} (h : join.SameShape join') :
    Draft.Agree Eq join.clause join'.clause := by
  refine .bind_eq (Table.reference_agree h.table) fun table => ?_
  refine .bind_eq (on_agree h) fun condition => ?_
  rw [h.type]
  exact .refl _

end ParamSql.Join
