import ParamSql.Proofs.Clause.InOrder
import ParamSql.Statement

/-!
Statements are drafted in order, since their clauses stand in the text in the order in which they
are drafted.
-/

namespace ParamSql

open Draft

theorem counted_inOrder (keyword : String) (count : Option Nat) :
    (counted keyword count).InOrder := by
  cases count with
  | none => exact fun _ => .pure' Sql.fills_empty
  | some n => exact (InOrder.param _).map fun h => h.text_append keyword

theorem Select.draft_inOrder (s : Select) : s.draft.InOrder := by
  rw [draft]
  dsimp only
  split
  · exact .fault _ _ _
  · intro taken
    refine .bind' (Table.reference_inOrder _ taken) fun vs _ _ htable => ?_
    refine .bind' (InOrderAll.mapM (fun join _ => join.clause_inOrder) _) fun ws _ _ hjoins => ?_
    refine .bind' (Where.clause_inOrder _ _) fun us _ _ hcondition => ?_
    refine .bind' (Order.clause_inOrder _ _) fun os _ _ horder => ?_
    refine .bind' (counted_inOrder _ s.limit _) fun ls _ _ hlimit => ?_
    refine (counted_inOrder _ s.offset _).bind_pure fun fs _ _ hoffset => ?_
    have hfrom := htable.text_append "FROM "
    have hhead := Sql.FillsAll.cons (Sql.fills_verbatim ("SELECT " ++ nameList s.columns.toList))
      (Sql.fillsAll_singleton hfrom)
    have htail := Sql.FillsAll.cons hcondition
      (.cons horder (.cons hlimit (Sql.fillsAll_singleton hoffset)))
    rw [List.append_assoc, List.append_assoc]
    exact (hhead.append (hjoins.append htail)).nonEmpty.joined " "

theorem onConflict_fills (config : Config) (taken : Nat) :
    Sql.FillsAll taken [] (onConflict config) (onConflict config) := by
  rw [onConflict]
  split
  · split
    · exact Sql.fillsAll_nil
    · exact Sql.fillsAll_singleton (Sql.fills_verbatim _)
  · exact Sql.fillsAll_nil

theorem answering_fills (returning : Option (OneOrMany String)) (taken : Nat) :
    Sql.FillsAll taken [] (answering returning) (answering returning) := by
  rw [answering.eq_def]
  split
  · exact Sql.fillsAll_nil
  · exact Sql.fillsAll_nil
  · exact Sql.fillsAll_nil
  · exact Sql.fillsAll_singleton (Sql.fills_verbatim _)

theorem Create.draft_inOrder (config : Config) (c : Create) : (c.draft config).InOrder := by
  intro taken
  refine (Assignment.values_inOrder _ taken).bind_pure fun vs _ _ hvalues => ?_
  have hhead := Sql.FillsAll.cons (Sql.fills_verbatim ("INSERT INTO " ++ Identifier.snake c.table))
    (Sql.fillsAll_singleton hvalues)
  have hall := hhead.append ((onConflict_fills config _).append (answering_fills c.returning _))
  rw [List.append_nil, ← List.append_assoc, ← List.append_assoc] at hall
  have hfills := hall.joined " "
  rwa [List.append_nil] at hfills

theorem restriction_inOrder (verb : Verb) (table : String) (condition : Option Spec) :
    (restriction verb table condition).InOrder := by
  intro taken
  refine .bind' (Where.clause_inOrder _ taken) fun vs a b h => ?_
  rw [h.isEmpty_eq]
  split
  · exact (Bare.log _).follows fun _ => .pure_behind h
  · exact .pure_behind h

theorem Update.draft_inOrder (u : Update) : u.draft.InOrder := by
  intro taken
  refine .bind' (Assignment.set_inOrder _ taken) fun vs _ _ hassignments => ?_
  refine (restriction_inOrder _ _ _ _).bind_pure fun ws _ _ hcondition => ?_
  have hall := Sql.FillsAll.cons (Sql.fills_verbatim ("UPDATE " ++ Identifier.snake u.table))
    (.cons hassignments (Sql.fillsAll_singleton hcondition))
  exact hall.nonEmpty.joined " "

theorem Delete.draft_inOrder (d : Delete) : d.draft.InOrder := by
  intro taken
  refine (restriction_inOrder _ _ _ taken).bind_pure fun vs _ _ hcondition => ?_
  have hall := Sql.FillsAll.cons (Sql.fills_verbatim ("DELETE FROM " ++ Identifier.snake d.table))
    (Sql.fillsAll_singleton hcondition)
  exact hall.nonEmpty.joined " "

end ParamSql
