import ParamSql.Proofs.Clause.Assignment
import ParamSql.Proofs.Clause.Join
import ParamSql.Proofs.Clause.Order
import ParamSql.Statement

/-!
What a statement compiles to.

A statement binds the leaves of its clauses in the order in which the clauses stand in its text. A
plain one is numbered, and two of the same shape become the same text.
-/

namespace ParamSql

theorem dollarFree_nameList {names : List String} (h : ∀ name ∈ names, DollarFree name) :
    DollarFree (nameList names) := by
  refine .intercalate (by decide) fun name hname => ?_
  obtain ⟨source, hsource, rfl⟩ := List.mem_map.1 hname
  exact Identifier.dollarFree_snake (h source hsource)

def countLeaves : Option Nat → List Value
  | none => []
  | some n => [.int n]

theorem counted_binds {keyword : String} (hkeyword : DollarFree keyword) (count : Option Nat) :
    (counted keyword count).Yields (Binds (countLeaves count) True) := by
  rcases count with _ | n
  · exact .pure' ⟨rfl, fun _ => Sql.numbered_empty⟩
  · exact .bind_param (.pure' ⟨rfl, fun _ => Sql.numbered_hole.text_append hkeyword⟩)

theorem counted_agree (keyword : String) {count count' : Option Nat}
    (h : count.isSome = count'.isSome) :
    Draft.Agree Eq (counted keyword count) (counted keyword count') := by
  cases count <;> cases count'
  · exact .refl _
  · cases h
  · cases h
  · exact .bind_eq (.param _ _) fun _ => .refl _

/-! ## SELECT -/

namespace Select

/-- The leaves of a SELECT: those of its table, its joins, its condition and its order, then the
limit and the offset. -/
def leaves (s : Select) : List Value :=
  Table.leaves s.table ++ s.joins.flatMap Join.leaves ++ Where.specLeaves s.condition ++
    (Order.given s.order).flatMap Order.specLeaves ++ countLeaves s.limit ++ countLeaves s.offset

/-- No column of a SELECT has a dollar sign, and its clauses are plain. -/
structure Plain (s : Select) : Prop where
  columns : ∀ column ∈ s.columns.toList, DollarFree column
  table : Table.Plain s.table
  joins : ∀ join ∈ s.joins, join.Plain
  condition : Where.PlainSpec s.condition
  order : ∀ term ∈ Order.given s.order, Order.PlainSpec term

/-- The same columns, clauses of the same shape, and a limit and an offset in both or in neither. -/
structure SameShape (s s' : Select) : Prop where
  columns : s.columns = s'.columns
  table : Table.SameShape s.table s'.table
  joins : List.Forall₂ Join.SameShape s.joins s'.joins
  condition : Where.SpecShape s.condition s'.condition
  order : List.Forall₂ Order.SpecShape (Order.given s.order) (Order.given s'.order)
  limit : s.limit.isSome = s'.limit.isSome
  offset : s.offset.isSome = s'.offset.isSome

theorem draft_binds (s : Select) : s.draft.Yields (Binds s.leaves s.Plain) := by
  rw [draft]
  dsimp only
  split
  · exact .fault _ _ _
  · refine (Table.reference_binds s.table).bind' fun vs table htable => ?_
    refine (Draft.Yields.mapM fun join _ => Join.clause_binds join).bind' fun ws joins h => ?_
    have hjoins := h.bindsAll
    refine (Where.clause_binds s.condition).bind' fun us condition hcondition => ?_
    refine (Order.clause_binds s.order).bind' fun os order horder => ?_
    refine (counted_binds (by decide) s.limit).bind' fun ls limit hlimit => ?_
    refine (counted_binds (by decide) s.offset).bind_pure fun fs offset hoffset => ⟨?_, ?_⟩
    · rw [htable.values, hjoins.values, hcondition.values, horder.values, hlimit.values,
        hoffset.values, leaves]
      simp only [List.append_assoc]
    · intro hplain
      have hcolumns : DollarFree ("SELECT " ++ nameList s.columns.toList) :=
        .append (by decide) (dollarFree_nameList hplain.columns)
      have hfrom := (htable.numbered hplain.table).text_append (s := "FROM ") (by decide)
      have hhead := Sql.NumberedAll.cons (Sql.numbered_verbatim hcolumns)
        (Sql.numberedAll_singleton hfrom)
      have htail := Sql.NumberedAll.cons (hcondition.numbered hplain.condition)
        (.cons (horder.numbered hplain.order)
          (.cons (hlimit.numbered trivial) (Sql.numberedAll_singleton (hoffset.numbered trivial))))
      have hall := ((hhead.append (hjoins.numbered hplain.joins)).append htail).nonEmpty.joined
        (s := " ") (by decide)
      simpa only [List.length_append, Nat.zero_add, Nat.add_zero, Nat.add_assoc] using hall

theorem draft_agree {s s' : Select} (h : s.SameShape s') : Draft.Agree Eq s.draft s'.draft := by
  rw [draft, draft, h.columns]
  dsimp only
  split
  · exact .refl _
  · refine .bind_eq (Table.reference_agree h.table) fun table => ?_
    refine .bind_eq (.mapM (h.joins.imp fun _ _ => Join.clause_agree)) fun joins => ?_
    refine .bind_eq (Where.clause_agree h.condition) fun condition => ?_
    refine .bind_eq (Order.clause_agree h.order) fun order => ?_
    refine .bind_eq (counted_agree _ h.limit) fun limit => ?_
    exact .bind_eq (counted_agree _ h.offset) fun offset => .refl _

end Select

/-! ## INSERT -/

namespace Create

/-- The leaves of an INSERT: the values that are given, in key order. -/
def leaves (c : Create) : List Value :=
  Assignment.leaves c.values

structure Plain (c : Create) : Prop where
  table : DollarFree c.table
  values : Assignment.Plain c.values
  returning : ∀ columns, c.returning = some columns → ∀ column ∈ columns.toList, DollarFree column

/-- The same table and columns, `unset` in the same places. -/
structure SameShape (c c' : Create) : Prop where
  table : c.table = c'.table
  values : Assignment.SameShape c.values c'.values
  returning : c.returning = c'.returning

end Create

def Config.Plain (config : Config) : Prop :=
  ∀ target, config.conflictTarget = some target → DollarFree target

theorem numberedAll_onConflict {config : Config} (h : config.Plain) :
    Sql.NumberedAll 0 (onConflict config) := by
  rw [onConflict]
  split
  · next target htarget =>
    split
    · exact Sql.numberedAll_nil
    · have htext := (DollarFree.append (s := "ON CONFLICT (") (by decide) (h target htarget)).append
        (t := ") DO NOTHING") (by decide)
      exact Sql.numberedAll_singleton (Sql.numbered_verbatim htext)
  · exact Sql.numberedAll_nil

theorem numberedAll_answering {returning : Option (OneOrMany String)}
    (h : ∀ columns, returning = some columns → ∀ column ∈ columns.toList, DollarFree column) :
    Sql.NumberedAll 0 (answering returning) := by
  rw [answering.eq_def]
  split
  · exact Sql.numberedAll_nil
  · exact Sql.numberedAll_nil
  · exact Sql.numberedAll_nil
  · next columns _ _ =>
    have htext := DollarFree.append (s := "RETURNING ") (by decide)
      (dollarFree_nameList (h columns rfl))
    exact Sql.numberedAll_singleton (Sql.numbered_verbatim htext)

theorem Create.draft_binds (config : Config) (c : Create) :
    (c.draft config).Yields (Binds c.leaves (config.Plain ∧ c.Plain)) := by
  refine (Assignment.values_binds c.values).bind_pure fun vs values hvalues => ?_
  refine ⟨hvalues.values, fun ⟨hconfig, hplain⟩ => ?_⟩
  have hinto : DollarFree ("INSERT INTO " ++ Identifier.snake c.table) :=
    .append (by decide) (Identifier.dollarFree_snake hplain.table)
  have hhead := Sql.NumberedAll.cons (Sql.numbered_verbatim hinto)
    (Sql.numberedAll_singleton (hvalues.numbered hplain.values))
  have hall := ((hhead.append (numberedAll_onConflict hconfig)).append
    (numberedAll_answering hplain.returning)).joined (s := " ") (by decide)
  simpa only [Nat.zero_add, Nat.add_zero] using hall

theorem Create.draft_agree (config : Config) {c c' : Create} (h : c.SameShape c') :
    Draft.Agree Eq (c.draft config) (c'.draft config) := by
  rw [draft, draft, h.table, h.returning]
  exact .bind_eq (Assignment.values_agree h.values) fun values => .refl _

/-! ## UPDATE and DELETE -/

theorem restriction_binds (verb : Verb) (table : String) (condition : Option Spec) :
    (restriction verb table condition).Yields
      (Binds (Where.specLeaves condition) (Where.PlainSpec condition)) := by
  refine (Where.clause_binds condition).bind' fun vs clause h => ?_
  split
  · refine .bind_log (.pure' ?_)
    rw [List.append_nil]
    exact h
  · refine .pure' ?_
    rw [List.append_nil]
    exact h

theorem restriction_agree (verb : Verb) (table : String) {condition condition' : Option Spec}
    (h : Where.SpecShape condition condition') :
    Draft.Agree Eq (restriction verb table condition) (restriction verb table condition') :=
  .bind_eq (Where.clause_agree h) fun _ => .refl _

namespace Update

/-- The leaves of an UPDATE: the values that are given, then those of its condition. -/
def leaves (u : Update) : List Value :=
  Assignment.leaves u.assignments ++ Where.specLeaves u.condition

structure Plain (u : Update) : Prop where
  table : DollarFree u.table
  assignments : Assignment.Plain u.assignments
  condition : Where.PlainSpec u.condition

/-- The same table and columns, `unset` in the same places, and conditions of the same shape. -/
structure SameShape (u u' : Update) : Prop where
  table : u.table = u'.table
  assignments : Assignment.SameShape u.assignments u'.assignments
  condition : Where.SpecShape u.condition u'.condition

theorem draft_binds (u : Update) : u.draft.Yields (Binds u.leaves u.Plain) := by
  refine (Assignment.set_binds u.assignments).bind' fun vs assignments hset => ?_
  refine (restriction_binds _ _ u.condition).bind_pure fun ws condition hcondition => ?_
  refine ⟨by rw [hset.values, hcondition.values, leaves], fun hplain => ?_⟩
  have htable : DollarFree ("UPDATE " ++ Identifier.snake u.table) :=
    .append (by decide) (Identifier.dollarFree_snake hplain.table)
  have hall := (Sql.NumberedAll.cons (Sql.numbered_verbatim htable)
    (.cons (hset.numbered hplain.assignments)
      (Sql.numberedAll_singleton (hcondition.numbered hplain.condition)))).nonEmpty.joined
    (s := " ") (by decide)
  simpa only [List.length_append, Nat.zero_add] using hall

theorem draft_agree {u u' : Update} (h : u.SameShape u') : Draft.Agree Eq u.draft u'.draft := by
  rw [draft, draft, h.table]
  refine .bind_eq (Assignment.set_agree h.assignments) fun assignments => ?_
  exact .bind_eq (restriction_agree _ _ h.condition) fun condition => .refl _

end Update

namespace Delete

def leaves (d : Delete) : List Value :=
  Where.specLeaves d.condition

structure Plain (d : Delete) : Prop where
  table : DollarFree d.table
  condition : Where.PlainSpec d.condition

structure SameShape (d d' : Delete) : Prop where
  table : d.table = d'.table
  condition : Where.SpecShape d.condition d'.condition

theorem draft_binds (d : Delete) : d.draft.Yields (Binds d.leaves d.Plain) := by
  refine (restriction_binds _ _ d.condition).bind_pure fun vs condition hcondition => ?_
  refine ⟨hcondition.values, fun hplain => ?_⟩
  have htable : DollarFree ("DELETE FROM " ++ Identifier.snake d.table) :=
    .append (by decide) (Identifier.dollarFree_snake hplain.table)
  have hall := (Sql.NumberedAll.cons (Sql.numbered_verbatim htable)
    (Sql.numberedAll_singleton (hcondition.numbered hplain.condition))).nonEmpty.joined
    (s := " ") (by decide)
  simpa only [Nat.zero_add] using hall

theorem draft_agree {d d' : Delete} (h : d.SameShape d') : Draft.Agree Eq d.draft d'.draft := by
  rw [draft, draft, h.table]
  exact .bind_eq (restriction_agree _ _ h.condition) fun condition => .refl _

end Delete

end ParamSql
