import ParamSql.Proofs.Clause.Verbatim
import ParamSql.Proofs.Statement.Build
import ParamSql.Proofs.Text.Literal

/-!
Quoted literals of verbatim texts in the compiled statement.

The text of a statement is collapsed as a whole, also where it stands in quotes. So the literals of
a verbatim text are found in the compiled statement with their runs of spaces squeezed to one, and
as they were if and only if they have no two spaces side by side (`literals_build`).
-/

namespace ParamSql

/-! ## Statements -/

/-- The text is taken over as it is: a condition or an order given as text, a query below `raw` in a
condition, or the query of a table. -/
inductive Statement.Verbatim : Statement → String → Prop where
  | selectTable {s : Select} {t : String} (h : Table.Verbatim s.table t) : Verbatim (.select s) t
  | selectJoin {s : Select} {join : Join} {t : String} (hjoin : join ∈ s.joins)
    (h : join.Verbatim t) : Verbatim (.select s) t
  | selectCondition {s : Select} {spec : Spec} {t : String} (hspec : s.condition = some spec)
    (h : Where.Verbatim spec t) : Verbatim (.select s) t
  | selectOrder {s : Select} {terms : OneOrMany Spec} {t : String} (hterms : s.order = some terms)
    (h : .text t ∈ terms.toList) : Verbatim (.select s) t
  | updateCondition {u : Update} {spec : Spec} {t : String} (hspec : u.condition = some spec)
    (h : Where.Verbatim spec t) : Verbatim (.update u) t
  | deleteCondition {d : Delete} {spec : Spec} {t : String} (hspec : d.condition = some spec)
    (h : Where.Verbatim spec t) : Verbatim (.delete d) t

theorem Select.draft_holds (s : Select) {t : String} (ht : Text.isBlank t = false) :
    s.draft.Yields fun _ sql => (Statement.select s).Verbatim t → sql.Holds t := by
  rw [draft]
  dsimp only
  split
  · exact .fault _ _ _
  · refine (Table.reference_holds s.table t).bind' fun _ table htable => ?_
    refine (Draft.Yields.mapM fun join _ => join.clause_holds ht).bind' fun _ joins hjoins => ?_
    refine (Where.clause_holds s.condition ht).bind' fun _ condition hcondition => ?_
    refine (Order.clause_holds s.order ht).bind' fun _ order horder => ?_
    refine (Draft.yields_gives _).bind' fun _ limit _ => ?_
    refine (Draft.yields_gives _).bind_pure fun _ offset _ hverbatim => ?_
    -- One of the clauses holds the text, so it is not left out.
    have hclause : ∃ f ∈ [Sql.verbatim ("SELECT " ++ nameList s.columns.toList),
        Sql.verbatim "FROM " ++ table] ++ joins ++ [condition, order, limit, offset],
          f.Holds t := by
      cases hverbatim with
      | selectTable h => exact ⟨Sql.verbatim "FROM " ++ table, by simp, (htable h).append_left⟩
      | selectJoin hjoin h =>
        obtain ⟨f, hf, _, hholds⟩ := hjoins.exists_of_mem hjoin
        exact ⟨f, by simp [hf], hholds h⟩
      | selectCondition hspec h => exact ⟨condition, by simp, hcondition _ hspec h⟩
      | selectOrder hterms h => exact ⟨order, by simp, horder _ hterms h⟩
    obtain ⟨f, hf, hholds⟩ := hclause
    exact hholds.joined (hholds.mem_nonEmpty hf ht)

theorem restriction_holds (verb : Verb) (table : String) (condition : Option Spec) {t : String}
    (ht : Text.isBlank t = false) :
    (restriction verb table condition).Yields fun _ sql =>
      ∀ spec, condition = some spec → Where.Verbatim spec t → sql.Holds t := by
  refine (Where.clause_holds condition ht).bind' fun vs clause hclause => ?_
  split
  · exact .bind_log (.pure' hclause)
  · exact .pure' hclause

theorem Update.draft_holds (u : Update) {t : String} (ht : Text.isBlank t = false) :
    u.draft.Yields fun _ sql => (Statement.update u).Verbatim t → sql.Holds t := by
  refine (Draft.yields_gives _).bind' fun _ assignments _ => ?_
  refine (restriction_holds _ _ u.condition ht).bind_pure fun _ condition h hverbatim => ?_
  cases hverbatim with
  | updateCondition hspec hwhere =>
    have hholds := h _ hspec hwhere
    exact hholds.joined (hholds.mem_nonEmpty (by simp) ht)

theorem Delete.draft_holds (d : Delete) {t : String} (ht : Text.isBlank t = false) :
    d.draft.Yields fun _ sql => (Statement.delete d).Verbatim t → sql.Holds t := by
  refine (restriction_holds _ _ d.condition ht).bind_pure fun _ condition h hverbatim => ?_
  cases hverbatim with
  | deleteCondition hspec hwhere =>
    have hholds := h _ hspec hwhere
    exact hholds.joined (hholds.mem_nonEmpty (by simp) ht)

theorem Statement.draft_holds (config : Config) (s : Statement) {t : String}
    (ht : Text.isBlank t = false) :
    (s.draft config).Yields fun _ sql => s.Verbatim t → sql.Holds t := by
  cases s with
  | select s => exact s.draft_holds ht
  | create c => exact fun _ _ hverbatim => nomatch hverbatim
  | update u => exact u.draft_holds ht
  | delete d => exact d.draft_holds ht

/-! ## Compiled statements -/

theorem Compiled.Members.exists_of_mem {taken : Nat} {drafts : List (Draft Sql)} {vs : List Value}
    {texts : List String} (h : Members taken drafts vs texts) {draft : Draft Sql}
    (hdraft : draft ∈ drafts) :
    ∃ ws sql before, draft.Gives ws sql ∧ Text.collapse (sql.write before) ∈ texts := by
  induction h with
  | nil => cases hdraft
  | @cons taken _ _ vs ws sql texts hgives _ ih =>
    rcases List.mem_cons.1 hdraft with rfl | hrest
    · exact ⟨vs, sql, taken, hgives, List.mem_cons_self⟩
    · obtain ⟨ws', sql', before, hgives', hmem⟩ := ih hrest
      exact ⟨ws', sql', before, hgives', List.mem_cons_of_mem _ hmem⟩

variable {config : Config} {verb : Verb} {schema : Value} {compiled : Compiled}
  {statements : List Statement} {s : Statement} {t : String}

/-- Whatever has no blank at its ends is found in the compiled statement, squeezed. -/
theorem squeeze_isInfix_build (hbuild : (build config verb schema).result = .ok compiled)
    (hread : verb.read schema = .ok statements) (hs : s ∈ statements) (ht : s.Verbatim t)
    {l : List Char} (hfirm : Text.Firm l) (hl : l <:+: t.toList) :
    Text.squeezeSpaces l <:+: compiled.query.toList := by
  have hblank : Text.isBlank t = false := by
    obtain ⟨c, hc, hc'⟩ := hfirm.first
    rw [Text.isBlank, List.all_eq_false]
    exact ⟨c, hl.subset (List.mem_of_head? hc), by simp [hc']⟩
  obtain ⟨statements', texts, hread', hmembers, hcompiled⟩ := build_ok hbuild
  have hquery : compiled.query = ";".intercalate texts := by rw [hcompiled]
  obtain rfl : statements' = statements := Except.ok.inj (hread'.symm.trans hread)
  have hmembers' := (Compiled.members_yields 0 _).of_gives hmembers
  obtain ⟨ws, sql, before, hgives, hmem⟩ := hmembers'.exists_of_mem (List.mem_map_of_mem hs)
  have hholds := (s.draft_holds config hblank).of_gives hgives ht
  rw [hquery]
  exact (hfirm.squeeze_isInfix (hl.trans (hholds.isInfix_write before))).trans
    (Text.isInfix_toList_intercalate hmem)

/-- No two spaces stand side by side in a compiled statement. -/
theorem apart_build (hbuild : (build config verb schema).result = .ok compiled) :
    compiled.query.toList.IsChain (Text.Apart (· == ' ')) :=
  (collapsed_build hbuild).apart

/-- A literal of a verbatim text is found in the compiled statement with its runs of spaces squeezed
to one, and as it was if and only if it has no two spaces side by side. -/
theorem literals_build (hbuild : (build config verb schema).result = .ok compiled)
    (hread : verb.read schema = .ok statements) (hs : s ∈ statements) (ht : s.Verbatim t)
    {l : List Char} (hl : l ∈ Text.literals t) :
    Text.squeezeSpaces l <:+: compiled.query.toList ∧
      (l <:+: compiled.query.toList ↔ l.IsChain (Text.Apart (· == ' '))) := by
  obtain ⟨hfirm, hpart⟩ := Text.firm_of_mem_literals hl
  have hsqueezed := squeeze_isInfix_build hbuild hread hs ht hfirm hpart
  refine ⟨hsqueezed, fun h => List.IsChain.infix (apart_build hbuild) h, fun hapart => ?_⟩
  rwa [Text.squeezeSpaces, Text.squeezeBy_of_isChain hapart] at hsqueezed

def naming (query : String) : Value :=
  .mapping [(.text "from", .text "words"),
    (.text "where", .mapping [(.text "name", .mapping [(.text "raw", .text query)])])]

def namingSelect (query : String) : Select where
  columns := .one "*"
  table := .text "words"
  join := none
  condition := some (.mapping [("name", .mapping [(.text "raw", .text query)])])
  order := none
  limit := none
  offset := none

theorem read_naming (query : String) :
    Verb.read .select (naming query) = .ok [.select (namingSelect query)] := rfl

theorem verbatim_namingSelect (query : String) :
    (Statement.select (namingSelect query)).Verbatim query :=
  .selectCondition rfl (.query (.nested rfl (.here rfl rfl)))

theorem literals_naming :
    "'a b'".toList <:+: "SELECT * FROM words WHERE name = (SELECT 'a b')".toList := by
  have hbuild : (build {} .select (naming "SELECT 'a b'")).result =
      .ok ⟨"SELECT * FROM words WHERE name = (SELECT 'a b')", [], false⟩ := by rfl
  have hliteral : "'a b'".toList ∈ Text.literals "SELECT 'a b'" := by decide
  exact (literals_build hbuild (read_naming _) List.mem_cons_self (verbatim_namingSelect _)
    hliteral).1

/-- A literal with two spaces side by side is not found any more. -/
theorem naming_changed :
    ∃ compiled, (build {} .select (naming "SELECT 'a  b'")).result = .ok compiled ∧
      Verb.read .select (naming "SELECT 'a  b'") = .ok [.select (namingSelect "SELECT 'a  b'")] ∧
      (Statement.select (namingSelect "SELECT 'a  b'")).Verbatim "SELECT 'a  b'" ∧
      "'a  b'".toList ∈ Text.literals "SELECT 'a  b'" ∧
      ¬ "'a  b'".toList <:+: compiled.query.toList := by
  have hbuild : (build {} .select (naming "SELECT 'a  b'")).result =
      .ok ⟨"SELECT * FROM words WHERE name = (SELECT 'a b')", [], false⟩ := by rfl
  have hspaces : ¬ "'a  b'".toList.IsChain (Text.Apart (· == ' ')) := by
    simp [Text.Apart]
  refine ⟨_, hbuild, read_naming _, verbatim_namingSelect _, by decide, ?_⟩
  intro h
  exact hspaces <| List.IsChain.infix (apart_build hbuild) h

end ParamSql
