import ParamSql.Proofs.Clause.InOrder

/-!
The terms of an order, one after another.

A sort term without text binds nothing, so leaving it out changes no number behind it
(`writeAll_nonEmpty`). An order is therefore its terms compiled in turn on one context, those
without text left out (`clause_in_turn`). A term itself is the same wherever its direction stands
(`term_moved`).
-/

namespace ParamSql

/-- Among the filled fragments those with something to see are those with a text. -/
theorem Sql.map_text_nonEmpty_fillAll (taken : Nat) (fs : List Sql) :
    (nonEmpty (fillAll taken fs)).map text = (writeAll taken fs).filter (· ≠ "") := by
  induction fs generalizing taken with
  | nil => rfl
  | cons f rest ih =>
    have hwrite : f.write taken = "" ↔ f.isEmpty = true := write_eq_empty_iff
    have hrest := ih (taken + f.arity)
    rw [nonEmpty] at hrest
    rw [nonEmpty, fillAll, writeAll, List.filter_cons, List.filter_cons, isEmpty_fill]
    cases hempty : f.isEmpty with
    | true => simp [hrest, hwrite.2 hempty]
    | false =>
      have htext : f.write taken ≠ "" := by
        rw [Ne, hwrite, hempty]
        exact Bool.false_ne_true
      simp [hrest, text_fill, htext]

/-- Fragments without text may be left out before the numbers are filled in or afterwards. -/
theorem Sql.writeAll_nonEmpty {fs : List Sql} (h : ∀ f ∈ fs, f.isEmpty = true → f.arity = 0)
    (taken : Nat) : writeAll taken (nonEmpty fs) = (writeAll taken fs).filter (· ≠ "") := by
  rw [← map_text_fillAll, fillAll_nonEmpty h, map_text_nonEmpty_fillAll]

namespace Order

variable {key value : Value}

/-! ## Terms in turn -/

/-- Terms compiled one after another, each on the context that the one before it leaves: the values
that each of them binds there, the text that it gives, and the context in the end. -/
inductive InTurn : Context → List Value → List (List Value) → List String → Context → Prop where
  | nil {context : Context} : InTurn context [] [] [] context
  | cons {context last : Context} {spec : Value} {rest : List Value} {vs : List Value}
    {vss : List (List Value)} {sql : Sql} {texts : List String}
    (hresult : ((term spec).run context).result = .ok sql)
    (hcontext : ((term spec).run context).context = context.append vs)
    (hrest : InTurn (context.append vs) rest vss texts last) :
    InTurn context (spec :: rest) (vs :: vss) (sql.text :: texts) last

variable {context : Context} {specs : List Value} {vs : List Value} {sqls : List Sql}

/-- Terms that compile one by one compile in turn, to what is written of them together. -/
theorem exists_inTurn
    (h : Draft.Joint (fun spec vs sql => (term spec).Gives vs sql) specs vs sqls)
    (context : Context) :
    ∃ vss, vs = vss.flatten ∧ InTurn context specs vss (Sql.writeAll context.values.length sqls)
      (context.append vs) := by
  induction h generalizing context with
  | nil =>
    refine ⟨[], rfl, ?_⟩
    rw [Context.append, List.append_nil]
    exact .nil
  | @cons spec rest vs ws sql sqls hgives _ ih =>
    obtain ⟨vss, rfl, hrest⟩ := ih (context.append vs)
    have hfills := ((term_inOrder spec).yields context.values.length).of_gives hgives
    have hrun := (term_inOrder spec).run_eq context
    rw [hgives.1, hgives.2] at hrun
    refine ⟨vs :: vss, rfl, ?_⟩
    rw [Context.append, List.length_append, ← hfills.arity, ← Context.append, Context.append_append]
      at hrest
    rw [Sql.writeAll, ← Sql.text_fill]
    exact .cons (congrArg Draft.Run.result hrun) (congrArg Draft.Run.context hrun) hrest

/-- A term without text has bound nothing. -/
theorem InTurn.bound_of_empty {last : Context} {vss : List (List Value)} {texts : List String}
    (h : InTurn context specs vss texts last) :
    List.Forall₂ (fun text vs => text = "" → vs = []) texts vss := by
  induction h with
  | nil => exact .nil
  | @cons context _ spec _ vs _ sql _ hresult hcontext _ ih =>
    refine .cons (fun htext => ?_) ih
    obtain ⟨a, -, hfills⟩ := (term_inOrder spec).of_run_ok hresult
    rw [hfills.text_eq] at htext
    have hbound := hfills.shown (Sql.write_eq_empty_iff.1 htext)
    rw [(term_inOrder spec).run_eq, hbound] at hcontext
    exact (List.append_cancel_left (congrArg Context.values hcontext)).symm

/-- Terms without text take no parameters. -/
theorem joint_shown (h : Draft.Joint (fun spec vs sql => (term spec).Gives vs sql) specs vs sqls) :
    ∀ sql ∈ sqls, sql.isEmpty = true → sql.arity = 0 := by
  induction h with
  | nil => exact nofun
  | @cons spec _ vs _ sql _ hgives _ ih =>
    have hfills := ((term_inOrder spec).yields 0).of_gives hgives
    refine List.forall_mem_cons.2 ⟨fun hempty => ?_, ih⟩
    rw [hfills.arity, hfills.shown hempty, List.length_nil]

def assembled (sqls : List Sql) : Sql :=
  let body := Sql.joined ", " (Sql.nonEmpty sqls)
  if body.isEmpty then .empty else .verbatim "ORDER BY " ++ body

/-- The text of a clause by the texts of its terms. -/
def clauseText (texts : List String) : String :=
  if ∀ t ∈ texts, t = "" then "" else "ORDER BY " ++ ", ".intercalate (texts.filter (· ≠ ""))

theorem clauseText_eq_empty_iff (texts : List String) :
    clauseText texts = "" ↔ ∀ t ∈ texts, t = "" := by
  rw [clauseText]
  split
  · next h => exact ⟨fun _ => h, fun _ => rfl⟩
  · next h =>
    refine ⟨fun hempty => ?_, fun hall => absurd hall h⟩
    have hhead := (String.append_eq_empty_iff.1 hempty).1
    exact absurd hhead (by decide)

/-- The clause is written as its terms are, those without text left out. -/
theorem write_assembled (hshown : ∀ sql ∈ sqls, sql.isEmpty = true → sql.arity = 0)
    (taken : Nat) :
    (assembled sqls).write taken = clauseText (Sql.writeAll taken sqls) := by
  have hbody : (Sql.joined ", " (Sql.nonEmpty sqls)).write taken =
      ", ".intercalate ((Sql.writeAll taken sqls).filter (· ≠ "")) := by
    rw [Sql.write_joined, Sql.writeAll_nonEmpty hshown]
  have hempty : (Sql.joined ", " (Sql.nonEmpty sqls)).isEmpty = true ↔
      ∀ t ∈ Sql.writeAll taken sqls, t = "" := by
    have hwritten : (Sql.joined ", " (Sql.nonEmpty sqls)).write taken = "" ↔
        (Sql.joined ", " (Sql.nonEmpty sqls)).isEmpty = true := Sql.write_eq_empty_iff
    rw [← hwritten, hbody]
    constructor
    · intro hnone t ht
      apply Decidable.by_contra
      intro hne
      exact Text.intercalate_ne_empty (List.mem_filter.2 ⟨ht, by simpa using hne⟩) hne hnone
    · intro hall
      have hfilter : (Sql.writeAll taken sqls).filter (· ≠ "") = [] := by simpa using hall
      rw [hfilter, String.intercalate_nil]
  rw [assembled, clauseText]
  by_cases hall : ∀ t ∈ Sql.writeAll taken sqls, t = ""
  · rw [if_pos (hempty.2 hall), if_pos hall]
    rfl
  · rw [if_neg fun h => hall (hempty.1 h), if_neg hall, Sql.write_append, Sql.write_verbatim,
      Sql.arity_verbatim, Nat.add_zero, hbody]

theorem clause_list_yields (specs : List Value) :
    (clause (.list specs)).Yields fun vs sql =>
      ∃ sqls, Draft.Joint (fun spec vs sql => (term spec).Gives vs sql) specs vs sqls ∧
        sql = assembled sqls :=
  (Draft.Yields.mapM fun spec _ => Draft.yields_gives (term spec)).bind_pure
    fun _ sqls h => ⟨sqls, h, rfl⟩

/-! ## The place of the direction -/

/-- Entries with the direction at one place and at another. -/
inductive DirectionMoved : List (Value × Value) → List (Value × Value) → Prop where
  | intro {before after before' after' : List (Value × Value)} {key value : Value}
    (hkey : key.text? = some OrderKeyword.direction.text)
    (hothers : ∀ e ∈ before ++ after, e.1.text? ≠ some OrderKeyword.direction.text)
    (hsame : before ++ after = before' ++ after') :
    DirectionMoved (before ++ (key, value) :: after) (before' ++ (key, value) :: after')

/-- A key that stands only once is found wherever it stands. -/
theorem lookupText_middle {name : String} {before after : List (Value × Value)}
    (hkey : key.text? = some name) (hbefore : ∀ e ∈ before, e.1.text? ≠ some name) :
    Value.lookupText name (before ++ (key, value) :: after) = some value := by
  induction before with
  | nil => simp [Value.lookupText, hkey]
  | cons e rest ih =>
    obtain ⟨hother, hrest⟩ := List.forall_mem_cons.1 hbefore
    simp [Value.lookupText, hother, ih hrest]

theorem withoutDirection_middle {before after : List (Value × Value)}
    (hkey : key.text? = some OrderKeyword.direction.text) :
    withoutDirection (before ++ (key, value) :: after) = withoutDirection (before ++ after) := by
  simp [withoutDirection, Value.dropUnset, hkey]

/-- An entry that is `unset` may be left out. -/
theorem entries_middle_unset {before after : List (Value × Value)} (h : value.isUnset = true)
    (path : KeyPath) :
    entries path (before ++ (key, value) :: after) = entries path (before ++ after) := by
  induction before with
  | nil =>
    have hentry : entry path key value = pure [] := by rw [entry, if_pos h]
    rw [List.nil_append, List.nil_append, entries, hentry]
    simp
  | cons e rest ih =>
    obtain ⟨k, v⟩ := e
    rw [List.cons_append, List.cons_append, entries, entries, ih]

/-- A term is the same wherever its direction stands. -/
theorem term_moved {es es' : List (Value × Value)} (h : DirectionMoved es es') :
    term (.mapping es) = term (.mapping es') := by
  obtain @⟨before, after, before', after', key, value, hkey, hothers, hsame⟩ := h
  have hbefore : ∀ e ∈ before, e.1.text? ≠ some OrderKeyword.direction.text := fun e he =>
    hothers e (List.mem_append_left _ he)
  have hbefore' : ∀ e ∈ before', e.1.text? ≠ some OrderKeyword.direction.text := fun e he =>
    hothers e (hsame ▸ List.mem_append_left _ he)
  have hgiven : givenDirection? (before ++ (key, value) :: after) =
      givenDirection? (before' ++ (key, value) :: after') := by
    rw [givenDirection?, givenDirection?, lookupText_middle hkey hbefore,
      lookupText_middle hkey hbefore']
  have hrest : withoutDirection (before ++ (key, value) :: after) =
      withoutDirection (before' ++ (key, value) :: after') := by
    rw [withoutDirection_middle hkey, withoutDirection_middle hkey, hsame]
  cases hdirection : givenDirection? (before ++ (key, value) :: after) with
  | some direction =>
    rw [term_mapping hdirection, term_mapping (hgiven ▸ hdirection), hrest]
  | none =>
    -- The entry is there, so it is `unset`.
    have hunset : value.isUnset = true := by
      rw [givenDirection?, lookupText_middle hkey hbefore] at hdirection
      simpa using hdirection
    have hentries : entries .root (before ++ (key, value) :: after) =
        entries .root (before' ++ (key, value) :: after') := by
      rw [entries_middle_unset hunset, entries_middle_unset hunset, hsame]
    rw [term, term, ← hgiven, hdirection]
    show (entries .root _ >>= fun parts => pure (Sql.joined " " parts)) = _
    rw [hentries]
    rfl

/-! ## The clause -/

/-- **An order is its terms in turn.** On any context, a list of specifications that compiles gives
the texts of its terms, each compiled on the context that the one before it leaves, with commas
between those that are not empty; without any the clause is empty. The values are those of the terms
one after another, and a term without text has bound none. A term is the same wherever its direction
stands, down to the values bound before an error. -/
theorem clause_in_turn :
    (∀ (context : Context) (specs : List Value) (sql : Sql),
      ((clause (.list specs)).run context).result = .ok sql →
        ∃ vss texts,
          InTurn context specs vss texts ((clause (.list specs)).run context).context ∧
          ((clause (.list specs)).run context).context = context.append vss.flatten ∧
          List.Forall₂ (fun text vs => text = "" → vs = []) texts vss ∧
          sql.text = clauseText texts ∧
          (sql.text = "" ↔ ∀ t ∈ texts, t = "")) ∧
    ∀ es es', DirectionMoved es es' → term (.mapping es) = term (.mapping es') := by
  refine ⟨fun context specs sql h => ?_, fun es es' => term_moved⟩
  obtain ⟨written, hresult, hfills⟩ := (clause_inOrder _).of_run_ok h
  obtain ⟨sqls, hjoint, rfl⟩ := clause_list_yields specs written hresult
  obtain ⟨vss, hvalues, hturn⟩ := exists_inTurn hjoint context
  have hcontext : ((clause (.list specs)).run context).context =
      context.append (clause (.list specs)).bound :=
    congrArg Draft.Run.context ((clause_inOrder _).run_eq context)
  have htext : sql.text = clauseText (Sql.writeAll context.values.length sqls) := by
    rw [hfills.text_eq, write_assembled (joint_shown hjoint)]
  refine ⟨vss, _, hcontext ▸ hturn, by rw [hcontext, hvalues], hturn.bound_of_empty, htext, ?_⟩
  rw [htext, clauseText_eq_empty_iff]

/-- A name in descending order, a place in a list that is not given, and one that is. -/
def vanishing : List Value :=
  [.mapping [(.text "sort", .text "DESC"), (.text "by", .text "name")],
    .mapping [(.text "id", .mapping [(.text "in", .null)]), (.text "sort", .text "ASC")],
    .mapping [(.text "id", .mapping [(.text "in", .text "a,b")])]]

theorem clause_in_turn_vanishing :
    (∃ vss texts, InTurn ⟨[.null], false⟩ vanishing vss texts ⟨[.null, .text "a,b"], false⟩ ∧
      vss.flatten = [.text "a,b"] ∧ clauseText texts =
        "ORDER BY name DESC, ARRAY_POSITION(STRING_TO_ARRAY($2, ',')::TEXT[], id::TEXT)") ∧
    term (.mapping [(.text "sort", .text "DESC"), (.text "by", .text "name")]) =
      term (.mapping [(.text "by", .text "name"), (.text "sort", .text "DESC")]) := by
  have hwritten : (clause (.list vanishing)).result = .ok (assembled
      [Sql.joined " " [.verbatim "name", .verbatim "DESC"], .empty,
        Dialect.listPosition "id" .hole]) := rfl
  have hbinds : (clause (.list vanishing)).bound = [.text "a,b"] := rfl
  have hrun := (clause_inOrder (.list vanishing)).run_eq ⟨[.null], false⟩
  have hcompiles : ((clause (.list vanishing)).run ⟨[.null], false⟩).result = .ok (.fill 1
      (assembled [Sql.joined " " [.verbatim "name", .verbatim "DESC"], .empty,
        Dialect.listPosition "id" .hole])) := by
    rw [hrun, hwritten]
    rfl
  have hcontext : ((clause (.list vanishing)).run ⟨[.null], false⟩).context =
      ⟨[.null, .text "a,b"], false⟩ := by
    rw [hrun, hbinds]
    rfl
  obtain ⟨hterms, hmoved⟩ := clause_in_turn
  obtain ⟨vss, texts, hturn, hbound, -, htext, -⟩ := hterms ⟨[.null], false⟩ vanishing _ hcompiles
  rw [hcontext] at hturn hbound
  rw [Sql.text_fill] at htext
  refine ⟨⟨vss, texts, hturn, ?_, htext ▸ rfl⟩, ?_⟩
  · exact (List.cons.inj (congrArg Context.values hbound)).2.symm
  · have hplace : DirectionMoved
        ([] ++ (.text "sort", .text "DESC") :: [(.text "by", .text "name")])
        ([(.text "by", .text "name")] ++ (.text "sort", .text "DESC") :: []) := by
      refine .intro rfl (fun e he => ?_) rfl
      obtain rfl := List.mem_singleton.1 he
      decide
    exact hmoved _ _ hplace

end Order

end ParamSql
