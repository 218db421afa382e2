import ParamSql.Proofs.Clause.Assignment
import ParamSql.Proofs.Clause.InOrder
import ParamSql.Proofs.Sql.Denotation

/-!
Columns and values in the texts of INSERT and UPDATE.

Both texts are read back as pairs of a column and a placeholder: an INSERT as two lists of equal
length side by side (`readValues`), the assignments of an UPDATE one by one (`readSet`). With every
placeholder replaced by the value that it denotes, both give the entries of the mapping again
(`columns_aligned`).
-/

namespace ParamSql.Assignment

/-! ## The readers -/

/-- The items of a list with a comma and a blank between them. -/
def items (cs : List Char) : List (List Char) :=
  match Identifier.cut (· == ',') cs with
  | [] => []
  | first :: others => first :: others.map (List.drop 1)

/-- Two lists side by side, if they are equally long. -/
def paired (columns placeholders : List (List Char)) : Option (List (String × String)) :=
  if columns.length = placeholders.length then
    some ((columns.map String.ofList).zip (placeholders.map String.ofList))
  else none

/-- The columns of an INSERT, each with the placeholder in the same place of the other list. -/
def readValues (text : String) : Option (List (String × String)) := do
  let rest ← "(".toList.isPrefixOf? text.toList
  let others ← ") VALUES (".toList.isPrefixOf? (rest.dropWhile (· != ')'))
  if others.dropWhile (· != ')') = [')'] then
    paired (items (rest.takeWhile (· != ')'))) (items (others.takeWhile (· != ')')))
  else none

/-- The column and the placeholder of an assignment. -/
def readAssignment (cs : List Char) : Option (String × String) := do
  let placeholder ← " = ".toList.isPrefixOf? (cs.dropWhile (· != ' '))
  pure (String.ofList (cs.takeWhile (· != ' ')), String.ofList placeholder)

/-- The columns and the placeholders of the assignments of an UPDATE. -/
def readSet (text : String) : Option (List (String × String)) := do
  let rest ← "SET ".toList.isPrefixOf? text.toList
  (items rest).mapM readAssignment

/-! ## Names and placeholders without marks -/

/-- The text has none of the marks by which the readers find the end of a column. Names of letters,
digits, underscores and dots have none. -/
def Unmarked (s : String) : Prop :=
  ∀ c ∈ s.toList, c ≠ ',' ∧ c ≠ ')' ∧ c ≠ ' '

theorem unmarked_of_isPlain {name : String} (h : Identifier.isPlain name = true) :
    Unmarked name := by
  intro c hc
  have hname := (Identifier.Plain.of_isPlain h).chars c hc
  refine ⟨?_, ?_, ?_⟩ <;>
  · rintro rfl
    exact absurd hname (by decide)

theorem unmarked_snake {name : String} (h : Unmarked name) : Unmarked (Identifier.snake name) := by
  intro c hc
  refine ⟨?_, ?_, ?_⟩ <;>
  · rintro rfl
    have hname := h _ (Identifier.mem_of_mem_snake hc (by decide) (by decide) (by decide))
    exact absurd hname (by decide)

theorem unmarked_placeholder (n : Nat) : Unmarked (Sql.placeholder n) := by
  intro c hc
  have htext : (Sql.placeholder n).toList = '$' :: Nat.toDigits 10 n := by simp [Sql.placeholder]
  rw [htext] at hc
  rcases List.mem_cons.1 hc with rfl | hc
  · decide
  · have hdigit := Nat.isDigit_of_mem_toDigits (by decide) (by decide) hc
    refine ⟨?_, ?_, ?_⟩ <;>
    · rintro rfl
      exact absurd hdigit (by decide)

/-! ## Reading back -/

theorem intercalate_comma (part : List Char) (parts : List (List Char)) :
    [',', ' '].intercalate (part :: parts) = [','].intercalate (part :: parts.map (' ' :: ·)) := by
  induction parts generalizing part with
  | nil => rfl
  | cons next rest ih =>
    rw [List.intercalate_cons_cons, ih, List.map_cons]
    cases rest with
    | nil => simp [List.intercalate]
    | cons _ _ => simp [List.intercalate_cons_cons]

theorem items_intercalate {texts : List String} (hne : texts ≠ [])
    (h : ∀ t ∈ texts, ∀ c ∈ t.toList, c ≠ ',') :
    items (", ".intercalate texts).toList = texts.map String.toList := by
  obtain ⟨first, rest, rfl⟩ := List.exists_cons_of_ne_nil hne
  obtain ⟨hfirst, hrest⟩ := List.forall_mem_cons.1 h
  have hparts : ∀ part ∈ first.toList :: (rest.map String.toList).map (' ' :: ·),
      ∀ c ∈ part, (c == ',') = false := by
    refine List.forall_mem_cons.2 ⟨fun c hc => beq_eq_false_iff_ne.2 (hfirst c hc), ?_⟩
    intro part hpart c hc
    obtain ⟨_, hmem, rfl⟩ := List.mem_map.1 hpart
    obtain ⟨t, ht, rfl⟩ := List.mem_map.1 hmem
    rcases List.mem_cons.1 hc with rfl | hc
    · decide
    · exact beq_eq_false_iff_ne.2 (hrest t ht c hc)
  have hcomma : ", ".toList = [',', ' '] := rfl
  rw [items, String.toList_intercalate, List.map_cons, hcomma, intercalate_comma,
    Identifier.cut_intercalate rfl (List.cons_ne_nil _ _) hparts]
  simp

/-- What a reader takes up to a mark, and what it leaves. -/
theorem span_mark {mark : Char} {cs : List Char} (h : ∀ c ∈ cs, c ≠ mark) (rest : List Char) :
    (cs ++ mark :: rest).takeWhile (· != mark) = cs ∧
      (cs ++ mark :: rest).dropWhile (· != mark) = mark :: rest := by
  have hcs : ∀ c ∈ cs, (c != mark) = true := fun c hc => bne_iff_ne.2 (h c hc)
  rw [List.takeWhile_append_of_pos hcs, List.dropWhile_append_of_pos hcs]
  simp

theorem isPrefixOf?_append (xs ys : List Char) : xs.isPrefixOf? (xs ++ ys) = some ys :=
  List.isPrefixOf?_eq_some_iff_append_eq.2 rfl

theorem not_mem_intercalate {mark : Char} (hmark : mark ≠ ',' ∧ mark ≠ ' ') {texts : List String}
    (h : ∀ t ∈ texts, ∀ c ∈ t.toList, c ≠ mark) :
    ∀ c ∈ (", ".intercalate texts).toList, c ≠ mark := by
  intro c hc
  rcases Text.mem_toList_intercalate hc with hsep | ⟨t, ht, hc⟩
  · have hcases : c = ',' ∨ c = ' ' := by simpa using hsep
    rcases hcases with rfl | rfl
    · exact hmark.1.symm
    · exact hmark.2.symm
  · exact h t ht c hc

theorem readValues_text {columns placeholders : List String} (hne : columns ≠ [])
    (hlength : columns.length = placeholders.length) (hcolumns : ∀ c ∈ columns, Unmarked c)
    (hplaceholders : ∀ p ∈ placeholders, Unmarked p) :
    readValues ("(" ++ ", ".intercalate columns ++ ") VALUES (" ++
      ", ".intercalate placeholders ++ ")") = some (columns.zip placeholders) := by
  have hne' : placeholders ≠ [] := by
    rintro rfl
    exact hne (List.length_eq_zero_iff.1 hlength)
  have htext : ("(" ++ ", ".intercalate columns ++ ") VALUES (" ++
      ", ".intercalate placeholders ++ ")").toList = "(".toList ++
        ((", ".intercalate columns).toList ++ ')' ::
          (" VALUES (".toList ++ ((", ".intercalate placeholders).toList ++ [')']))) := by
    simp [String.toList_append]
  have hfirst := span_mark
    (not_mem_intercalate (by decide) fun t ht c hc => (hcolumns t ht c hc).2.1)
    (" VALUES (".toList ++ ((", ".intercalate placeholders).toList ++ [')']))
  have hsecond := span_mark
    (not_mem_intercalate (by decide) fun t ht c hc => (hplaceholders t ht c hc).2.1) []
  have hbetween : ") VALUES (".toList.isPrefixOf? (')' ::
      (" VALUES (".toList ++ ((", ".intercalate placeholders).toList ++ [')']))) =
        some ((", ".intercalate placeholders).toList ++ [')']) := isPrefixOf?_append _ _
  rw [readValues, htext, isPrefixOf?_append, Option.bind_eq_bind, Option.bind_some, hfirst.1,
    hfirst.2, hbetween, Option.bind_some, hsecond.1, hsecond.2, if_pos rfl,
    items_intercalate hne fun t ht c hc => (hcolumns t ht c hc).1,
    items_intercalate hne' fun t ht c hc => (hplaceholders t ht c hc).1, paired]
  simp [hlength, Function.comp_def]

theorem readAssignment_text {column placeholder : String} (h : Unmarked column) :
    readAssignment (column ++ " = " ++ placeholder).toList = some (column, placeholder) := by
  have htext : (column ++ " = " ++ placeholder).toList =
      column.toList ++ ' ' :: ("= ".toList ++ placeholder.toList) := by
    simp [String.toList_append]
  have hspan := span_mark (fun c hc => (h c hc).2.2) ("= ".toList ++ placeholder.toList)
  have hequals : " = ".toList.isPrefixOf? (' ' :: ("= ".toList ++ placeholder.toList)) =
      some placeholder.toList := isPrefixOf?_append _ _
  rw [readAssignment, htext, hspan.1, hspan.2, hequals]
  simp

def assignmentText (column placeholder : String) : String :=
  column ++ " = " ++ placeholder

theorem mapM_readAssignment {columns placeholders : List String}
    (hlength : columns.length = placeholders.length) (hcolumns : ∀ c ∈ columns, Unmarked c) :
    ((List.zipWith assignmentText columns placeholders).map String.toList).mapM readAssignment =
      some (columns.zip placeholders) := by
  induction columns generalizing placeholders with
  | nil => rfl
  | cons column rest ih =>
    obtain ⟨placeholder, others, rfl⟩ : ∃ p ps, placeholders = p :: ps := by
      cases placeholders with
      | nil => cases hlength
      | cons p ps => exact ⟨p, ps, rfl⟩
    obtain ⟨hcolumn, hrest⟩ := List.forall_mem_cons.1 hcolumns
    rw [List.zipWith_cons_cons, List.map_cons, List.mapM_cons, assignmentText,
      readAssignment_text hcolumn, ih (Nat.succ.inj hlength) hrest]
    rfl

theorem readSet_text {columns placeholders : List String} (hne : columns ≠ [])
    (hlength : columns.length = placeholders.length) (hcolumns : ∀ c ∈ columns, Unmarked c)
    (hplaceholders : ∀ p ∈ placeholders, Unmarked p) :
    readSet ("SET " ++ ", ".intercalate (List.zipWith assignmentText columns placeholders)) =
      some (columns.zip placeholders) := by
  have hcomma : ∀ t ∈ List.zipWith assignmentText columns placeholders,
      ∀ c ∈ t.toList, c ≠ ',' := by
    intro t ht c hc
    obtain ⟨i, hi, rfl⟩ := List.mem_iff_getElem.1 ht
    rw [List.getElem_zipWith, assignmentText, String.toList_append, String.toList_append,
      List.mem_append, List.mem_append] at hc
    rcases hc with (hc | hc) | hc
    · exact (hcolumns _ (List.getElem_mem _) c hc).1
    · rintro rfl
      exact absurd hc (by decide)
    · exact (hplaceholders _ (List.getElem_mem _) c hc).1
  have hassigned : List.zipWith assignmentText columns placeholders ≠ [] := by
    rw [← List.length_pos_iff, List.length_zipWith, ← hlength, Nat.min_self]
    exact List.length_pos_iff.2 hne
  rw [readSet, String.toList_append, isPrefixOf?_append, Option.bind_eq_bind, Option.bind_some,
    items_intercalate hassigned hcomma, mapM_readAssignment hlength hcolumns]

/-! ## The texts of both statements -/

/-- The placeholders of `n` parameters with `taken` parameters before them. -/
def placeholders (taken n : Nat) : List String :=
  (List.range' (taken + 1) n).map Sql.placeholder

theorem placeholders_succ (taken n : Nat) :
    placeholders taken (n + 1) = Sql.placeholder (taken + 1) :: placeholders (taken + 1) n := rfl

theorem writeAll_holes (taken : Nat) (columns : List String) :
    Sql.writeAll taken (columns.map fun _ => .hole) = placeholders taken columns.length := by
  induction columns generalizing taken with
  | nil => rfl
  | cons column rest ih =>
    rw [List.map_cons, Sql.writeAll, Sql.write_hole, List.length_cons, placeholders_succ]
    exact congrArg _ (ih (taken + 1))

theorem writeAll_assigned (taken : Nat) (columns : List String) :
    Sql.writeAll taken (columns.map fun column => assigned column .hole) =
      List.zipWith assignmentText (columns.map Identifier.snake)
        (placeholders taken columns.length) := by
  induction columns generalizing taken with
  | nil => rfl
  | cons column rest ih =>
    have hwrite : (assigned column .hole).write taken =
        assignmentText (Identifier.snake column) (Sql.placeholder (taken + 1)) := by
      rw [assigned, Sql.write_append, Sql.write_verbatim, Sql.write_hole, Sql.arity_verbatim]
      rfl
    rw [List.map_cons, Sql.writeAll, hwrite, List.map_cons, List.length_cons, placeholders_succ,
      List.zipWith_cons_cons]
    exact congrArg _ (ih (taken + 1))

theorem write_valuesText (taken : Nat) (columns : List String) :
    (valuesText columns).write taken =
      "(" ++ ", ".intercalate (columns.map Identifier.snake) ++ ") VALUES (" ++
        ", ".intercalate (placeholders taken columns.length) ++ ")" := by
  rw [valuesText, insertion, Sql.write_append, Sql.write_append, Sql.write_verbatim,
    Sql.write_verbatim, Sql.write_joined, Sql.arity_verbatim, Nat.add_zero, writeAll_holes]

theorem write_setText (taken : Nat) (columns : List String) :
    (setText columns).write taken =
      "SET " ++ ", ".intercalate (List.zipWith assignmentText (columns.map Identifier.snake)
        (placeholders taken columns.length)) := by
  rw [setText, Sql.write_append, Sql.write_verbatim, Sql.write_joined, Sql.arity_verbatim,
    Nat.add_zero, writeAll_assigned]

theorem length_placeholders (taken n : Nat) : (placeholders taken n).length = n := by
  rw [placeholders, List.length_map, List.length_range']

theorem unmarked_of_mem_placeholders {taken n : Nat} {p : String} (h : p ∈ placeholders taken n) :
    Unmarked p := by
  obtain ⟨k, -, rfl⟩ := List.mem_map.1 h
  exact unmarked_placeholder k

section Written

variable {names : List String}

theorem readValues_write (taken : Nat) (hne : names ≠ [])
    (h : ∀ name ∈ names, Unmarked (Identifier.snake name)) :
    readValues ((valuesText names).write taken) =
      some ((names.map Identifier.snake).zip (placeholders taken names.length)) := by
  rw [write_valuesText]
  refine readValues_text ?_ ?_ (List.forall_mem_map.2 h) fun _ => unmarked_of_mem_placeholders
  · rwa [Ne, List.map_eq_nil_iff]
  · rw [List.length_map, length_placeholders]

theorem readSet_write (taken : Nat) (hne : names ≠ [])
    (h : ∀ name ∈ names, Unmarked (Identifier.snake name)) :
    readSet ((setText names).write taken) =
      some ((names.map Identifier.snake).zip (placeholders taken names.length)) := by
  rw [write_setText]
  refine readSet_text ?_ ?_ (List.forall_mem_map.2 h) fun _ => unmarked_of_mem_placeholders
  · rwa [Ne, List.map_eq_nil_iff]
  · rw [List.length_map, length_placeholders]

end Written

/-! ## Columns and values -/

/-- Every pair with the value that its placeholder denotes. -/
def resolved (vs : List Value) (pairs : List (String × String)) :
    List (String × Option Value) :=
  pairs.map fun p => (p.1, Sql.denoted vs p.2)

/-- The columns in snake case and the values of the entries that are given, in key order. -/
def givenColumns (es : List (Value × Value)) : List (String × Value) :=
  (Value.dropUnset es).map fun e => (Identifier.snake (e.1.text?.getD ""), e.2)

theorem map_fst_givenColumns (es : List (Value × Value)) :
    (givenColumns es).map Prod.fst = (columns (named es)).map Identifier.snake := by
  rw [givenColumns, columns, dropUnset_named, named, List.map_map, List.map_map, List.map_map]
  rfl

theorem map_snd_givenColumns (es : List (Value × Value)) :
    (givenColumns es).map Prod.snd = leaves (named es) := by
  rw [givenColumns, leaves, dropUnset_named, named, List.map_map, List.map_map]
  rfl

theorem zip_map_some (pairs : List (String × Value)) :
    (pairs.map Prod.fst).zip ((pairs.map Prod.snd).map some) =
      pairs.map fun p => (p.1, some p.2) := by
  rw [List.map_map, List.zip_map']
  rfl

theorem resolved_zip (before : List Value) (pairs : List (String × Value)) :
    resolved (before ++ pairs.map Prod.snd)
        ((pairs.map Prod.fst).zip (placeholders before.length pairs.length)) =
      pairs.map fun p => (p.1, some p.2) := by
  have hdenoted := Sql.map_denoted before (pairs.map Prod.snd) []
  rw [List.append_nil, List.length_map] at hdenoted
  rw [← zip_map_some, ← hdenoted, List.zip_map_right, resolved]
  rfl

section Aligned

variable {es : List (Value × Value)}
  (hkeys : ∀ e ∈ es, ∃ name, e.1.text? = some name ∧ Unmarked name)

include hkeys

theorem unmarked_columns : ∀ name ∈ columns (named es), Unmarked (Identifier.snake name) := by
  intro name hname
  rw [columns, dropUnset_named, named, List.map_map] at hname
  obtain ⟨e, he, rfl⟩ := List.mem_map.1 hname
  obtain ⟨name, htext, hplain⟩ := hkeys e (List.mem_of_mem_filter he)
  refine unmarked_snake ?_
  rwa [Function.comp_apply, htext]

theorem texts_of_keys : ∀ e ∈ Value.dropUnset es, e.1.text?.isSome = true := by
  intro e he
  obtain ⟨name, hname, -⟩ := hkeys e (List.mem_of_mem_filter he)
  rw [hname, Option.isSome_some]

/-- The run of an INSERT is written from left to right behind the values of the context. -/
theorem values_run (hne : columns (named es) ≠ []) (context : Context) :
    ∃ sql, (values (.mapping es)).run context =
        ⟨context.append ((givenColumns es).map Prod.snd), (values (.mapping es)).notes, .ok sql⟩ ∧
      sql.text = (valuesText (columns (named es))).write context.values.length := by
  obtain ⟨hresult, hbound⟩ := values_gives hne
  rw [values_named (texts_of_keys hkeys)] at hresult hbound
  refine ⟨_, ?_, Sql.text_fill _ _⟩
  rw [(values_inOrder _).run_eq, hresult, hbound, map_snd_givenColumns]
  rfl

theorem set_run (hne : columns (named es) ≠ []) (context : Context) :
    ∃ sql, (set (.mapping es)).run context =
        ⟨context.append ((givenColumns es).map Prod.snd), (set (.mapping es)).notes, .ok sql⟩ ∧
      sql.text = (setText (columns (named es))).write context.values.length := by
  obtain ⟨hresult, hbound⟩ := set_gives hne
  rw [set_named (texts_of_keys hkeys)] at hresult hbound
  refine ⟨_, ?_, Sql.text_fill _ _⟩
  rw [(set_inOrder _).run_eq, hresult, hbound, map_snd_givenColumns]
  rfl

end Aligned

theorem columns_ne_nil {es : List (Value × Value)} (hgiven : ∃ e ∈ es, e.2.isUnset = false) :
    columns (named es) ≠ [] := by
  obtain ⟨e, he, hset⟩ := hgiven
  have hmem : e ∈ Value.dropUnset es := List.mem_filter.2 ⟨he, by rw [hset]; rfl⟩
  rw [columns, dropUnset_named, named, Ne, List.map_eq_nil_iff, List.map_eq_nil_iff]
  exact List.ne_nil_of_mem hmem

/-- **Columns and values stay aligned.** Whatever is bound before, the text of an INSERT and the
assignments of an UPDATE from the same mapping are read back as its given entries, the columns in
snake case and in key order, with every placeholder standing for its value. Both bind the same
values behind those that are there. -/
theorem columns_aligned (context : Context) (es : List (Value × Value))
    (hkeys : ∀ e ∈ es, ∃ name, e.1.text? = some name ∧ Unmarked name)
    (hgiven : ∃ e ∈ es, e.2.isUnset = false) :
    let inserted := (values (.mapping es)).run context
    let updated := (set (.mapping es)).run context
    inserted.context.values = context.values ++ (givenColumns es).map Prod.snd ∧
      updated.context.values = context.values ++ (givenColumns es).map Prod.snd ∧
      (∃ sql, inserted.result = .ok sql ∧
        (readValues sql.text).map (resolved inserted.context.values) =
          some ((givenColumns es).map fun p => (p.1, some p.2))) ∧
      ∃ sql, updated.result = .ok sql ∧
        (readSet sql.text).map (resolved updated.context.values) =
          some ((givenColumns es).map fun p => (p.1, some p.2)) := by
  have hne := columns_ne_nil hgiven
  have hunmarked := unmarked_columns hkeys
  have hlength : (columns (named es)).length = (givenColumns es).length := by
    rw [← List.length_map, ← map_fst_givenColumns, List.length_map]
  -- Both texts are read back as the same pairs, and the lookup of these pairs is known.
  have hresolved : resolved (context.values ++ (givenColumns es).map Prod.snd)
      (((columns (named es)).map Identifier.snake).zip
        (placeholders context.values.length (columns (named es)).length)) =
      (givenColumns es).map fun p => (p.1, some p.2) := by
    rw [hlength, ← map_fst_givenColumns, resolved_zip]
  obtain ⟨inserted, hinserted, hinsertedText⟩ := values_run hkeys hne context
  obtain ⟨updated, hupdated, hupdatedText⟩ := set_run hkeys hne context
  rw [hinserted, hupdated]
  refine ⟨rfl, rfl, ⟨inserted, rfl, ?_⟩, updated, rfl, ?_⟩
  · rw [hinsertedText, readValues_write _ hne hunmarked, Option.map_some]
    exact congrArg some hresolved
  · rw [hupdatedText, readSet_write _ hne hunmarked, Option.map_some]
    exact congrArg some hresolved

theorem columns_aligned_row :
    let context : Context := ⟨[.text "before", .null], true⟩
    let row : List (Value × Value) :=
      [(.text "u.createdBy", .int 7), (.text "note", .unset), (.text "status", .null)]
    let inserted := (values (.mapping row)).run context
    let updated := (set (.mapping row)).run context
    inserted.context.values = [.text "before", .null, .int 7, .null] ∧
      updated.context.values = [.text "before", .null, .int 7, .null] ∧
      (∃ sql, inserted.result = .ok sql ∧
        (readValues sql.text).map (resolved inserted.context.values) =
          some [("u.created_by", some (.int 7)), ("status", some .null)]) ∧
      ∃ sql, updated.result = .ok sql ∧
        (readSet sql.text).map (resolved updated.context.values) =
          some [("u.created_by", some (.int 7)), ("status", some .null)] := by
  have hby : Identifier.snake "u.createdBy" = "u.created_by" := by decide +kernel
  have hstatus : Identifier.snake "status" = "status" := by decide +kernel
  have hrow : givenColumns
      [(.text "u.createdBy", .int 7), (.text "note", .unset), (.text "status", .null)] =
        [("u.created_by", .int 7), ("status", .null)] := by
    rw [← hby, ← hstatus]
    rfl
  have haligned := columns_aligned ⟨[.text "before", .null], true⟩
    [(.text "u.createdBy", .int 7), (.text "note", .unset), (.text "status", .null)]
    (List.forall_mem_cons.2 ⟨⟨_, rfl, unmarked_of_isPlain (by decide +kernel)⟩,
      List.forall_mem_cons.2 ⟨⟨_, rfl, unmarked_of_isPlain (by decide +kernel)⟩,
        List.forall_mem_singleton.2 ⟨_, rfl, unmarked_of_isPlain (by decide +kernel)⟩⟩⟩)
    ⟨_, List.mem_cons_self .., rfl⟩
  rwa [hrow] at haligned

end ParamSql.Assignment
