import ParamSql.Proofs.Statement.Parameters

/-!
A batch and its members.

A batch is compiled on one parameter list, its members alone each on a list of their own. The two
come to the same: the text of the batch is made of the texts of the members, renumbered, and where a
batch fails its first failing member fails alone with the same error.
-/

namespace ParamSql

/-! ## Members of a batch -/

namespace Compiled

/-- The texts of statements compiled alone, each renumbered by the number of the values before
it. -/
def renumbered (taken : Nat) : List Compiled → List String
  | [] => []
  | member :: rest =>
    Token.renumber taken member.query :: renumbered (taken + member.values.length) rest

/-- Statements compiled alone, put together as a batch. -/
def together (members : List Compiled) : Compiled :=
  ⟨";".intercalate (renumbered 0 members), members.flatMap Compiled.values, true⟩

/-- What a draft becomes as a statement of its own. -/
def Alone (draft : Draft Sql) (member : Compiled) : Prop :=
  ∃ sql, draft.Gives member.values sql ∧ member.query = Text.collapse (sql.write 0)

/-- The members of a batch have the texts that they have alone, renumbered. -/
theorem members_gives {drafts : List (Draft Sql)} {cs : List Compiled}
    (h : List.Forall₂ Alone drafts cs) (hdrafts : ∀ draft ∈ drafts, Sound draft) (taken : Nat) :
    (members taken drafts).Gives (cs.flatMap Compiled.values) (renumbered taken cs) := by
  induction h generalizing taken with
  | nil => exact ⟨rfl, rfl⟩
  | @cons draft c rest cs hdraft _ ih =>
    obtain ⟨sql, hgives, hquery⟩ := hdraft
    obtain ⟨hfirst, hothers⟩ := List.forall_mem_cons.1 hdrafts
    have hsql := hfirst.of_gives hgives
    have hrest := ih hothers (taken + c.values.length)
    rw [members, renumbered, List.flatMap_cons, hquery, hsql.renumber_collapse_write, Nat.zero_add]
    refine hgives.bind ?_
    rw [hgives.2]
    rw [← List.append_nil (cs.flatMap values)]
    exact hrest.bind (Draft.gives_pure _)

/-- A batch of drafts that are each a statement alone is those statements together. -/
theorem batch_together (config : Config) (verb : Verb) {drafts : List (Draft Sql)}
    {cs : List Compiled} (hne : drafts ≠ []) (h : List.Forall₂ Alone drafts cs)
    (hdrafts : ∀ draft ∈ drafts, Sound draft) (horder : ∀ draft ∈ drafts, draft.InOrder) :
    (batch config verb drafts).result = .ok (together cs) := by
  obtain ⟨hresult, hbound⟩ := members_gives h hdrafts 0
  rw [batch_result config verb hne horder, hresult, hbound]
  rfl

section Error

variable {before after : List (Draft Sql)} {draft : Draft Sql} {e : Error}

/-- The first draft that fails ends the members, whatever stands behind it. -/
theorem members_error (hbefore : ∀ d ∈ before, ∃ sql, d.result = .ok sql)
    (h : draft.result = .error e) (taken : Nat) :
    (members taken (before ++ draft :: after)).result = .error e := by
  induction before generalizing taken with
  | nil =>
    rw [List.nil_append, members]
    exact Draft.bind_result_error h
  | cons d rest ih =>
    obtain ⟨⟨sql, hsql⟩, hrest⟩ := List.forall_mem_cons.1 hbefore
    rw [List.cons_append, members, Draft.bind_result_ok hsql]
    exact Draft.bind_result_error (ih hrest _)

theorem batch_error (config : Config) (verb : Verb)
    (hbefore : ∀ d ∈ before, ∃ sql, d.result = .ok sql) (h : draft.result = .error e)
    (horder : ∀ d ∈ before ++ draft :: after, d.InOrder) :
    (batch config verb (before ++ draft :: after)).result = .error e := by
  have hne : before ++ draft :: after ≠ [] := by simp
  rw [batch_result config verb hne horder, members_error hbefore h 0]
  rfl

end Error

end Compiled

/-! ## Batches of schemas -/

variable {config : Config} {verb : Verb} {schemas item : Value} {items : List Value}

@[simp] theorem Verb.isBatch_member (verb : Verb) : verb.member.isBatch = false := by
  cases verb <;> rfl

@[simp] theorem Verb.parse_member (verb : Verb) : verb.member.parse = verb.parse := by
  cases verb <;> rfl

theorem Verb.read_batch (hbatch : verb.isBatch = true) (hitems : schemas.elements? = some items) :
    verb.read schemas = items.mapM verb.parse := by
  rw [read, hbatch, if_pos rfl, hitems]

theorem Verb.parse_error {e : Error} (h : verb.parse item = .error e) :
    ∃ issues, e = .invalidSchema verb.schema issues item := by
  rw [parse, SchemaName.parse] at h
  cases hcheck : verb.check item with
  | valid s =>
    rw [hcheck] at h
    cases h
  | invalid issues =>
    rw [hcheck] at h
    exact ⟨issues, (Except.error.inj h).symm⟩

theorem build_member_of_parse {s : Statement} (h : verb.parse item = .ok s) :
    (build config verb.member item).result =
      (s.draft config).result.map fun sql =>
        ⟨Text.collapse (sql.write 0), (s.draft config).bound, false⟩ := by
  rw [build_single verb.isBatch_member, verb.parse_member, h]
  exact Compiled.single_result config verb.member (s.draft_inOrder config)

theorem build_member_of_error {e : Error} (h : verb.parse item = .error e) :
    (build config verb.member item).result = .error e := by
  rw [build_single verb.isBatch_member, verb.parse_member, h]
  rfl

theorem alone_of_build_member {compiled : Compiled}
    (h : (build config verb.member item).result = .ok compiled) :
    ∃ s, verb.parse item = .ok s ∧ Compiled.Alone (s.draft config) compiled := by
  cases hparse : verb.parse item with
  | error e =>
    rw [build_member_of_error hparse] at h
    cases h
  | ok s =>
    rw [build_member_of_parse hparse] at h
    obtain ⟨sql, hsql, rfl⟩ := exists_of_map_eq_ok h
    exact ⟨s, rfl, sql, ⟨hsql, rfl⟩, rfl⟩

theorem draft_of_build_member {s : Statement} {compiled : Compiled}
    (hparse : verb.parse item = .ok s) (h : (build config verb.member item).result = .ok compiled) :
    ∃ sql, (s.draft config).result = .ok sql := by
  obtain ⟨t, ht, sql, hgives, -⟩ := alone_of_build_member h
  obtain rfl : s = t := Except.ok.inj (hparse.symm.trans ht)
  exact ⟨sql, hgives.1⟩

theorem draft_error_of_build_member {s : Statement} {e : Error} (hparse : verb.parse item = .ok s)
    (h : (build config verb.member item).result = .error e) :
    (s.draft config).result = .error e := by
  rw [build_member_of_parse hparse] at h
  exact eq_error_of_map h

/-- A batch of members that each compile alone is those members together. -/
theorem build_together (hbatch : verb.isBatch = true) (hitems : schemas.elements? = some items)
    (hne : items ≠ []) (hconfig : config.Plain)
    (hplain : ∀ item ∈ items, ∀ s, verb.parse item = .ok s → s.Plain) {cs : List Compiled}
    (h : List.Forall₂ (fun item c => (build config verb.member item).result = .ok c) items cs) :
    (build config verb schemas).result = .ok (Compiled.together cs) := by
  -- The statements that the members are read into, whose drafts the batch puts together.
  obtain ⟨statements, hparse, hsound, halone⟩ : ∃ statements,
      List.Forall₂ (fun item s => verb.parse item = .ok s) items statements ∧
        (∀ draft ∈ statements.map (Statement.draft config), Compiled.Sound draft) ∧
        List.Forall₂ Compiled.Alone (statements.map (Statement.draft config)) cs := by
    clear hitems hne
    induction h with
    | nil => exact ⟨[], .nil, List.forall_mem_nil _, .nil⟩
    | cons hitem _ ih =>
      obtain ⟨s, hparse, halone⟩ := alone_of_build_member hitem
      obtain ⟨hfirst, hrest⟩ := List.forall_mem_cons.1 hplain
      obtain ⟨statements, hparses, hsounds, halones⟩ := ih hrest
      have hsound := Statement.sound_draft hconfig (hfirst s hparse)
      exact ⟨s :: statements, .cons hparse hparses, List.forall_mem_cons.2 ⟨hsound, hsounds⟩,
        .cons halone halones⟩
  have hdrafts : statements.map (Statement.draft config) ≠ [] := by
    intro hnil
    obtain rfl := List.map_eq_nil_iff.1 hnil
    exact hne (List.forall₂_nil_right_iff.1 hparse)
  rw [build_batch hbatch, Verb.read_batch hbatch hitems, mapM_eq_ok hparse]
  exact Compiled.batch_together config verb hdrafts halone hsound
    (Statement.drafts_inOrder config statements)

/-- The members of a batch that compiles compile alone. -/
theorem build_member_ok (hbatch : verb.isBatch = true) (hitems : schemas.elements? = some items)
    {compiled : Compiled} (h : (build config verb schemas).result = .ok compiled) :
    ∀ item ∈ items, ∃ c, (build config verb.member item).result = .ok c := by
  obtain ⟨statements, texts, hread, hgives, -⟩ := build_ok h
  rw [Verb.read_batch hbatch hitems] at hread
  have hparse := forall₂_of_mapM_eq_ok hread
  have hmembers := (Compiled.members_yields 0 _).of_gives hgives
  -- The induction is on the members, at any number of parameters before them.
  generalize 0 = taken at hmembers
  generalize compiled.values = vs at hmembers
  clear hitems hread hgives h
  induction hparse generalizing taken vs texts with
  | nil => exact List.forall_mem_nil _
  | cons hitem _ ih =>
    obtain - | ⟨hdraft, hrest⟩ := hmembers
    refine List.forall_mem_cons.2 ⟨?_, ih _ _ _ hrest⟩
    rw [build_member_of_parse hitem, hdraft.1]
    exact ⟨_, rfl⟩

theorem build_error_of_parse (hbatch : verb.isBatch = true)
    {before after : List Value} (hitems : schemas.elements? = some (before ++ item :: after))
    (hbefore : ∀ b ∈ before, ∃ s, verb.parse b = .ok s) {e : Error}
    (h : verb.parse item = .error e) : (build config verb schemas).result = .error e := by
  rw [build_batch hbatch, Verb.read_batch hbatch hitems, mapM_eq_error hbefore h]
  rfl

theorem build_error_of_compile (hbatch : verb.isBatch = true) {before after : List Value}
    (hitems : schemas.elements? = some (before ++ item :: after))
    (hparse : ∀ i ∈ before ++ item :: after, ∃ s, verb.parse i = .ok s)
    (hbefore : ∀ b ∈ before, ∃ c, (build config verb.member b).result = .ok c) {e : Error}
    (h : (build config verb.member item).result = .error e) :
    (build config verb schemas).result = .error e := by
  obtain ⟨first, hfirst⟩ := exists_forall₂ fun b hb => hparse b (List.mem_append_left _ hb)
  obtain ⟨s, hs⟩ := hparse item (List.mem_append_right _ List.mem_cons_self)
  obtain ⟨last, hlast⟩ := exists_forall₂ fun b hb =>
    hparse b (List.mem_append_right _ (List.mem_cons_of_mem item hb))
  have hread := mapM_eq_ok (List.rel_append hfirst (.cons hs hlast))
  have hdrafts : ∀ d ∈ first.map (Statement.draft config), ∃ sql, d.result = .ok sql := by
    clear hitems hparse hread
    induction hfirst with
    | nil => exact List.forall_mem_nil _
    | cons hb _ ih =>
      obtain ⟨⟨c, hc⟩, hrest⟩ := List.forall_mem_cons.1 hbefore
      exact List.forall_mem_cons.2 ⟨draft_of_build_member hb hc, ih hrest⟩
  rw [build_batch hbatch, Verb.read_batch hbatch hitems, hread]
  show (Compiled.batch config verb ((first ++ s :: last).map (Statement.draft config))).result = _
  have horder := Statement.drafts_inOrder config (first ++ s :: last)
  rw [List.map_append, List.map_cons] at horder ⊢
  exact Compiled.batch_error config verb hdrafts (draft_error_of_build_member hs h) horder

/-- A batch is its members, renumbered. It compiles when each member compiles alone, and is then the
statements that the members are alone, put together. If a member cannot be read, the batch fails
as the first such member does, whether or not one before it compiles; if all can be read, it fails
as the first member does that does not compile. -/
theorem build_batch_members (hbatch : verb.isBatch = true)
    (hitems : schemas.elements? = some items) (hne : items ≠ []) (hconfig : config.Plain)
    (hplain : ∀ item ∈ items, ∀ s, verb.parse item = .ok s → s.Plain) :
    ((∃ c, (build config verb schemas).result = .ok c) ↔
      ∀ item ∈ items, ∃ c, (build config verb.member item).result = .ok c) ∧
    (∀ cs, List.Forall₂ (fun item c => (build config verb.member item).result = .ok c) items cs →
      (build config verb schemas).result = .ok (Compiled.together cs)) ∧
    (∀ before item after e, items = before ++ item :: after →
      (∀ b ∈ before, ∃ s, verb.parse b = .ok s) → verb.parse item = .error e →
        (build config verb schemas).result = .error e ∧
          (build config verb.member item).result = .error e ∧
          ∃ issues, e = .invalidSchema verb.schema issues item) ∧
    (∀ before item after e, items = before ++ item :: after →
      (∀ i ∈ items, ∃ s, verb.parse i = .ok s) →
      (∀ b ∈ before, ∃ c, (build config verb.member b).result = .ok c) →
      (build config verb.member item).result = .error e →
        (build config verb schemas).result = .error e) := by
  refine ⟨⟨?_, ?_⟩, ?_, ?_, ?_⟩
  · rintro ⟨compiled, h⟩
    exact build_member_ok hbatch hitems h
  · intro h
    obtain ⟨cs, hcs⟩ := exists_forall₂ h
    exact ⟨_, build_together hbatch hitems hne hconfig hplain hcs⟩
  · exact fun cs => build_together hbatch hitems hne hconfig hplain
  · rintro before item after e rfl hbefore h
    exact ⟨build_error_of_parse hbatch hitems hbefore h, build_member_of_error h,
      Verb.parse_error h⟩
  · rintro before item after e rfl hparse hbefore h
    exact build_error_of_compile hbatch hitems hparse hbefore h

theorem build_relabelings :
    (build {} .updates (.list [relabeling "noun" 7, relabeling "'; --" 8])).result =
      .ok (Compiled.together [relabeled "noun" 7, relabeled "'; --" 8]) := by
  have hplain : ∀ item ∈ [relabeling "noun" 7, relabeling "'; --" 8], ∀ s,
      Verb.parse .updates item = .ok s → s.Plain := by
    intro item hitem s hs
    rcases List.mem_cons.1 hitem with rfl | hitem
    · obtain rfl : .update (relabelingUpdate "noun" 7) = s := Except.ok.inj hs
      exact plain_relabelingUpdate _ _
    · obtain rfl := List.mem_singleton.1 hitem
      obtain rfl : .update (relabelingUpdate "'; --" 8) = s := Except.ok.inj hs
      exact plain_relabelingUpdate _ _
  obtain ⟨-, htogether, -⟩ := @build_batch_members {} .updates
    (.list [relabeling "noun" 7, relabeling "'; --" 8]) _ rfl rfl (List.cons_ne_nil _ _)
    Config.plain_default hplain
  exact htogether _ (.cons build_relabeling_noun (.cons build_relabeling_quote .nil))

example : Compiled.together [relabeled "noun" 7, relabeled "'; --" 8] =
    ⟨"UPDATE words SET kind = $1 WHERE id = $2;UPDATE words SET kind = $3 WHERE id = $4",
      [.text "noun", .int 7, .text "'; --", .int 8], true⟩ := by
  rfl

end ParamSql
