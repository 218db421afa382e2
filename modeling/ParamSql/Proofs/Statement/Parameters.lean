import ParamSql.Proofs.Statement.Build

/-!
The parameters of compiled statements.

The values of a compiled statement are the leaves of its schema, the placeholders in its text are
`$1`, `$2` and so on up to the number of its values, and the text is the same whatever the values
are.
-/

namespace ParamSql

variable {config : Config} {verb : Verb} {schema schema' : Value}
  {statements statements' : List Statement} {compiled compiled' : Compiled}

/-! ## An UPDATE to look at -/

/-- Gives the word with an identifier another kind. -/
def relabeling (kind : String) (id : Int) : Value :=
  .mapping [(.text "on", .text "words"), (.text "set", .mapping [(.text "kind", .text kind)]),
    (.text "where", .mapping [(.text "id", .int id)])]

def relabelingUpdate (kind : String) (id : Int) : Update where
  table := "words"
  assignments := [("kind", .text kind)]
  condition := some (.mapping [("id", .int id)])

theorem read_relabeling (kind : String) (id : Int) :
    Verb.read .update (relabeling kind id) = .ok [.update (relabelingUpdate kind id)] := rfl

def relabeled (kind : String) (id : Int) : Compiled :=
  ⟨"UPDATE words SET kind = $1 WHERE id = $2", [.text kind, .int id], false⟩

theorem build_relabeling_noun :
    (build {} .update (relabeling "noun" 7)).result = .ok (relabeled "noun" 7) := by
  rfl

theorem build_relabeling_quote :
    (build {} .update (relabeling "'; --" 8)).result = .ok (relabeled "'; --" 8) := by
  rfl

theorem plain_relabelingUpdate (kind : String) (id : Int) : (relabelingUpdate kind id).Plain := by
  refine ⟨?_, fun e he => ?_, ?_⟩
  · show DollarFree "words"
    decide
  · obtain rfl := List.mem_singleton.1 he
    show DollarFree "kind"
    decide
  · show Clause.Plain Where.nests Where.OwnPlain [(.text "id", .int id)]
    rw [Clause.Plain, Clause.Plain, Clause.PlainEntry.eq_def]
    exact ⟨⟨by decide, trivial⟩, trivial⟩

theorem sameShape_relabelingUpdate (kind kind' : String) (id id' : Int) :
    (relabelingUpdate kind id).SameShape (relabelingUpdate kind' id') := by
  refine ⟨rfl, .cons ⟨rfl, rfl⟩ .nil, .mapping ?_⟩
  have hown : ∀ i : Int, Clause.Own Where.nests (.text "id") (.int i) := fun i =>
    ⟨rfl, fun _ h => nomatch h⟩
  exact .own rfl (hown id) (hown id') trivial .nil

theorem Config.plain_default : Config.Plain {} := by
  intro target h
  obtain rfl := Option.some.inj h
  decide

/-! ## Values -/

theorem Compiled.Members.values_eq {taken : Nat} {statements : List Statement} {vs : List Value}
    {texts : List String}
    (h : Members taken (statements.map (Statement.draft config)) vs texts) :
    vs = statements.flatMap Statement.leaves := by
  induction statements generalizing taken vs texts with
  | nil =>
    cases h
    rfl
  | cons s rest ih =>
    obtain - | ⟨hdraft, hrest⟩ := h
    rw [List.flatMap_cons, ((s.draft_binds config).of_gives hdraft).values, ih hrest]

/-- No value is lost, doubled or moved: what a statement binds are the leaves of its schema, and a
batch binds those of its members in turn. -/
theorem values_build (h : (build config verb schema).result = .ok compiled) :
    ∃ statements, verb.read schema = .ok statements ∧
      compiled.values = statements.flatMap Statement.leaves := by
  obtain ⟨statements, texts, hread, hgives, -⟩ := build_ok h
  exact ⟨statements, hread, ((Compiled.members_yields 0 _).of_gives hgives).values_eq⟩

theorem values_relabeling : ∃ statements,
    Verb.read .update (relabeling "noun" 7) = .ok statements ∧
      [.text "noun", .int 7] = statements.flatMap Statement.leaves :=
  values_build build_relabeling_noun

/-! ## Placeholders -/

theorem Statement.sound_draft (hconfig : config.Plain) {s : Statement} (hs : s.Plain) :
    Compiled.Sound (s.draft config) :=
  (s.draft_binds config).mono fun _ _ h => h.numbered ⟨hconfig, hs⟩

/-- The placeholders of a plain statement, from left to right, are `$1`, `$2` and so on, as many as
there are values. -/
theorem placeholders_build (hread : verb.read schema = .ok statements) (hconfig : config.Plain)
    (hplain : ∀ s ∈ statements, s.Plain) (h : (build config verb schema).result = .ok compiled) :
    Token.placeholders compiled.query =
      (List.range' 1 compiled.values.length).map Sql.placeholder := by
  obtain ⟨statements', texts, hread', hgives, hcompiled⟩ := build_ok h
  obtain rfl : statements = statements' := Except.ok.inj (hread.symm.trans hread')
  have hmembers := (Compiled.members_yields 0 _).of_gives hgives
  have hsound : ∀ draft ∈ statements.map (Statement.draft config), Compiled.Sound draft := by
    intro draft hdraft
    obtain ⟨s, hs, rfl⟩ := List.mem_map.1 hdraft
    exact Statement.sound_draft hconfig (hplain s hs)
  rw [hcompiled]
  exact hmembers.placeholders hsound

theorem placeholders_relabeling :
    Token.placeholders "UPDATE words SET kind = $1 WHERE id = $2" = ["$1", "$2"] := by
  have hplain : ∀ s ∈ [Statement.update (relabelingUpdate "noun" 7)], s.Plain := by
    intro s hs
    obtain rfl := List.mem_singleton.1 hs
    exact plain_relabelingUpdate "noun" 7
  have h := placeholders_build (read_relabeling "noun" 7) Config.plain_default hplain
    build_relabeling_noun
  exact h

/-! ## Texts -/

/-- Values do not get into the text: two schemas that are equal but for the values that they bind
compile to the same text, with equally many values. -/
theorem query_build_eq (hread : verb.read schema = .ok statements)
    (hread' : verb.read schema' = .ok statements')
    (hshape : List.Forall₂ Statement.SameShape statements statements')
    (h : (build config verb schema).result = .ok compiled)
    (h' : (build config verb schema').result = .ok compiled') :
    compiled.query = compiled'.query ∧ compiled.values.length = compiled'.values.length := by
  obtain ⟨_, texts, hread₁, hgives, hcompiled⟩ := build_ok h
  obtain ⟨_, texts', hread₂, hgives', hcompiled'⟩ := build_ok h'
  obtain rfl := Except.ok.inj (hread.symm.trans hread₁)
  obtain rfl := Except.ok.inj (hread'.symm.trans hread₂)
  have hdrafts : List.Forall₂ (Draft.Agree Eq) (statements.map (Statement.draft config))
      (statements'.map (Statement.draft config)) :=
    List.forall₂_map_left_iff.2 (List.forall₂_map_right_iff.2
      (hshape.imp fun _ _ => Statement.draft_agree config))
  -- Drafts that agree become the same texts, also as members of a batch.
  obtain ⟨rfl, hlength, -⟩ := Compiled.members_agree hdrafts 0 _ _ hgives.1 hgives'.1
  rw [hgives.2, hgives'.2] at hlength
  rw [hcompiled, hcompiled']
  exact ⟨rfl, hlength⟩

theorem query_relabeling_eq : ∃ compiled compiled',
    (build {} .update (relabeling "noun" 7)).result = .ok compiled ∧
      (build {} .update (relabeling "'; --" 8)).result = .ok compiled' ∧
      compiled.query = compiled'.query ∧ compiled.values.length = compiled'.values.length := by
  have hshape : List.Forall₂ Statement.SameShape [.update (relabelingUpdate "noun" 7)]
      [.update (relabelingUpdate "'; --" 8)] :=
    .cons (.update (sameShape_relabelingUpdate _ _ _ _)) .nil
  exact ⟨_, _, build_relabeling_noun, build_relabeling_quote,
    query_build_eq (read_relabeling _ _) (read_relabeling _ _) hshape build_relabeling_noun
      build_relabeling_quote⟩

end ParamSql
