import ParamSql.Proofs.Statement.Draft
import ParamSql.Proofs.Statement.InOrder

/-!
The members of a batch.

The account of a batch (`members`) writes every member behind the values of those before it, as
their runs on one context do (`texts_run`). `Members` derives the texts that drafts become so, and
the values that they bind.
-/

namespace ParamSql.Compiled

/-- The texts of drafts one behind the other, with `taken` parameters before them. -/
def members (taken : Nat) : List (Draft Sql) → Draft (List String)
  | [] => pure []
  | draft :: rest => do
    let sql ← draft
    let others ← members (taken + draft.bound.length) rest
    pure (Text.collapse (sql.write taken) :: others)

/-- Every text that drafts are run into is collapsed. -/
theorem collapsed_texts_run {drafts : List (Draft Sql)} {context : Context} {written : List String}
    (h : ((texts drafts).run context).result = .ok written) :
    ∀ t ∈ written, ∃ s, Text.collapse s = t := by
  induction drafts generalizing context written with
  | nil =>
    obtain rfl := Except.ok.inj h
    exact List.forall_mem_nil _
  | cons draft rest ih =>
    rw [texts, List.mapM_cons, bind_assoc] at h
    obtain ⟨sql, -, h⟩ := Draft.run_bind_eq_ok h
    rw [pure_bind] at h
    obtain ⟨others, hothers, h⟩ := Draft.run_bind_eq_ok h
    obtain rfl := Except.ok.inj h
    exact List.forall_mem_cons.2 ⟨⟨sql.text, rfl⟩, ih hothers⟩

theorem texts_follows {drafts : List (Draft Sql)} (h : ∀ draft ∈ drafts, draft.InOrder)
    (taken : Nat) :
    Draft.Follows taken (members taken drafts) (texts drafts) fun _ told given => given = told := by
  induction drafts generalizing taken with
  | nil => exact .pure' rfl
  | cons draft rest ih =>
    obtain ⟨hdraft, hrest⟩ := List.forall_mem_cons.1 h
    rw [members, texts, List.mapM_cons, bind_assoc]
    refine .bind' (hdraft taken).bound ?_
    rintro vs sql filled ⟨rfl, hfills⟩
    rw [pure_bind, hfills.filled, Sql.text_fill]
    refine (ih hrest _).bind_pure ?_
    rintro ws told _ rfl
    rfl

/-- Drafts in order, run one after another, give what their account tells. -/
theorem texts_run {drafts : List (Draft Sql)} (h : ∀ draft ∈ drafts, draft.InOrder)
    (context : Context) :
    let account := members context.values.length drafts
    (texts drafts).run context = ⟨context.append account.bound, account.notes, account.result⟩ := by
  intro account
  have hrun := (texts_follows h _ context rfl).eq (g := id) fun _ _ _ htold => htold
  rw [hrun]
  cases account.result <;> rfl

variable {config : Config} {verb : Verb}

/-- A statement alone is written from left to right. -/
theorem single_eq {draft : Draft Sql} (h : draft.InOrder) :
    single config verb draft =
      match draft.result with
      | .ok sql =>
        finish config verb (.started verb :: draft.notes)
          ⟨Text.collapse (sql.write 0), draft.bound, false⟩
      | .error e => ⟨.started verb :: draft.notes, .error e⟩ := by
  rw [single, h.run_eq]
  cases draft.result with
  | ok sql =>
    show finish config verb _ ⟨Text.collapse (sql.fill 0).text, [] ++ draft.bound, false⟩ = _
    rw [Sql.text_fill, List.nil_append]
  | error e => rfl

/-- The members of a batch are written one behind the other. -/
theorem batch_eq {drafts : List (Draft Sql)} (hne : drafts ≠ [])
    (h : ∀ draft ∈ drafts, draft.InOrder) :
    batch config verb drafts =
      match (members 0 drafts).result with
      | .ok texts =>
        finish config verb (.startedBatch verb drafts.length :: (members 0 drafts).notes)
          ⟨Text.collapse (";".intercalate texts), (members 0 drafts).bound, true⟩
      | .error e =>
        ⟨.startedBatch verb drafts.length :: (members 0 drafts).notes, .error e⟩ := by
  have hrun : (texts drafts).run (.empty true) = _ := texts_run h (.empty true)
  rw [batch, if_neg (by rwa [List.isEmpty_iff]), hrun]
  change (match (members 0 drafts).result with | .ok _ => _ | .error _ => _) = _
  cases (members 0 drafts).result <;> rfl

/-- A compiled batch is the texts that its drafts are run into, with semicolons between them. -/
theorem batch_eq_ok {drafts : List (Draft Sql)} {compiled : Compiled}
    (h : (batch config verb drafts).result = .ok compiled) :
    ∃ written, ((texts drafts).run (.empty true)).result = .ok written ∧
      compiled.query = Text.collapse (";".intercalate written) := by
  rw [batch] at h
  split at h
  · cases h
  · dsimp only at h
    split at h
    · next written hrun =>
      obtain rfl := Except.ok.inj h
      exact ⟨written, hrun, rfl⟩
    · cases h

/-- The values that drafts bind and the texts that they become one behind the other, with `taken`
parameters before them. -/
inductive Members : Nat → List (Draft Sql) → List Value → List String → Prop where
  | nil {taken : Nat} : Members taken [] [] []
  | cons {taken : Nat} {draft : Draft Sql} {rest : List (Draft Sql)} {vs ws : List Value}
    {sql : Sql} {texts : List String} (hdraft : draft.Gives vs sql)
    (hrest : Members (taken + vs.length) rest ws texts) :
    Members taken (draft :: rest) (vs ++ ws) (Text.collapse (sql.write taken) :: texts)

variable {taken : Nat} {drafts : List (Draft Sql)} {vs : List Value} {texts : List String}

theorem members_yields (taken : Nat) (drafts : List (Draft Sql)) :
    (members taken drafts).Yields (Members taken drafts) := by
  induction drafts generalizing taken with
  | nil => exact .pure' .nil
  | cons draft rest ih =>
    rw [members]
    refine (Draft.yields_gives draft).bind' fun vs sql hdraft => ?_
    refine (ih _).bind_pure fun ws texts hrest => ?_
    rw [hdraft.2] at hrest
    exact .cons hdraft hrest

theorem Members.collapsed (h : Members taken drafts vs texts) :
    ∀ t ∈ texts, Text.Collapsed t.toList := by
  induction h with
  | nil => exact List.forall_mem_nil _
  | cons _ _ ih => exact List.forall_mem_cons.2 ⟨Text.collapsed_collapse _, ih⟩

/-- Every fragment that the draft can become is numbered, with one hole for each bound value. -/
def Sound (draft : Draft Sql) : Prop :=
  draft.Yields fun vs sql => sql.Numbered vs.length

theorem Members.clear (h : Members taken drafts vs texts)
    (hdrafts : ∀ draft ∈ drafts, Sound draft) : ∀ t ∈ texts, Token.Clear t := by
  induction h with
  | nil => exact List.forall_mem_nil _
  | @cons taken draft rest _ _ _ _ hdraft _ ih =>
    obtain ⟨hfirst, hrest⟩ := List.forall_mem_cons.1 hdrafts
    exact List.forall_mem_cons.2 ⟨(hfirst.of_gives hdraft).clear taken, ih hrest⟩

theorem Members.flatMap_placeholders (h : Members taken drafts vs texts)
    (hdrafts : ∀ draft ∈ drafts, Sound draft) :
    texts.flatMap Token.placeholders = (List.range' (taken + 1) vs.length).map Sql.placeholder := by
  induction h with
  | nil => rfl
  | @cons taken draft rest vs ws sql texts hdraft _ ih =>
    obtain ⟨hfirst, hrest⟩ := List.forall_mem_cons.1 hdrafts
    have hsql := hfirst.of_gives hdraft
    -- The numbers of the rest go on where those of the first statement end.
    rw [List.flatMap_cons, hsql.placeholders, ih hrest, ← List.map_append, List.length_append,
      Nat.add_right_comm taken, List.range'_append_1]

/-- The placeholders of numbered members go on from one member to the next. -/
theorem Members.placeholders (h : Members taken drafts vs texts)
    (hdrafts : ∀ draft ∈ drafts, Sound draft) :
    Token.placeholders (";".intercalate texts) =
      (List.range' (taken + 1) vs.length).map Sql.placeholder := by
  rw [Token.placeholders_intercalate (h.clear hdrafts), h.flatMap_placeholders hdrafts]

/-- Drafts that agree become the same texts. -/
theorem members_agree {drafts drafts' : List (Draft Sql)}
    (h : List.Forall₂ (Draft.Agree Eq) drafts drafts') (taken : Nat) :
    Draft.Agree Eq (members taken drafts) (members taken drafts') := by
  induction h generalizing taken with
  | nil => exact .refl _
  | cons hdraft _ ih =>
    rw [members, members]
    refine .bind' hdraft ?_
    rintro sql _ rfl hlength
    rw [hlength]
    exact .bind_eq (ih _) fun texts => .refl _

end ParamSql.Compiled
