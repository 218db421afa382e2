import ParamSql.Proofs.Clause.Order
import ParamSql.Proofs.Clause.Refusal
import ParamSql.Proofs.Sql.Text

/-!
Where the directions of a sort term stand.

The fragments of a term are written in the order of its entries, from the outside in; only a `sort`
beside the other entries of the term is moved behind them (`Term`). So a direction stands behind an
expression unless the first entry with something to see is a direction (`led_iff`), and that can
only be a `sort` further in, or one behind blank names.
-/

namespace ParamSql.Order

/-! ## Parts of a term -/

/-- A fragment of a term, and the keyword of the entry that it comes from. -/
structure Part where
  keyword : Option OrderKeyword
  sql : Sql

/-- The fragments of entries, each with the keyword that it comes from. -/
inductive Emits : KeyPath → List (Value × Value) → List Part → Prop where
  | nil {path : KeyPath} : Emits path [] []
  | unset {path : KeyPath} {key value : Value} {rest : List (Value × Value)} {ps : List Part}
    (hset : value.isUnset = true) (hrest : Emits path rest ps) :
    Emits path ((key, value) :: rest) ps
  | nested {path : KeyPath} {key : Value} {name : String} {es rest : List (Value × Value)}
    {ps qs : List Part} (hname : key.text? = some name)
    (hnests : nests (key.keyword? OrderKeyword) = true) (hes : Emits (path.descend name) es ps)
    (hrest : Emits path rest qs) :
    Emits path ((key, .mapping es) :: rest) (ps ++ qs)
  | own {path : KeyPath} {key value : Value} {name : String} {rest : List (Value × Value)}
    {vs : List Value} {fs : List Sql} {ps : List Part} (hname : key.text? = some name)
    (hown : Clause.Own nests key value)
    (hatom : Atom (path.descend name) name value (key.keyword? OrderKeyword) vs fs)
    (hrest : Emits path rest ps) :
    Emits path ((key, value) :: rest) (fs.map (Part.mk (key.keyword? OrderKeyword)) ++ ps)

variable {path : KeyPath} {key value : Value} {es : List (Value × Value)} {parts : List Part}

theorem map_sql_mk (keyword : Option OrderKeyword) (fs : List Sql) :
    (fs.map (Part.mk keyword)).map Part.sql = fs := by
  rw [List.map_map]
  exact List.map_id fs

theorem exists_emits {vs : List Value} {fs : List Sql} (h : walk.Compiles path es vs fs) :
    ∃ parts, Emits path es parts ∧ parts.map Part.sql = fs := by
  induction h with
  | nil => exact ⟨[], .nil, rfl⟩
  | unset hset _ ih =>
    obtain ⟨ps, hps, hsql⟩ := ih
    exact ⟨ps, .unset hset hps, hsql⟩
  | nested hname hnests _ _ ihes ihrest =>
    obtain ⟨ps, hps, rfl⟩ := ihes
    obtain ⟨qs, hqs, rfl⟩ := ihrest
    exact ⟨ps ++ qs, .nested hname hnests hps hqs, List.map_append⟩
  | @own _ key _ _ _ _ _ fs _ hname hown hgives _ ih =>
    obtain ⟨ps, hps, rfl⟩ := ih
    have hatom := (operator_yields _).of_gives hgives
    refine ⟨fs.map (Part.mk (key.keyword? OrderKeyword)) ++ ps, .own hname hown hatom hps, ?_⟩
    rw [List.map_append, map_sql_mk]

theorem entries_emits (path : KeyPath) (es : List (Value × Value)) :
    (entries path es).Yields fun _ fs =>
      ∃ parts, Emits path es parts ∧ parts.map Part.sql = fs := by
  rw [entries_eq]
  exact (walk.entries_yields path es).mono fun _ _ => exists_emits

/-! ## What comes first -/

/-- Each direction has an expression before it that is not blank. -/
def Led (parts : List Part) : Prop :=
  ∀ before part after, parts = before ++ part :: after → part.keyword = some .direction →
    ∃ other ∈ before, other.keyword ≠ some .direction ∧ other.sql.Visible

/-- What comes first in a term, blanks aside. -/
inductive Lead where
  | nothing
  | blank
  | expression
  | direction
  deriving DecidableEq, Repr

namespace Lead

/-- What comes first of two parts of a term. -/
def andThen : Lead → Lead → Lead
  | nothing, next => next
  | blank, nothing => blank
  | blank, next => next
  | lead, _ => lead

theorem andThen_assoc (a b c : Lead) : (a.andThen b).andThen c = a.andThen (b.andThen c) := by
  cases a <;> cases b <;> cases c <;> rfl

theorem andThen_nothing (a : Lead) : a.andThen nothing = a := by
  cases a <;> rfl

/-- What comes first if a direction is put behind; without anything in front it is not. -/
def directed : Lead → Lead
  | nothing => nothing
  | lead => lead.andThen direction

theorem directed_of_ne {lead : Lead} (h : lead ≠ nothing) :
    lead.directed = lead.andThen direction := by
  cases lead <;> first
    | rfl
    | exact absurd rfl h

def ofText (s : String) : Lead :=
  if Text.isBlank s then blank else expression

end Lead

def Part.lead (part : Part) : Lead :=
  if part.keyword = some .direction then .direction
  else if part.sql.isBlankBy Text.isBlank then .blank
  else .expression

def leadOf : List Part → Lead
  | [] => .nothing
  | part :: rest => part.lead.andThen (leadOf rest)

theorem leadOf_append (ps qs : List Part) :
    leadOf (ps ++ qs) = (leadOf ps).andThen (leadOf qs) := by
  induction ps with
  | nil => rfl
  | cons part rest ih => rw [List.cons_append, leadOf, leadOf, ih, Lead.andThen_assoc]

theorem led_nil : Led [] := by
  intro before part after h
  simp at h

theorem led_cons {part : Part} {rest : List Part} :
    Led (part :: rest) ↔ part.keyword ≠ some .direction ∧ (part.sql.Visible ∨ Led rest) := by
  constructor
  · intro h
    -- Nothing stands before the first part, so that it is no direction.
    have hpart : part.keyword ≠ some .direction := by
      intro hdirection
      obtain ⟨other, hother, -⟩ := h [] part rest rfl hdirection
      cases hother
    refine ⟨hpart, ?_⟩
    by_cases hvisible : part.sql.Visible
    · exact .inl hvisible
    · refine .inr fun before other after hrest hdirection => ?_
      obtain ⟨found, hmem, hfound⟩ :=
        h (part :: before) other after (congrArg (part :: ·) hrest) hdirection
      rcases List.mem_cons.1 hmem with rfl | hbefore
      · exact absurd hfound.2 hvisible
      · exact ⟨found, hbefore, hfound⟩
  · rintro ⟨hpart, hrest⟩ before other after h hdirection
    cases before with
    | nil =>
      obtain ⟨rfl, -⟩ := List.cons.inj h
      exact absurd hdirection hpart
    | cons first before =>
      obtain ⟨rfl, htail⟩ := List.cons.inj h
      rcases hrest with hvisible | hrest
      · exact ⟨part, List.mem_cons_self, hpart, hvisible⟩
      · obtain ⟨found, hmem, hfound⟩ := hrest before other after htail hdirection
        exact ⟨found, List.mem_cons_of_mem _ hmem, hfound⟩

theorem led_iff_leadOf (parts : List Part) : Led parts ↔ leadOf parts ≠ .direction := by
  induction parts with
  | nil => simp [led_nil, leadOf]
  | cons part rest ih =>
    rw [led_cons, ih, leadOf, Part.lead, Sql.Visible]
    by_cases hpart : part.keyword = some .direction
    · simp [hpart, Lead.andThen]
    · cases part.sql.isBlankBy Text.isBlank <;> cases leadOf rest <;> simp [hpart, Lead.andThen]

/-! ## What comes first of the entries -/

/-- What comes first of an entry that is not gone through further. -/
def ownLead (key value : Value) : Lead :=
  match key.keyword? OrderKeyword with
  | some .direction => .direction
  | some .expression => .ofText (Identifier.snake (value.text?.getD ""))
  | some .ranking => if value.isNull then .nothing else .expression
  | none => .ofText (Identifier.snake (key.text?.getD ""))

mutual

def lead : List (Value × Value) → Lead
  | [] => .nothing
  | (key, value) :: rest => (entryLead key value).andThen (lead rest)

/-- What comes first of an entry; an entry that is `unset` has nothing. -/
def entryLead (key value : Value) : Lead :=
  if value.isUnset then .nothing
  else
    match nests (key.keyword? OrderKeyword), value with
    | true, .mapping es => lead es
    | _, value => ownLead key value

end

theorem entryLead_unset (h : value.isUnset = true) : entryLead key value = .nothing := by
  rw [entryLead.eq_def, if_pos h]

theorem entryLead_nested (h : nests (key.keyword? OrderKeyword) = true) :
    entryLead key (.mapping es) = lead es := by
  have hset : (Value.mapping es).isUnset = false := rfl
  rw [entryLead.eq_def, hset, if_neg Bool.false_ne_true, h]

theorem entryLead_own (h : Clause.Own nests key value) :
    entryLead key value = ownLead key value := by
  obtain ⟨hset, hvalue⟩ := h
  rw [entryLead.eq_def, hset, if_neg Bool.false_ne_true]
  split
  · next es hnests => exact absurd (hnests.symm.trans (hvalue es rfl)) (by decide)
  · rfl

theorem leadOf_verbatim {keyword : Option OrderKeyword} (h : keyword ≠ some .direction)
    (s : String) : leadOf [⟨keyword, .verbatim s⟩] = .ofText s := by
  rw [leadOf, leadOf, Lead.andThen_nothing, Part.lead, if_neg h, Lead.ofText]
  simp [Sql.isBlankBy, Sql.verbatim]

/-- The fragments of an entry show what comes first of it. -/
theorem Atom.leadOf_eq {name : String} {vs : List Value} {fs : List Sql}
    (hname : key.text? = some name)
    (h : Atom path name value (key.keyword? OrderKeyword) vs fs) :
    leadOf (fs.map (Part.mk (key.keyword? OrderKeyword))) = ownLead key value := by
  rw [ownLead]
  generalize key.keyword? OrderKeyword = keyword at h
  cases h with
  | @expression s hs =>
    rw [hs]
    exact leadOf_verbatim (by simp) (Identifier.snake s)
  | direction => rfl
  | unranked hnull =>
    dsimp only
    rw [if_pos hnull]
    rfl
  | @ranking column _ hvalue =>
    have hvisible : (Dialect.listPosition column .hole).Visible :=
      (Sql.visible_verbatim rfl).append_left
    dsimp only
    rw [hvalue, if_neg Bool.false_ne_true, List.map_singleton, leadOf, leadOf,
      Lead.andThen_nothing, Part.lead, if_neg (by simp), hvisible, if_neg Bool.false_ne_true]
  | column =>
    rw [hname]
    exact leadOf_verbatim (by simp) (Identifier.snake name)

theorem Emits.leadOf_eq (h : Emits path es parts) : leadOf parts = lead es := by
  induction h with
  | nil => rw [lead, leadOf]
  | unset hset _ ih => rw [lead, entryLead_unset hset, ih, Lead.andThen]
  | nested _ hnests _ _ ihes ihrest =>
    rw [leadOf_append, lead, entryLead_nested hnests, ihes, ihrest]
  | own hname hown hatom _ ih =>
    rw [leadOf_append, lead, entryLead_own hown, hatom.leadOf_eq hname, ih]

/-! ## Terms -/

/-- The parts of a term, in the order in which they are written: those of its entries, or those of
the entries besides its direction and then the direction. Without the former the term is left
out. -/
inductive Term (es : List (Value × Value)) : List Part → Prop where
  | plain {ps : List Part} (h : givenDirection? es = none) (hes : Emits .root es ps) : Term es ps
  | silent {direction : Value} (h : givenDirection? es = some direction)
    (hes : Emits .root (withoutDirection es) []) : Term es []
  | directed {direction : Value} {d : SortDirection} {ps : List Part}
    (h : givenDirection? es = some direction) (hd : direction? direction = some d)
    (hes : Emits .root (withoutDirection es) ps) (hne : ps ≠ []) :
    Term es (ps ++ [⟨some .direction, .verbatim d.text⟩])

def termLead (es : List (Value × Value)) : Lead :=
  match givenDirection? es with
  | none => lead es
  | some _ => (lead (withoutDirection es)).directed

theorem leadOf_ne_nothing (h : parts ≠ []) : leadOf parts ≠ .nothing := by
  obtain ⟨part, rest, rfl⟩ := List.exists_cons_of_ne_nil h
  rw [leadOf, Part.lead]
  split
  · simp [Lead.andThen]
  · split <;> cases leadOf rest <;> simp [Lead.andThen]

theorem Term.leadOf_eq (h : Term es parts) : leadOf parts = termLead es := by
  rw [termLead]
  cases h with
  | plain h hes => rw [h, hes.leadOf_eq]
  | silent h hes =>
    rw [h, ← hes.leadOf_eq]
    rfl
  | directed h hd hes hne =>
    rw [h, leadOf_append, ← hes.leadOf_eq]
    exact (Lead.directed_of_ne (leadOf_ne_nothing hne)).symm

def written (parts : List Part) : Sql :=
  Sql.joined " " (parts.map Part.sql)

theorem isUnset_of_givenDirection? {direction : Value} (h : givenDirection? es = some direction) :
    direction.isUnset = false := by
  obtain ⟨-, hset⟩ := Option.filter_eq_some_iff.1 h
  simpa using hset

/-- A direction that is given is one part. -/
theorem Emits.direction {direction : Value} (hset : direction.isUnset = false)
    (h : Emits path [(.text OrderKeyword.direction.text, direction)] parts) :
    ∃ d, direction? direction = some d ∧ parts = [⟨some .direction, .verbatim d.text⟩] := by
  have hkeyword : (Value.text OrderKeyword.direction.text).keyword? OrderKeyword =
      some .direction := keyword?_direction rfl
  cases h with
  | unset hunset _ => rw [hset] at hunset; cases hunset
  | nested _ hnests _ _ => rw [hkeyword] at hnests; cases hnests
  | own _ _ hatom hrest =>
    rw [hkeyword] at hatom
    cases hatom with
    | @direction d hd =>
      cases hrest
      exact ⟨d, hd, rfl⟩

theorem term_yields (es : List (Value × Value)) :
    (term (.mapping es)).Yields fun _ sql => ∃ parts, Term es parts ∧ sql = written parts := by
  cases hdirection : givenDirection? es with
  | none =>
    rw [term, hdirection]
    refine (entries_emits .root es).bind_pure fun _ fs h => ?_
    obtain ⟨parts, hparts, rfl⟩ := h
    exact ⟨parts, .plain hdirection hparts, rfl⟩
  | some direction =>
    rw [term_mapping hdirection]
    split
    · exact .fault _ _ _
    · refine (entries_emits .root _).bind' fun _ fs h => ?_
      obtain ⟨parts, hparts, rfl⟩ := h
      split
      · next hempty =>
        obtain rfl := List.map_eq_nil_iff.1 (List.isEmpty_iff.1 hempty)
        exact .pure' ⟨[], .silent hdirection hparts, rfl⟩
      · next hne =>
        have hparts_ne : parts ≠ [] := by
          rintro rfl
          exact hne rfl
        refine (entries_emits .root _).bind' fun _ last hlast => .pure' ?_
        obtain ⟨_, hdirections, rfl⟩ := hlast
        obtain ⟨d, hd, rfl⟩ := hdirections.direction (isUnset_of_givenDirection? hdirection)
        refine ⟨_, .directed hdirection hd hparts hparts_ne, ?_⟩
        rw [written, List.map_append]

/-! ## Tidy terms -/

/-- No entry gives a direction, at any depth, and no name to order by is blank. -/
inductive Tidy : List (Value × Value) → Prop where
  | nil : Tidy []
  | unset {key value : Value} {rest : List (Value × Value)} (hset : value.isUnset = true)
    (hrest : Tidy rest) : Tidy ((key, value) :: rest)
  | nested {key : Value} {es rest : List (Value × Value)}
    (hnests : nests (key.keyword? OrderKeyword) = true) (hes : Tidy es) (hrest : Tidy rest) :
    Tidy ((key, .mapping es) :: rest)
  | own {key value : Value} {rest : List (Value × Value)} (hown : Clause.Own nests key value)
    (hdirection : ownLead key value ≠ .direction) (hblank : ownLead key value ≠ .blank)
    (hrest : Tidy rest) : Tidy ((key, value) :: rest)

theorem Tidy.lead_eq (h : Tidy es) : lead es = .nothing ∨ lead es = .expression := by
  induction h with
  | nil => exact .inl (by rw [lead])
  | unset hset _ ih =>
    rw [lead, entryLead_unset hset]
    exact ih
  | nested hnests _ _ ihes ihrest =>
    rw [lead, entryLead_nested hnests]
    rcases ihes with h | h <;> rw [h]
    · exact ihrest
    · exact .inr rfl
  | @own key value _ hown hdirection hblank _ ih =>
    rw [lead, entryLead_own hown]
    cases hlead : ownLead key value with
    | nothing => exact ih
    | expression => exact .inr rfl
    | blank => exact absurd hlead hblank
    | direction => exact absurd hlead hdirection

/-- The entries of a term besides its direction, if it has one. -/
def besides (es : List (Value × Value)) : List (Value × Value) :=
  if (givenDirection? es).isSome then withoutDirection es else es

theorem Tidy.termLead_ne (h : Tidy (besides es)) : termLead es ≠ .direction := by
  have hlead := h.lead_eq
  rw [besides] at hlead
  rw [termLead]
  cases hdirection : givenDirection? es with
  | none =>
    rw [hdirection] at hlead
    rcases hlead with hlead | hlead <;> exact fun h => nomatch hlead.symm.trans h
  | some direction =>
    rw [hdirection] at hlead
    rcases hlead with hlead | hlead <;>
      · intro h
        simp_all [Lead.directed, Lead.andThen]

/-! ## The clause -/

/-- The clause of terms with these parts; terms without text are left out. -/
def clauseOf (terms : List (List Part)) : Sql :=
  let body := Sql.joined ", " (Sql.nonEmpty (terms.map written))
  if body.isEmpty then .empty else .verbatim "ORDER BY " ++ body

theorem exists_terms {ess : List (List (Value × Value))} {vs : List Value} {sqls : List Sql}
    (h : Draft.Joint (fun es _ sql => ∃ parts, Term es parts ∧ sql = written parts) ess vs sqls) :
    ∃ terms, List.Forall₂ Term ess terms ∧ sqls = terms.map written := by
  induction h with
  | nil => exact ⟨[], .nil, rfl⟩
  | cons hterm _ ih =>
    obtain ⟨parts, hparts, rfl⟩ := hterm
    obtain ⟨terms, hterms, rfl⟩ := ih
    exact ⟨parts :: terms, .cons hparts hterms, rfl⟩

theorem clause_yields {spec : Value} {ess : List (List (Value × Value))}
    (h : specs spec = ess.map .mapping) :
    (clause spec).Yields fun _ sql =>
      ∃ terms, List.Forall₂ Term ess terms ∧ sql = clauseOf terms := by
  rw [clause, h, List.mapM_map]
  refine (Draft.Yields.mapM fun es _ => term_yields es).bind_pure fun _ sqls hsqls => ?_
  obtain ⟨terms, hterms, rfl⟩ := exists_terms hsqls
  exact ⟨terms, hterms, rfl⟩

theorem clause_directionAlone {spec : Value} {before after : List (List (Value × Value))}
    (h : specs spec = (before ++ es :: after).map .mapping)
    (hbefore : ∀ b ∈ before, ∃ sql, (term (.mapping b)).result = .ok sql)
    (hsome : (givenDirection? es).isSome) (hnone : withoutDirection es = []) :
    (clause spec).result = .error (.clause .orderBy .directionAlone []) := by
  obtain ⟨direction, hdirection⟩ := Option.isSome_iff_exists.1 hsome
  have halone : (term (.mapping es)).result = .error (.clause .orderBy .directionAlone []) := by
    rw [term_mapping hdirection, hnone]
    rfl
  rw [clause, h, List.mapM_map]
  exact Draft.bind_result_error
    (Draft.mapM_result_eq_error_iff.2 ⟨before, es, after, rfl, hbefore, halone⟩)

/-- Which directions of an order of mappings follow an expression. If the order compiles, each
direction of a term has an expression before it that is not blank, unless a direction is what comes
first of the term. That is never so if the only direction stands at the first level and no name is
blank, whatever the order of the keys. A direction without anything to order by is refused where the
terms before it compile. -/
theorem led_iff {spec : Value} {ess : List (List (Value × Value))}
    (hspecs : specs spec = ess.map .mapping) :
    (∀ sql, (clause spec).result = .ok sql →
      ∃ terms, List.Forall₂ Term ess terms ∧ sql = clauseOf terms ∧
        List.Forall₂ (fun es parts => Led parts ↔ termLead es ≠ .direction) ess terms) ∧
    (∀ es ∈ ess, Tidy (besides es) → termLead es ≠ .direction) ∧
    (∀ before es after, ess = before ++ es :: after →
      (∀ b ∈ before, ∃ sql, (term (.mapping b)).result = .ok sql) →
        (givenDirection? es).isSome → withoutDirection es = [] →
          (clause spec).result = .error (.clause .orderBy .directionAlone [])) := by
  refine ⟨fun sql h => ?_, fun es _ => Tidy.termLead_ne, fun before es after hess => ?_⟩
  · obtain ⟨terms, hterms, hsql⟩ := clause_yields hspecs sql h
    refine ⟨terms, hterms, hsql, hterms.imp fun es parts hparts => ?_⟩
    rw [led_iff_leadOf, hparts.leadOf_eq]
  · exact clause_directionAlone (hess ▸ hspecs)

/-- Orders words by their names, the direction first. -/
def descending : List (Value × Value) :=
  [(.text "sort", .text "DESC"), (.text "by", .text "name")]

def directionBelow : List (Value × Value) :=
  [(.text "by", .mapping [(.text "sort", .text "ASC")])]

theorem led_descending : ∃ terms, (clauseOf terms).write 0 = "ORDER BY name DESC" ∧
    ∀ parts ∈ terms, Led parts := by
  have hspecs : specs (.mapping descending) = [descending].map .mapping := rfl
  have hcompiles : (clause (.mapping descending)).result =
      .ok (.verbatim "ORDER BY " ++ Sql.joined " " [.verbatim "name", .verbatim "DESC"]) := rfl
  obtain ⟨hled, htidy, -⟩ := led_iff hspecs
  obtain ⟨terms, hterms, hsql, hiff⟩ := hled _ hcompiles
  have hlead : termLead descending ≠ .direction := by
    apply htidy descending (List.mem_singleton_self _)
    exact .own ⟨rfl, fun _ h => nomatch h⟩ (by decide) (by decide) .nil
  refine ⟨terms, ?_, fun parts hparts => ?_⟩
  · rw [← hsql]
    rfl
  · obtain - | ⟨hparts', ⟨⟩⟩ := hiff
    obtain rfl := List.mem_singleton.1 hparts
    exact hparts'.2 hlead

/-- A direction further in is not moved behind an expression, and not refused either. -/
theorem unled_directionBelow :
    (clause (.mapping directionBelow)).result = .ok (.verbatim "ORDER BY " ++ .verbatim "ASC") ∧
      ∃ parts, Term directionBelow parts ∧ written parts = .verbatim "ASC" ∧ ¬ Led parts := by
  have hown : Clause.Own nests (.text "sort") (.text "ASC") := ⟨rfl, fun _ h => nomatch h⟩
  have hatom : Atom ((KeyPath.root.descend "by").descend "sort") "sort" (.text "ASC")
      (some .direction) [] [.verbatim "ASC"] := .direction (d := .asc) rfl
  have hbelow : Emits (KeyPath.root.descend "by") [(.text "sort", .text "ASC")]
      [⟨some .direction, .verbatim "ASC"⟩] := Emits.own rfl hown hatom .nil
  have hemits : Emits .root directionBelow [⟨some .direction, .verbatim "ASC"⟩] :=
    Emits.nested rfl rfl hbelow .nil
  refine ⟨rfl, _, .plain rfl hemits, rfl, fun hled => ?_⟩
  obtain ⟨hkeyword, -⟩ := led_cons.1 hled
  exact hkeyword rfl

end ParamSql.Order
