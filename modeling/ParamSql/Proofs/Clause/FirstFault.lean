import ParamSql.Proofs.Clause.Refusal
import ParamSql.Proofs.Clause.Stack

/-!
The first fault of a condition and of an order.

`FirstFault` follows the keys of a specification in depth-first order to the first place at fault:
every entry before it compiles. It is the place that the error names (`build_first_fault`), and the
stack of keys is as it was. What an operator refuses is listed for each keyword (`Where.Refused`,
`Order.Refused`).
-/

namespace ParamSql

/-! ## Faults of one draft after another -/

namespace Draft

variable {α β : Type} {clause : ClauseName} {cause : ClauseFault} {path : List String} {e : Error}

theorem fault_result_eq_error_iff :
    (Draft.fault clause cause path : Draft α).result = .error e ↔ e = .clause clause cause path :=
  ⟨fun h => (Except.error.inj h).symm, fun h => congrArg Except.error h.symm⟩

/-- What succeeds is at fault for nothing. -/
theorem error_iff_of_ok {x : Draft α} {a : α} {p : Prop} (hx : x.result = .ok a) (hp : ¬ p) :
    x.result = .error e ↔ p := by
  refine iff_of_false (fun h => ?_) hp
  rw [hx] at h
  cases h

/-- Later steps that cannot fail add no error. -/
theorem bind_result_eq_error_iff_left {x : Draft α} {f : α → Draft β}
    (hf : ∀ a, ∃ b, (f a).result = .ok b) :
    (x >>= f).result = .error e ↔ x.result = .error e := by
  rw [bind_result_eq_error_iff]
  refine ⟨?_, .inl⟩
  rintro (h | ⟨a, -, ha⟩)
  · exact h
  · obtain ⟨b, hb⟩ := hf a
    rw [hb] at ha
    cases ha

end Draft

namespace Clause

variable {clause : ClauseName} {path : KeyPath} {name : String} {key value : Value} {e : Error}

/-! ## The place of the first fault -/

section FirstFault

variable {κ : Type} [Keyword κ]

/-- The keys that lead from a mapping at a path to its first fault, and the cause. `nests` tells
below which keys mappings are gone through, `compiles` which entries compile, and `refused` what is
wrong with an entry that is not gone through further. -/
inductive FirstFault (nests : Option κ → Bool) (compiles : KeyPath → Value → Value → Prop)
    (refused : KeyPath → Value → Value → Option κ → ClauseFault → Prop) :
    KeyPath → List (Value × Value) → List String → ClauseFault → Prop where
  /-- A given entry has a key that is no text; the fault is that of the mapping. -/
  | key {path : KeyPath} {key value : Value} {rest : List (Value × Value)}
    (hset : value.isUnset = false) (hkey : key.text? = none) :
    FirstFault nests compiles refused path ((key, value) :: rest) [] (.keyNotText key)
  /-- The operator of an entry refuses it; the keys go as far as the operator. -/
  | operator {path : KeyPath} {key value : Value} {name : String} {rest : List (Value × Value)}
    {cause : ClauseFault} (hname : key.text? = some name) (hown : Own nests key value)
    (hrefused : refused path key value (key.keyword? κ) cause) :
    FirstFault nests compiles refused path ((key, value) :: rest) [name] cause
  /-- The mapping below a key has a fault. -/
  | nested {path : KeyPath} {key : Value} {name : String} {es rest : List (Value × Value)}
    {keys : List String} {cause : ClauseFault} (hname : key.text? = some name)
    (hnests : nests (key.keyword? κ) = true)
    (hes : FirstFault nests compiles refused (path.descend name) es keys cause) :
    FirstFault nests compiles refused path ((key, .mapping es) :: rest) (name :: keys) cause
  /-- The first entry compiles, and one of the others has a fault. -/
  | later {path : KeyPath} {key value : Value} {rest : List (Value × Value)} {keys : List String}
    {cause : ClauseFault} (hhere : compiles path key value)
    (hrest : FirstFault nests compiles refused path rest keys cause) :
    FirstFault nests compiles refused path ((key, value) :: rest) keys cause

/-- The keys that lead from a specification to its first fault, and the cause: a specification of
the wrong kind is itself at fault, a mapping where its entries are. -/
inductive SpecFault (entries : List (Value × Value) → List String → ClauseFault → Prop) :
    Value → List String → ClauseFault → Prop where
  | unsupported {spec : Value} (htext : spec.text? = none) (hnull : spec ≠ .null)
    (hunset : spec ≠ .unset) (hmapping : ∀ es, spec ≠ .mapping es) :
    SpecFault entries spec [] (.unsupported spec)
  | entries {es : List (Value × Value)} {keys : List String} {cause : ClauseFault}
    (hes : entries es keys cause) : SpecFault entries (.mapping es) keys cause

variable {w : Walk κ} {compiles : KeyPath → Value → Value → Prop}
  {refused : KeyPath → Value → Value → Option κ → ClauseFault → Prop}

theorem Walk.entries_cons_error_iff {rest : List (Value × Value)} :
    (w.entries path ((key, value) :: rest)).result = .error e ↔
      (w.entry path key value).result = .error e ∨
        (∃ fs, (w.entry path key value).result = .ok fs) ∧
          (w.entries path rest).result = .error e := by
  have hlast : ∀ here : List Sql, ((w.entries path rest >>= fun others =>
      pure (here ++ others) : Draft (List Sql)).result = .error e ↔
        (w.entries path rest).result = .error e) := fun here =>
    Draft.bind_result_eq_error_iff_left fun others => ⟨_, rfl⟩
  rw [entries, Draft.bind_result_eq_error_iff]
  simp only [hlast, exists_and_right]

section Iff

variable (hcompiles : ∀ path key value,
    compiles path key value ↔ ∃ fs, (w.entry path key value).result = .ok fs)
  (hrefused : ∀ path name key value e,
    (w.operator (path.descend name) name key value (key.keyword? κ)).result = .error e ↔
      ∃ cause, refused path key value (key.keyword? κ) cause ∧
        e = .clause w.clause cause (path.keys ++ [name]))

include hcompiles hrefused

/-- Wherever a mapping is first at fault, the walk through it fails. -/
theorem FirstFault.entries_error {es : List (Value × Value)} {keys : List String}
    {cause : ClauseFault}
    (h : FirstFault w.nests compiles refused path es keys cause) :
    (w.entries path es).result = .error (.clause w.clause cause (path.keys ++ keys)) := by
  induction h with
  | @key path key value rest hset hkey =>
    refine Walk.entries_cons_error_iff.2 (.inl ?_)
    rw [Walk.entry_keyNotText hset hkey, List.append_nil]
    rfl
  | operator hname hown hfault =>
    refine Walk.entries_cons_error_iff.2 (.inl ?_)
    rw [Walk.entry_own hname hown]
    exact (hrefused _ _ _ _ _).2 ⟨_, hfault, rfl⟩
  | nested hname hnests _ ih =>
    refine Walk.entries_cons_error_iff.2 (.inl ?_)
    rw [Walk.entry_nested hname hnests]
    refine Draft.bind_result_eq_error_iff.2 (.inl (ih.trans ?_))
    rw [KeyPath.descend, List.append_assoc, List.singleton_append]
  | later hhere _ ih => exact Walk.entries_cons_error_iff.2 (.inr ⟨(hcompiles _ _ _).1 hhere, ih⟩)

/-- A walk that fails does so with the first fault of the mapping. -/
theorem Walk.firstFault_of_error
    {es : List (Value × Value)} (h : (w.entries path es).result = .error e) :
    ∃ keys cause, FirstFault w.nests compiles refused path es keys cause ∧
      e = .clause w.clause cause (path.keys ++ keys) := by
  induction es using Value.entries_induction generalizing path with
  | nil =>
    rw [entries] at h
    cases h
  | cons key value rest ihvalue ihrest =>
    rcases Walk.entries_cons_error_iff.1 h with hentry | ⟨hhere, hothers⟩
    · cases w.entryCase key value with
      | unset hset =>
        rw [entry_unset hset] at hentry
        cases hentry
      | keyNotText hset hkey =>
        rw [entry_keyNotText hset hkey] at hentry
        refine ⟨[], _, .key hset hkey, ?_⟩
        rw [List.append_nil]
        exact Draft.fault_result_eq_error_iff.1 hentry
      | @nested name es hname hnests hvalue =>
        subst hvalue
        rw [entry_nested hname hnests,
          Draft.bind_result_eq_error_iff_left fun fs => ⟨_, rfl⟩] at hentry
        obtain ⟨keys, cause, hfault, rfl⟩ := ihvalue es rfl hentry
        refine ⟨name :: keys, cause, .nested hname hnests hfault, ?_⟩
        rw [KeyPath.descend, List.append_assoc, List.singleton_append]
      | @own name hname hown =>
        rw [entry_own hname hown] at hentry
        obtain ⟨cause, hfault, rfl⟩ := (hrefused _ _ _ _ _).1 hentry
        exact ⟨[name], cause, .operator hname hown hfault, rfl⟩
    · obtain ⟨keys, cause, hfault, rfl⟩ := ihrest hothers
      exact ⟨keys, cause, .later ((hcompiles _ _ _).2 hhere) hfault, rfl⟩

theorem Walk.entries_error_iff (path : KeyPath) (es : List (Value × Value)) :
    (w.entries path es).result = .error e ↔
      ∃ keys cause, FirstFault w.nests compiles refused path es keys cause ∧
        e = .clause w.clause cause (path.keys ++ keys) := by
  refine ⟨firstFault_of_error hcompiles hrefused, ?_⟩
  rintro ⟨keys, cause, hfault, rfl⟩
  exact hfault.entries_error hcompiles hrefused

end Iff

theorem ofSpec_error_iff {walk : List (Value × Value) → Draft (List Sql)}
    {entries : List (Value × Value) → List String → ClauseFault → Prop}
    (hwalk : ∀ es, (walk es).result = .error e ↔
      ∃ keys cause, entries es keys cause ∧ e = .clause clause cause (path.keys ++ keys))
    (spec : Value) :
    (ofSpec clause walk path spec).result = .error e ↔
      ∃ keys cause, SpecFault entries spec keys cause ∧
        e = .clause clause cause (path.keys ++ keys) := by
  constructor
  · intro h
    rw [ofSpec.eq_def] at h
    split at h
    · cases h
    · next htext =>
      split at h
      · cases h
      · cases h
      · obtain ⟨keys, cause, hes, rfl⟩ := (hwalk _).1 h
        exact ⟨keys, cause, .entries hes, rfl⟩
      · next hnull hunset hmapping =>
        refine ⟨[], _, .unsupported htext hnull hunset hmapping, ?_⟩
        rw [List.append_nil]
        exact Draft.fault_result_eq_error_iff.1 h
  · rintro ⟨keys, cause, hfault, rfl⟩
    cases hfault with
    | unsupported htext hnull hunset hmapping =>
      rw [ofSpec.eq_def, htext, List.append_nil]
      cases spec <;> first
        | exact (hnull rfl).elim
        | exact (hunset rfl).elim
        | exact (hmapping _ rfl).elim
        | rfl
    | entries hes => exact (hwalk _).2 ⟨keys, cause, hes, rfl⟩

end FirstFault

/-! ## What operators have in common -/

/-- The place of an operator: right below a key that is no keyword. -/
def UnderColumn (isKeyword : String → Bool) (path : KeyPath) : Prop :=
  ∃ column, path.column? = some column ∧ isKeyword column = false

/-- What is wrong with an operator that applies to the column above it, at the path of its mapping:
there is no such column, or there is and `wrong` says what is the matter with the value. -/
inductive OperatorFault (isKeyword : String → Bool) (wrong : ClauseFault → Prop) (path : KeyPath)
    (key : Value) : ClauseFault → Prop where
  | place (hplace : ¬ UnderColumn isKeyword path) :
    OperatorFault isKeyword wrong path key (.notUnderColumn key)
  | value {cause : ClauseFault} (hplace : UnderColumn isKeyword path) (hwrong : wrong cause) :
    OperatorFault isKeyword wrong path key cause

/-- The values that can be a comma-separated list. -/
inductive IsListing : Value → Prop where
  | text {value : Value} {s : String} (htext : value.text? = some s) : IsListing value
  | list (items : List Value) : IsListing (.list items)
  | tuple (items : List Value) : IsListing (.tuple items)

/-- What is wrong with a verbatim query. -/
inductive RawFault : Value → ClauseFault → Prop where
  | unsupported {value : Value} (htext : value.text? = none)
    (hmapping : ∀ es, value ≠ .mapping es) : RawFault value (.unsupportedRaw value)
  | invalid {es : List (Value × Value)} {issues : List Issue}
    (hcheck : RawQuery.check (.mapping es) = .invalid issues) :
    RawFault (.mapping es) (.invalidRaw issues)

theorem operand_of_underColumn {isKeyword : String → Bool} {column : String}
    (hcolumn : path.column? = some column) (hkeyword : isKeyword column = false) :
    operand clause isKeyword (path.descend name) key = pure (Identifier.snake column) := by
  have hparent : (path.descend name).parent? = some column :=
    (path.parent?_descend name).trans hcolumn
  rw [operand, hparent]
  exact if_neg (hkeyword ▸ Bool.false_ne_true)

theorem operand_of_not_underColumn {isKeyword : String → Bool}
    (h : ¬ UnderColumn isKeyword path) :
    operand clause isKeyword (path.descend name) key =
      .fault clause (.notUnderColumn key) (path.keys ++ [name]) := by
  have hparent : (path.descend name).parent? = path.column? := path.parent?_descend name
  rw [operand, hparent]
  cases hcolumn : path.column? with
  | none => rfl
  | some column =>
    cases hkeyword : isKeyword column with
    | true => exact if_pos hkeyword
    | false => exact absurd ⟨column, hcolumn, hkeyword⟩ h

/-- An operator fails without a column, and with one where the steps behind it do. -/
theorem operand_bind_error_iff {α : Type} {isKeyword : String → Bool} {f : String → Draft α}
    {wrong : ClauseFault → Prop}
    (hf : ∀ column, (f column).result = .error e ↔
      ∃ cause, wrong cause ∧ e = .clause clause cause (path.keys ++ [name])) :
    (operand clause isKeyword (path.descend name) key >>= f).result = .error e ↔
      ∃ cause, OperatorFault isKeyword wrong path key cause ∧
        e = .clause clause cause (path.keys ++ [name]) := by
  by_cases hplace : UnderColumn isKeyword path
  · obtain ⟨column, hcolumn, hkeyword⟩ := id hplace
    rw [operand_of_underColumn hcolumn hkeyword, pure_bind, hf]
    constructor
    · rintro ⟨cause, hwrong, he⟩
      exact ⟨cause, .value hplace hwrong, he⟩
    · rintro ⟨cause, hfault, he⟩
      cases hfault with
      | place h => exact absurd hplace h
      | value _ hwrong => exact ⟨cause, hwrong, he⟩
  · rw [operand_of_not_underColumn hplace]
    constructor
    · intro h
      exact ⟨_, .place hplace, Draft.fault_result_eq_error_iff.1 h⟩
    · rintro ⟨cause, hfault, rfl⟩
      cases hfault with
      | place => rfl
      | value h => exact absurd h hplace

theorem IsListing.commaList_eq (h : IsListing value) :
    commaList clause path key value = pure (commaText value) := by
  cases h with
  | text htext =>
    cases value <;> first
      | rfl
      | cases htext
  | list items => rfl
  | tuple items => rfl

theorem commaList_error_iff :
    (commaList clause path key value).result = .error e ↔
      ¬ IsListing value ∧ e = .clause clause (.expectsList key value) path.keys := by
  by_cases h : IsListing value
  · rw [h.commaList_eq]
    exact Draft.error_iff_of_ok rfl fun hfault => hfault.1 h
  · simp only [h, not_false_eq_true, true_and]
    cases value <;> first
      | exact (h (.text rfl)).elim
      | exact (h (.list _)).elim
      | exact (h (.tuple _)).elim
      | exact Draft.fault_result_eq_error_iff

theorem rawQuery_error_iff :
    (rawQuery clause path value).result = .error e ↔
      ∃ cause, RawFault value cause ∧ e = .clause clause cause path.keys := by
  constructor
  · intro h
    rw [rawQuery.eq_def] at h
    split at h
    · cases h
    · cases h
    · split at h
      · cases h
      · next issues hcheck => exact ⟨_, .invalid hcheck, Draft.fault_result_eq_error_iff.1 h⟩
    · next htext hconstant hmapping =>
      refine ⟨_, .unsupported ?_ hmapping, Draft.fault_result_eq_error_iff.1 h⟩
      cases value <;> first
        | exact (htext _ rfl).elim
        | exact (hconstant _ rfl).elim
        | rfl
  · rintro ⟨cause, hfault, rfl⟩
    cases hfault with
    | unsupported htext hmapping =>
      cases value <;> first
        | rfl
        | exact (hmapping _ rfl).elim
        | cases htext
    | invalid hcheck =>
      rw [rawQuery, hcheck]
      rfl

end Clause

/-! ## Conditions -/

namespace Where

variable {path : KeyPath} {name : String} {key value : Value} {e : Error}

/-- The values that are no search term. -/
inductive IsCollection : Value → Prop where
  | list (items : List Value) : IsCollection (.list items)
  | tuple (items : List Value) : IsCollection (.tuple items)
  | mapping (es : List (Value × Value)) : IsCollection (.mapping es)

/-- What is wrong with the value of an operator that stands under a column. -/
def Wrong (key value : Value) : WhereKeyword → ClauseFault → Prop
  | .membership, cause => ¬ Clause.IsListing value ∧ cause = .expectsList key value
  | .substring, cause => IsCollection value ∧ cause = .expectsTerm
  | .verbatim, cause => Clause.RawFault value cause
  | _, _ => False

/-- What is wrong with an entry that is not gone through further, at the path of its mapping: a
group that holds no mapping, or an operator. -/
def Refused (path : KeyPath) (key value : Value) : Option WhereKeyword → ClauseFault → Prop
  | none, _ => False
  | some .conjunction, cause | some .disjunction, cause => cause = .expectsMapping key
  | some k, cause => Clause.OperatorFault registry.isKeyword (Wrong key value k) path key cause

theorem operator_group_error_iff {joiner : String} :
    (operator (path.descend name) name key value (.group joiner)).result = .error e ↔
      ∃ cause, cause = ClauseFault.expectsMapping key ∧
        e = .clause .where cause (path.keys ++ [name]) := by
  rw [exists_eq_left]
  exact Draft.fault_result_eq_error_iff

theorem membership_error_iff {column : String} :
    (Clause.commaList .where (path.descend name) key value >>= fun list =>
      Draft.param list >>= fun parameter => pure (Dialect.inList (.verbatim column) parameter) :
      Draft Sql).result = .error e ↔
    ∃ cause, Wrong key value .membership cause ∧
      e = .clause .where cause (path.keys ++ [name]) := by
  rw [Draft.bind_result_eq_error_iff_left fun list => ⟨_, rfl⟩, Clause.commaList_error_iff]
  simp only [Wrong, and_assoc, exists_and_left, exists_eq_left]
  rfl

theorem nullTest_succeeds (value : Value) (column : String) :
    ∃ sql, (match value with
      | .bool false => pure (.verbatim (column ++ " IS NOT NULL"))
      | _ => pure (.verbatim (column ++ " IS NULL")) : Draft Sql).result = .ok sql := by
  split <;> exact ⟨_, rfl⟩

theorem substring_error_iff {column : String} :
    (match value with
      | .mapping _ | .list _ | .tuple _ => .fault .where .expectsTerm (path.keys ++ [name])
      | _ => Draft.param value >>= fun parameter =>
        pure (Dialect.contains (.verbatim column) parameter) : Draft Sql).result = .error e ↔
    ∃ cause, Wrong key value .substring cause ∧
      e = .clause .where cause (path.keys ++ [name]) := by
  simp only [Wrong, and_assoc, exists_and_left, exists_eq_left]
  split
  · exact Draft.fault_result_eq_error_iff.trans (and_iff_right (.mapping _)).symm
  · exact Draft.fault_result_eq_error_iff.trans (and_iff_right (.list _)).symm
  · exact Draft.fault_result_eq_error_iff.trans (and_iff_right (.tuple _)).symm
  · next hmapping hlist htuple =>
    refine Draft.error_iff_of_ok rfl fun h => ?_
    cases h.1 with
    | list items => exact hlist _ rfl
    | tuple items => exact htuple _ rfl
    | mapping es => exact hmapping _ rfl

theorem operator_error_iff (keyword : Option WhereKeyword) :
    (operator (path.descend name) name key value (Rule.of keyword)).result = .error e ↔
      ∃ cause, Refused path key value keyword cause ∧
        e = .clause .where cause (path.keys ++ [name]) := by
  rcases keyword with _ | k
  · refine Draft.error_iff_of_ok rfl ?_
    rintro ⟨_, hrefused, -⟩
    exact hrefused
  cases k with
  | conjunction => exact operator_group_error_iff
  | disjunction => exact operator_group_error_iff
  | membership => exact Clause.operand_bind_error_iff fun column => membership_error_iff
  | nullTest =>
    refine Clause.operand_bind_error_iff fun column => ?_
    obtain ⟨sql, hok⟩ := nullTest_succeeds value column
    refine Draft.error_iff_of_ok hok ?_
    rintro ⟨_, hwrong, -⟩
    exact hwrong
  | substring => exact Clause.operand_bind_error_iff fun column => substring_error_iff
  | verbatim =>
    refine Clause.operand_bind_error_iff fun column => ?_
    rw [Draft.bind_result_eq_error_iff_left fun query => ⟨_, rfl⟩]
    exact Clause.rawQuery_error_iff

/-- The keys that lead from a condition at a path to its first fault, and the cause. -/
def FirstFault (path : KeyPath) (spec : Value) : List String → ClauseFault → Prop :=
  Clause.SpecFault (Clause.FirstFault nests
    (fun path key value => ∃ fs, (entry path key value).result = .ok fs) Refused path) spec

theorem entry_walk (path : KeyPath) (key value : Value) :
    entry path key value = walk.entry path key value :=
  entry_eq fun es _ path => entries_eq path es

theorem fragments_error_iff (spec : Value) :
    (fragments path spec).result = .error e ↔ ∃ keys cause, FirstFault path spec keys cause ∧
      e = .clause .where cause (path.keys ++ keys) := by
  refine Clause.ofSpec_error_iff (fun es => ?_) spec
  rw [entries_eq]
  refine walk.entries_error_iff (fun path key value => by rw [entry_walk]) ?_ path es
  intro path name key value e
  exact (Draft.bind_result_eq_error_iff_left fun _ => ⟨_, rfl⟩).trans (operator_error_iff _)

end Where

/-! ## Orders -/

namespace Order

variable {path : KeyPath} {name : String} {key value : Value} {e : Error}

/-- What is wrong with an entry that is not gone through further, at the path of its mapping. -/
def Refused (path : KeyPath) (key value : Value) : Option OrderKeyword → ClauseFault → Prop
  | none, _ => False
  | some .expression, cause => value.text? = none ∧ cause = .expectsExpression
  | some .direction, cause => direction? value = none ∧ cause = .unknownDirection value
  | some .ranking, cause =>
    Clause.OperatorFault registry.isKeyword (fun cause =>
      value.isNull = false ∧ ¬ Clause.IsListing value ∧ cause = .expectsList key value)
      path key cause

theorem operator_error_iff (keyword : Option OrderKeyword) :
    (operator (path.descend name) name key value (Rule.of keyword)).result = .error e ↔
      ∃ cause, Refused path key value keyword cause ∧
        e = .clause .orderBy cause (path.keys ++ [name]) := by
  rcases keyword with _ | k
  · refine Draft.error_iff_of_ok rfl ?_
    rintro ⟨_, hrefused, -⟩
    exact hrefused
  cases k with
  | expression =>
    simp only [Rule.of, operator, Refused, and_assoc, exists_and_left, exists_eq_left]
    split
    · next s hs =>
      exact Draft.error_iff_of_ok rfl fun h => Option.some_ne_none s (hs.symm.trans h.1)
    · next hnone => exact Draft.fault_result_eq_error_iff.trans (and_iff_right hnone).symm
  | direction =>
    simp only [Rule.of, operator, Refused, and_assoc, exists_and_left, exists_eq_left]
    split
    · next d hd =>
      exact Draft.error_iff_of_ok rfl fun h => Option.some_ne_none d (hd.symm.trans h.1)
    · next hnone => exact Draft.fault_result_eq_error_iff.trans (and_iff_right hnone).symm
  | ranking =>
    refine Clause.operand_bind_error_iff fun column => ?_
    simp only [and_assoc, exists_and_left, exists_eq_left]
    split
    · exact Draft.error_iff_of_ok rfl fun h => absurd h.1 (by decide)
    · next hvalue =>
      rw [Draft.bind_result_eq_error_iff_left fun list => ⟨_, rfl⟩, Clause.commaList_error_iff]
      exact (and_iff_right (Value.isNull_eq_false hvalue)).symm

/-- The keys that lead from a term at a path to its first fault, and the cause. -/
def FirstFault (path : KeyPath) (spec : Value) : List String → ClauseFault → Prop :=
  Clause.SpecFault (Clause.FirstFault nests
    (fun path key value => ∃ fs, (entry path key value).result = .ok fs) Refused path) spec

theorem entry_walk (path : KeyPath) (key value : Value) :
    entry path key value = walk.entry path key value :=
  entry_eq fun es _ path => entries_eq path es

theorem fragments_error_iff (spec : Value) :
    (fragments path spec).result = .error e ↔ ∃ keys cause, FirstFault path spec keys cause ∧
      e = .clause .orderBy cause (path.keys ++ keys) := by
  refine Clause.ofSpec_error_iff (fun es => ?_) spec
  rw [entries_eq]
  exact walk.entries_error_iff (fun path key value => by rw [entry_walk])
    (fun path name key value e => operator_error_iff _) path es

end Order

/-! ## The first fault -/

/-- **The first fault.** Conditions and orders leave the stack of keys as it was, whether they
compile or not. They fail if and only if a place of the specification is at fault, and then with the
cause found at the first such place and the keys that lead to it, behind those of the stack. -/
theorem build_first_fault (spec : Value) (path : KeyPath) :
    (Where.build spec path = (path, Where.fragments path spec) ∧
      ∀ e, (Where.fragments path spec).result = .error e ↔
        ∃ keys cause, Where.FirstFault path spec keys cause ∧
          e = .clause .where cause (path.keys ++ keys)) ∧
    Order.build spec path = (path, Order.fragments path spec) ∧
      ∀ e, (Order.fragments path spec).result = .error e ↔
        ∃ keys cause, Order.FirstFault path spec keys cause ∧
          e = .clause .orderBy cause (path.keys ++ keys) :=
  ⟨⟨Where.build_eq spec path, fun _ => Where.fragments_error_iff spec⟩,
    Order.build_eq spec path, fun _ => Order.fragments_error_iff spec⟩

/-- The fault is three keys down, below those that the stack holds before. -/
example :
    (Where.build (.mapping [(.text "status", .int 1),
      (.text "or", .mapping [(.text "name", .mapping [(.text "raw", .int 5)])])])
        (KeyPath.root.descend "on")).2.result =
      .error (.clause .where (.unsupportedRaw (.int 5)) ["on", "or", "name", "raw"]) := by
  rfl

end ParamSql
