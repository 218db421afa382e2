import ParamSql.Proofs.Clause.Assignment
import ParamSql.Proofs.Clause.Join
import ParamSql.Proofs.Clause.Order
import ParamSql.Proofs.Sorting.Total

/-!
How clauses fail.

`Refuses x post` says of every failure of the draft `x` that `post` holds of the error. Conditions,
orders and assignments fail with a fault of their clause. So do tables, with one exception: the
alias of a verbatim query that is no text is used as a name (`Table.reference_misnamed`).
-/

namespace ParamSql

inductive Error.IsFault : Error → Prop where
  | fault (name : ClauseName) (cause : ClauseFault) (path : List String) :
    IsFault (.clause name cause path)

namespace Draft

variable {α β : Type}

/-- One draft after another fails where the first of them that fails does. -/
theorem bind_result_eq_error_iff {x : Draft α} {f : α → Draft β} {e : Error} :
    (x >>= f).result = .error e ↔
      x.result = .error e ∨ ∃ a, x.result = .ok a ∧ (f a).result = .error e := by
  cases hx : x.result with
  | error e' => simp [bind_result_error hx]
  | ok a => simp [bind_result_ok hx]

/-- Drafts in a row fail with the error of one of them if all before it succeed. -/
theorem mapM_result_eq_error_iff {f : α → Draft β} {as : List α} {e : Error} :
    (as.mapM f).result = .error e ↔ ∃ before a after, as = before ++ a :: after ∧
      (∀ b ∈ before, ∃ c, (f b).result = .ok c) ∧ (f a).result = .error e := by
  induction as with
  | nil =>
    constructor
    · intro h
      cases h
    · rintro ⟨before, a, after, has, -⟩
      simp at has
  | cons a rest ih =>
    rw [List.mapM_cons, bind_result_eq_error_iff]
    constructor
    · rintro (ha | ⟨b, hb, h⟩)
      · exact ⟨[], a, rest, rfl, nofun, ha⟩
      · rcases bind_result_eq_error_iff.1 h with hrest | ⟨bs, -, hpure⟩
        · obtain ⟨before, a', after, rfl, hbefore, ha'⟩ := ih.1 hrest
          exact ⟨a :: before, a', after, rfl, List.forall_mem_cons.2 ⟨⟨b, hb⟩, hbefore⟩, ha'⟩
        · cases hpure
    · rintro ⟨before, a', after, has, hbefore, ha'⟩
      rcases List.cons_eq_append_iff.1 has with ⟨rfl, hcons⟩ | ⟨before', rfl, hrest⟩
      · obtain ⟨rfl, rfl⟩ := List.cons.inj hcons
        exact .inl ha'
      · obtain ⟨⟨b, hb⟩, hbefore'⟩ := List.forall_mem_cons.1 hbefore
        have herror := ih.2 ⟨before', a', after, hrest, hbefore', ha'⟩
        exact .inr ⟨b, hb, bind_result_error herror⟩

/-- Whenever the draft fails, `post` holds of the error. -/
def Refuses (x : Draft α) (post : Error → Prop) : Prop :=
  ∀ e, x.result = .error e → post e

namespace Refuses

variable {x : Draft α} {f : α → Draft β} {post : Error → Prop}

theorem ok {a : α} (hx : x.result = .ok a) : Refuses x post := by
  intro e h
  rw [hx] at h
  cases h

theorem pure' (a : α) : Refuses (pure a) post :=
  ok rfl

theorem fault (clause : ClauseName) (cause : ClauseFault) (path : List String) :
    Refuses (Draft.fault clause cause path : Draft α) Error.IsFault := by
  intro e h
  obtain rfl := Except.error.inj h
  exact .fault clause cause path

theorem mono {mid : Error → Prop} (hx : Refuses x mid) (h : ∀ e, mid e → post e) :
    Refuses x post :=
  fun e he => h e (hx e he)

theorem bind' (hx : Refuses x post) (hf : ∀ a, Refuses (f a) post) : Refuses (x >>= f) post := by
  intro e h
  rcases bind_result_eq_error_iff.1 h with herror | ⟨a, -, ha⟩
  · exact hx e herror
  · exact hf a e ha

theorem mapM {f : α → Draft β} {as : List α} (h : ∀ a ∈ as, Refuses (f a) post) :
    Refuses (as.mapM f) post := by
  intro e he
  obtain ⟨before, a, after, rfl, -, ha⟩ := mapM_result_eq_error_iff.1 he
  exact h a (by simp) e ha

end Refuses

end Draft

/-! ## Conditions and orders -/

namespace Clause

variable {clause : ClauseName} {path : KeyPath} {key value : Value}

theorem operand_refuses {isKeyword : String → Bool} :
    (operand clause isKeyword path key).Refuses Error.IsFault := by
  rw [operand]
  split
  · split
    · exact .fault _ _ _
    · exact .pure' _
  · exact .fault _ _ _

theorem commaList_refuses : (commaList clause path key value).Refuses Error.IsFault := by
  cases value <;> first | exact .pure' _ | exact .fault _ _ _

theorem rawQuery_refuses : (rawQuery clause path value).Refuses Error.IsFault := by
  cases value with
  | text s => exact .pure' _
  | constant c => exact .pure' _
  | mapping es =>
    rw [rawQuery]
    split
    · exact .bind' (.ok rfl) fun _ => .pure' _
    · exact .fault _ _ _
  | _ => exact .fault _ _ _

theorem Walk.entries_refuses {κ : Type} [Keyword κ] {w : Walk κ}
    (h : ∀ path name key value keyword,
      (w.operator path name key value keyword).Refuses Error.IsFault)
    (path : KeyPath) (es : List (Value × Value)) : (w.entries path es).Refuses Error.IsFault := by
  induction es using Value.entries_induction generalizing path with
  | nil =>
    rw [entries]
    exact .pure' _
  | cons key value rest ihvalue ihrest =>
    rw [entries]
    refine .bind' ?_ fun here => (ihrest path).bind' fun others => .pure' _
    cases w.entryCase key value with
    | unset hset =>
      rw [entry_unset hset]
      exact .pure' _
    | keyNotText hset hkey =>
      rw [entry_keyNotText hset hkey]
      exact .fault _ _ _
    | nested hname hnests hvalue =>
      subst hvalue
      rw [entry_nested hname hnests]
      exact (ihvalue _ rfl _).bind' fun fragments => .pure' _
    | own hname hown =>
      rw [entry_own hname hown]
      exact h _ _ _ _ _

theorem ofSpec_refuses {walk : List (Value × Value) → Draft (List Sql)}
    (hwalk : ∀ es, (walk es).Refuses Error.IsFault) (spec : Value) :
    (ofSpec clause walk path spec).Refuses Error.IsFault := by
  rw [ofSpec.eq_def]
  split
  · exact .pure' _
  · split
    · exact .pure' _
    · exact .pure' _
    · exact hwalk _
    · exact .fault _ _ _

end Clause

namespace Where

theorem operator_refuses (path : KeyPath) (name : String) (key value : Value) (rule : Rule) :
    (operator path name key value rule).Refuses Error.IsFault := by
  cases rule with
  | group joiner => exact .fault _ _ _
  | column => exact .bind' (.ok rfl) fun _ => .pure' _
  | membership =>
    refine Clause.operand_refuses.bind' fun column => Clause.commaList_refuses.bind' fun list => ?_
    exact .bind' (.ok rfl) fun _ => .pure' _
  | nullTest =>
    refine Clause.operand_refuses.bind' fun column => ?_
    split <;> exact .pure' _
  | substring =>
    refine Clause.operand_refuses.bind' fun column => ?_
    split <;> first
      | exact .fault _ _ _
      | exact .bind' (.ok rfl) fun _ => .pure' _
  | verbatim =>
    refine Clause.operand_refuses.bind' fun column => ?_
    exact Clause.rawQuery_refuses.bind' fun _ => .pure' _

theorem condition_refuses (spec : Value) : (condition spec).Refuses Error.IsFault := by
  refine .bind' (Clause.ofSpec_refuses (fun es => ?_) spec) fun fragments => .pure' _
  rw [entries_eq]
  refine walk.entries_refuses (fun path name key value keyword => ?_) .root es
  exact (operator_refuses _ _ _ _ _).bind' fun _ => .pure' _

theorem clause_refuses (spec : Value) : (clause spec).Refuses Error.IsFault :=
  (condition_refuses spec).bind' fun _ => .pure' _

end Where

namespace Order

theorem operator_refuses (path : KeyPath) (name : String) (key value : Value) (rule : Rule) :
    (operator path name key value rule).Refuses Error.IsFault := by
  cases rule with
  | column => exact .pure' _
  | expression =>
    rw [operator]
    split
    · exact .pure' _
    · exact .fault _ _ _
  | direction =>
    rw [operator]
    split
    · exact .pure' _
    · exact .fault _ _ _
  | ranking =>
    refine Clause.operand_refuses.bind' fun column => ?_
    split
    · exact .bind' (.ok rfl) fun _ => .pure' _
    · exact Clause.commaList_refuses.bind' fun list => .bind' (.ok rfl) fun _ => .pure' _

theorem entries_refuses (path : KeyPath) (es : List (Value × Value)) :
    (entries path es).Refuses Error.IsFault := by
  rw [entries_eq]
  exact walk.entries_refuses (fun _ _ _ _ _ => operator_refuses _ _ _ _ _) path es

theorem plainTerm_refuses (spec : Value) : (plainTerm spec).Refuses Error.IsFault :=
  .bind' (Clause.ofSpec_refuses (entries_refuses .root) spec) fun _ => .pure' _

theorem term_refuses (spec : Value) : (term spec).Refuses Error.IsFault := by
  rw [term.eq_def]
  split
  · split
    · exact plainTerm_refuses _
    · dsimp only
      split
      · exact .fault _ _ _
      · refine (entries_refuses _ _).bind' fun expression => ?_
        split
        · exact .pure' _
        · exact (entries_refuses _ _).bind' fun last => .pure' _
  · exact plainTerm_refuses _

theorem clause_refuses (spec : Value) : (clause spec).Refuses Error.IsFault :=
  .bind' (.mapM fun spec _ => term_refuses spec) fun _ => .pure' _

end Order

/-! ## Assignments -/

theorem Assignment.values_refuses (es : List (String × Value)) :
    (values (Spec.mapping es).toValue).Refuses Error.IsFault := by
  cases hcolumns : columns es with
  | nil =>
    rw [values_eq, hcolumns]
    exact .pure' _
  | cons column rest =>
    exact .ok (values_gives (by rw [hcolumns]; exact List.cons_ne_nil _ _)).1

theorem Assignment.set_refuses (es : List (String × Value)) :
    (set (Spec.mapping es).toValue).Refuses Error.IsFault := by
  cases hcolumns : columns es with
  | nil =>
    rw [set_eq, hcolumns]
    exact .fault _ _ _
  | cons column rest =>
    exact .ok (set_gives (by rw [hcolumns]; exact List.cons_ne_nil _ _)).1

/-! ## Tables -/

namespace Table

theorem sortKeys?_texts (names : List String) :
    ∃ sorted, Value.sortKeys? (names.map .text) = some sorted := by
  have hcomparable : Sorting.Comparable Value.precedes? fun key => ∃ s, key = .text s := by
    rintro _ _ ⟨s, rfl⟩ ⟨t, rfl⟩
    exact ⟨decide (s < t), by simp [Value.precedes?, Value.text?], trivial⟩
  have hnames : ∀ key ∈ names.map Value.text, ∃ s, key = .text s := by
    intro key hkey
    obtain ⟨s, -, rfl⟩ := List.mem_map.1 hkey
    exact ⟨s, rfl⟩
  obtain ⟨sorted, hsorted, -⟩ := Sorting.sort?_succeeds hcomparable hnames
  exact ⟨sorted, hsorted⟩

/-- Keys that are texts can always be sorted for a message. -/
theorem sortedKeys_texts (names : List String) :
    ∃ sorted, sortedKeys (names.map .text) = pure sorted := by
  obtain ⟨sorted, hsorted⟩ := sortKeys?_texts names
  exact ⟨sorted, by rw [sortedKeys, hsorted]⟩

theorem keys_textEntries (es : List (String × Value)) :
    (Spec.textEntries es).map Prod.fst = (es.map Prod.fst).map .text := by
  rw [Spec.textEntries, List.map_map, List.map_map]
  rfl

theorem unexpected_eq (es : List (String × Value)) :
    ((Spec.textEntries es).map Prod.fst).filter isUnexpected =
      ((es.map Prod.fst).filter fun name => name != rawKey && name != aliasKey).map .text := by
  rw [keys_textEntries, List.filter_map]
  rfl

theorem unexpected_isEmpty_iff (es : List (String × Value)) :
    (((Spec.textEntries es).map Prod.fst).filter isUnexpected).isEmpty = true ↔
      ∀ e ∈ es, e.1 = rawKey ∨ e.1 = aliasKey := by
  rw [unexpected_eq]
  simp [List.filter_eq_nil_iff, or_iff_not_imp_left]

/-- The table is a verbatim query whose alias counts as true and is no text. -/
inductive Misnamed : Spec → Value → Prop where
  | raw {es : List (String × Value)} {query name : Value} {sql : Sql}
    (hquery : Value.lookupText rawKey (Spec.textEntries es) = some query)
    (hkeys : ∀ e ∈ es, e.1 = rawKey ∨ e.1 = aliasKey)
    (hsql : (Clause.rawQuery .from .root query).result = .ok sql)
    (hname : Value.lookupText aliasKey (Spec.textEntries es) = some name)
    (htrue : name.isTrue = true) (htext : name.text? = none) : Misnamed (.mapping es) name

/-- How a table fails: with a fault, or because of its alias. -/
def Refusal (spec : Spec) (e : Error) : Prop :=
  e.IsFault ∨ ∃ v, Misnamed spec v ∧ e = .misuse (.notName v)

theorem sortedKeys_fault_refuses (names : List String) (cause : List Value → ClauseFault) :
    (sortedKeys (names.map .text) >>= fun keys =>
      (.fault .from (cause keys) [] : Draft Sql)).Refuses Error.IsFault := by
  obtain ⟨sorted, hsorted⟩ := sortedKeys_texts names
  rw [hsorted, pure_bind]
  exact .fault _ _ _

/-- A step that names something fails if there is no text to name it by. -/
theorem nameOf_bind_error {name : Value} {f : String → Draft Sql} {e : Error}
    (h : (nameOf name >>= f).result = .error e) (hf : ∀ s, (f s).Refuses fun _ => False) :
    name.text? = none ∧ e = .misuse (.notName name) := by
  rcases Draft.bind_result_eq_error_iff.1 h with hname | ⟨s, -, hs⟩
  · rw [nameOf] at hname
    cases htext : name.text? with
    | some s =>
      rw [htext] at hname
      cases hname
    | none =>
      rw [htext] at hname
      exact ⟨rfl, (Except.error.inj hname).symm⟩
  · exact (hf s e hs).elim

theorem verbatim_refuses {es : List (String × Value)} {query : Value}
    (hquery : Value.lookupText rawKey (Spec.textEntries es) = some query) :
    (verbatim query (Spec.textEntries es)).Refuses (Refusal (.mapping es)) := by
  rw [verbatim]
  dsimp only
  split
  · next hempty =>
    have hkeys := (unexpected_isEmpty_iff es).1 hempty
    intro e h
    rcases Draft.bind_result_eq_error_iff.1 h with hraw | ⟨sql, hsql, h⟩
    · exact .inl (Clause.rawQuery_refuses _ hraw)
    · split at h
      · next htrue =>
        cases hname : Value.lookupText aliasKey (Spec.textEntries es) with
        | none =>
          rw [hname] at htrue
          cases htrue
        | some name =>
          rw [hname, Option.getD_some] at h htrue
          obtain ⟨htext, rfl⟩ := nameOf_bind_error h fun _ => .pure' _
          exact .inr ⟨name, .raw hquery hkeys hsql hname htrue htext, rfl⟩
      · cases h
  · rw [unexpected_eq]
    exact (sortedKeys_fault_refuses _ _).mono fun _ => .inl

theorem aliased_refuses (name : String) (table : Value) :
    (aliased (.text name) table).Refuses Error.IsFault := by
  rw [aliased]
  split
  · exact .pure' _
  · exact .fault _ _ _

theorem reference_refuses (spec : Spec) : (reference spec.toValue).Refuses (Refusal spec) := by
  rcases spec with s | es
  · show (if Text.isBlank s then .fault .from .blankTable []
      else pure (.verbatim (Identifier.snake s)) : Draft Sql).Refuses _
    split
    · exact (Draft.Refuses.fault _ _ _).mono fun _ => .inl
    · exact .pure' _
  · show (reference (.mapping (Spec.textEntries es))).Refuses _
    cases hraw : Value.lookupText rawKey (Spec.textEntries es) with
    | some query =>
      rw [reference_raw hraw]
      exact verbatim_refuses hraw
    | none =>
      refine Draft.Refuses.mono ?_ fun _ => .inl
      -- Only a single entry gives an alias.
      rcases es with _ | ⟨⟨name, table⟩, _ | ⟨e, rest⟩⟩
      · rw [reference_ambiguous hraw (by simp [Spec.textEntries]), keys_textEntries]
        exact sortedKeys_fault_refuses _ _
      · rw [Spec.textEntries, List.map_cons, List.map_nil] at hraw ⊢
        rw [reference_alias hraw]
        exact aliased_refuses name table
      · rw [reference_ambiguous hraw (by simp [Spec.textEntries]), keys_textEntries]
        exact sortedKeys_fault_refuses _ _

theorem reference_misnamed {spec : Spec} {v : Value} (h : Misnamed spec v) :
    (reference spec.toValue).result = .error (.misuse (.notName v)) := by
  cases h with
  | @raw es query name sql hquery hkeys hsql hname htrue htext =>
    show (reference (.mapping (Spec.textEntries es))).result = _
    have hempty := (unexpected_isEmpty_iff es).2 hkeys
    rw [reference_raw hquery, verbatim]
    dsimp only
    rw [if_pos hempty, Draft.bind_result_ok hsql, hname, Option.getD_some, if_pos htrue, nameOf,
      htext]
    rfl

end Table

/-! ## Joins -/

namespace Join

theorem on_refuses (join : Join) : join.on.Refuses Error.IsFault := by
  rw [on]
  split
  · exact .pure' _
  · exact .pure' _
  · exact Where.condition_refuses _
  · exact Where.condition_refuses _

theorem clause_refuses (join : Join) : join.clause.Refuses (Table.Refusal join.table) := by
  refine (Table.reference_refuses join.table).bind' fun table => ?_
  refine ((on_refuses join).bind' fun condition => ?_).mono fun _ => .inl
  split
  · exact .fault _ _ _
  · exact .pure' _

end Join

end ParamSql
