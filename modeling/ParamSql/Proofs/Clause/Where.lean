import ParamSql.Clause.Where
import ParamSql.Proofs.Clause.Plain
import ParamSql.Proofs.Clause.Shape

/-!
What a condition compiles to.

The entries of a condition are a walk (`entries_eq`), so what is known of walks holds of conditions
once it is known of the operators. The lemmas about whole specifications say which values a
condition binds, that a plain one is numbered, and that one of the same shape becomes the same text.
-/

namespace ParamSql.Where

/-! ## The walk through a condition -/

/-- What a keyword means, and what a key means that is none. -/
def Rule.of : Option WhereKeyword → Rule
  | some .conjunction => .group " AND "
  | some .disjunction => .group " OR "
  | some .membership => .membership
  | some .nullTest => .nullTest
  | some .substring => .substring
  | some .verbatim => .verbatim
  | none => .column

theorem rule_of_text {key : Value} {name : String} (h : key.text? = some name) :
    rule name = Rule.of (key.keyword? WhereKeyword) := by
  have hhandlers : registry.handlers = Keyword.all.map fun k => (k, Rule.of (some k)) := rfl
  rw [rule, Registry.handler?_of_map hhandlers h]
  cases key.keyword? WhereKeyword <;> rfl

/-- Mappings are gone through below columns and in groups. -/
def nests : Option WhereKeyword → Bool
  | none | some .conjunction | some .disjunction => true
  | _ => false

/-- What becomes of the conditions of a nested mapping: a group, or the conditions themselves. -/
def wrapped : Option WhereKeyword → List Sql → List Sql
  | some .conjunction => grouped " AND "
  | some .disjunction => grouped " OR "
  | _ => id

/-- Fragments stay as they are or become a group. -/
theorem wrapped_cases (keyword : Option WhereKeyword) (fs : List Sql) :
    wrapped keyword fs = fs ∨ ∃ joiner, wrapped keyword fs = grouped joiner fs := by
  rcases keyword with _ | k
  · exact .inl rfl
  · cases k with
    | conjunction => exact .inr ⟨_, rfl⟩
    | disjunction => exact .inr ⟨_, rfl⟩
    | _ => exact .inl rfl

def walk : Clause.Walk WhereKeyword where
  clause := .where
  nests := nests
  wrapped := wrapped
  operator path name key value keyword := do
    let fragment ← operator path name key value (Rule.of keyword)
    pure [fragment]

variable {path : KeyPath} {key value : Value} {name : String} {es : List (Value × Value)}

theorem entry_nested_eq (hes : ∀ path, entries path es = walk.entries path es)
    (hname : key.text? = some name) (hnests : walk.nests (key.keyword? WhereKeyword) = true) :
    entry path key (.mapping es) = walk.entry path key (.mapping es) := by
  have hset : (Value.mapping es).isUnset = false := rfl
  have hrule := rule_of_text hname
  rw [Clause.Walk.entry_nested hname hnests, entry, hset, if_neg Bool.false_ne_true, hname]
  generalize key.keyword? WhereKeyword = keyword at hnests hrule
  rcases keyword with _ | k
  · simp only [hrule, Rule.of, hes, walk, wrapped, id, bind_pure]
  · cases k with
    | conjunction => simp only [hrule, Rule.of, hes, walk, wrapped]
    | disjunction => simp only [hrule, Rule.of, hes, walk, wrapped]
    | _ => exact absurd hnests Bool.false_ne_true

theorem entry_own_eq (hname : key.text? = some name) (hown : Clause.Own walk.nests key value) :
    entry path key value = walk.entry path key value := by
  have hrule := rule_of_text hname
  rw [Clause.Walk.entry_own hname hown, entry, hown.1, if_neg Bool.false_ne_true, hname]
  have hvalue : ∀ es, value = .mapping es → nests (key.keyword? WhereKeyword) = false := hown.2
  generalize key.keyword? WhereKeyword = keyword at hvalue hrule
  cases value with
  | mapping es =>
    -- A mapping is left to the operator only below a keyword that does not nest.
    rcases keyword with _ | k
    · exact absurd (hvalue es rfl) (by decide)
    · cases k <;> first
        | exact absurd (hvalue es rfl) (by decide)
        | simp only [hrule, Rule.of, walk]
  | _ => rcases keyword with _ | k <;> [skip; cases k] <;> simp only [hrule, Rule.of, walk]

theorem entry_eq
    (hes : ∀ es, value = .mapping es → ∀ path, entries path es = walk.entries path es) :
    entry path key value = walk.entry path key value := by
  cases walk.entryCase key value with
  | unset hset => rw [Clause.Walk.entry_unset hset, entry, if_pos hset]
  | keyNotText hset hkey =>
    rw [Clause.Walk.entry_keyNotText hset hkey, entry, hset, if_neg Bool.false_ne_true, hkey]
    rfl
  | nested hname hnests hvalue =>
    subst hvalue
    exact entry_nested_eq (hes _ rfl) hname hnests
  | own hname hown => exact entry_own_eq hname hown

theorem entries_eq (path : KeyPath) (es : List (Value × Value)) :
    entries path es = walk.entries path es := by
  refine Clause.Walk.eq_entries ?_ ?_ (fun path key value => entry_eq) path es
  · intro path
    rw [entries]
  · intro path key value rest
    rw [entries]

/-! ## Operators -/

/-- What an operator binds and writes, by its keyword; without one it is the equality of a
column. -/
inductive Atom (path : KeyPath) (name : String) (value : Value) :
    Option WhereKeyword → List Value → Sql → Prop where
  | membership {column : String} (h : Clause.Operand path column) :
    Atom path name value (some .membership) [Clause.commaText value] (Dialect.inList column .hole)
  | nullTest {column test : String} (h : Clause.Operand path column)
    (htest : test = " IS NULL" ∨ test = " IS NOT NULL") :
    Atom path name value (some .nullTest) [] (.verbatim (column ++ test))
  | substring {column : String} (h : Clause.Operand path column) :
    Atom path name value (some .substring) [value] (Dialect.contains column .hole)
  | verbatim {column : String} {vs : List Value} {query : Sql} (h : Clause.Operand path column)
    (hquery : Clause.RawText value vs query) :
    Atom path name value (some .verbatim) vs (.verbatim (column ++ " = (") ++ query ++ ")")
  | column : Atom path name value none [value] (.verbatim (Identifier.snake name ++ " = ") ++ .hole)

theorem operator_yields (keyword : Option WhereKeyword) :
    (operator path name key value (Rule.of keyword)).Yields (Atom path name value keyword) := by
  rcases keyword with _ | k
  · exact .bind_param (.pure' .column)
  cases k with
  | conjunction => exact .fault _ _ _
  | disjunction => exact .fault _ _ _
  | membership =>
    refine Clause.operand_yields.bind_nil fun column hcolumn => ?_
    refine Clause.commaList_yields.bind_nil ?_
    rintro list rfl
    exact .bind_param (.pure' (.membership hcolumn))
  | nullTest =>
    refine Clause.operand_yields.bind_nil fun column hcolumn => ?_
    split
    · exact .pure' (.nullTest hcolumn (.inr rfl))
    · exact .pure' (.nullTest hcolumn (.inl rfl))
  | substring =>
    refine Clause.operand_yields.bind_nil fun column hcolumn => ?_
    split
    · exact .fault _ _ _
    · exact .fault _ _ _
    · exact .fault _ _ _
    · exact .bind_param (.pure' (.substring hcolumn))
  | verbatim =>
    refine Clause.operand_yields.bind_nil fun column hcolumn => ?_
    exact Clause.rawQuery_yields.bind_pure fun vs query hquery => .verbatim hcolumn hquery

theorem walk_operator_yields (keyword : Option WhereKeyword) :
    (walk.operator path name key value keyword).Yields fun vs fs =>
      ∃ f, fs = [f] ∧ Atom path name value keyword vs f := by
  exact (operator_yields keyword).bind_pure fun vs f hatom => ⟨f, rfl, hatom⟩

/-! ## Leaves -/

/-- The leaves of an entry that is not gone through further: a column holds one, and so does a
search term; a list is one text, a verbatim query has all of its values, and a test for null has
none. -/
def ownLeaves (value : Value) : Option WhereKeyword → List Value
  | some .membership => [Clause.commaText value]
  | some .nullTest => []
  | some .verbatim => Clause.rawValues value
  | _ => [value]

def leaves (es : List (Value × Value)) : List Value :=
  Clause.leaves nests ownLeaves es

theorem Atom.leaves_eq {keyword : Option WhereKeyword} {vs : List Value} {f : Sql}
    (h : Atom path name value keyword vs f) : vs = ownLeaves value keyword := by
  cases h with
  | verbatim _ hquery => exact hquery.values
  | _ => rfl

/-! ## Placeholders -/

/-- Verbatim queries are plain. -/
def OwnPlain (value : Value) : Option WhereKeyword → Prop
  | some .verbatim => Clause.PlainRaw value
  | _ => True

def Plain (es : List (Value × Value)) : Prop :=
  Clause.Plain nests OwnPlain es

theorem Atom.numbered {keyword : Option WhereKeyword} {vs : List Value} {f : Sql}
    (hpath : path.DollarFree) (hname : DollarFree name) (hvalue : OwnPlain value keyword)
    (h : Atom path name value keyword vs f) : f.Numbered vs.length := by
  cases h with
  | membership h =>
    exact Dialect.numbered_inList (Sql.numbered_verbatim (h.dollarFree hpath)) Sql.numbered_hole
  | nullTest h htest =>
    refine Sql.numbered_verbatim ((h.dollarFree hpath).append ?_)
    rcases htest with rfl | rfl <;> decide
  | substring h =>
    exact Dialect.numbered_contains (Sql.numbered_verbatim (h.dollarFree hpath)) Sql.numbered_hole
  | verbatim h hquery =>
    have hopen := (h.dollarFree hpath).append (t := " = (") (by decide)
    exact ((hquery.numbered hvalue).text_append hopen).append_text (by decide)
  | column =>
    exact Sql.numbered_hole.text_append ((Identifier.dollarFree_snake hname).append (by decide))

theorem numberedAll_grouped {joiner : String} {n : Nat} {fs : List Sql} (hjoiner : Sql.Stops joiner)
    (h : Sql.NumberedAll n fs) : Sql.NumberedAll n (grouped joiner fs) := by
  rw [grouped]
  split
  · next hempty =>
    rwa [List.isEmpty_iff.1 hempty] at h
  · exact Sql.numberedAll_singleton
      (((h.joined hjoiner).text_append (by decide)).append_text (by decide))

theorem numberedAll_wrapped (keyword : Option WhereKeyword) (n : Nat) (fs : List Sql)
    (h : Sql.NumberedAll n fs) : Sql.NumberedAll n (wrapped keyword fs) := by
  rcases keyword with _ | k
  · exact h
  · cases k with
    | conjunction => exact numberedAll_grouped (by decide) h
    | disjunction => exact numberedAll_grouped (by decide) h
    | _ => exact h

theorem walk_operator_numbered (path : KeyPath) (name : String) (key value : Value)
    (keyword : Option WhereKeyword) (hpath : path.DollarFree) (hname : DollarFree name)
    (hvalue : OwnPlain value keyword) : (walk.operator path name key value keyword).Yields
      fun vs fs => Sql.NumberedAll vs.length fs := by
  refine (walk_operator_yields keyword).mono ?_
  rintro vs _ ⟨f, rfl, hatom⟩
  exact Sql.numberedAll_singleton (hatom.numbered hpath hname hvalue)

/-! ## Shapes -/

/-- How two entries of the same shape may differ: a test for null in what is not `false`, a verbatim
query in its values, and everything else freely. -/
def OwnShape (value value' : Value) : Option WhereKeyword → Prop
  | some .nullTest => value = .bool false ↔ value' = .bool false
  | some .verbatim => Clause.RawShape value value'
  | _ => True

def SameShape (es es' : List (Value × Value)) : Prop :=
  Clause.SameShape nests OwnShape es es'

theorem operand_agree (key key' : Value) :
    Draft.Agree Eq (operand path key) (operand path key') :=
  Clause.operand_agree _ _ _

theorem operator_agree {key key' value value' : Value} {keyword : Option WhereKeyword}
    (h : OwnShape value value' keyword) :
    Draft.Agree Eq (operator path name key value (Rule.of keyword))
      (operator path name key' value' (Rule.of keyword)) := by
  rcases keyword with _ | k
  · exact .bind_eq (.param _ _) fun _ => .refl _
  cases k with
  | conjunction => exact .fail_left _ _
  | disjunction => exact .fail_left _ _
  | membership =>
    refine .bind_eq (operand_agree key key') fun column => ?_
    refine .bind' (Clause.commaList_agree key key' value value') fun list list' _ _ => ?_
    exact .bind_eq (.param _ _) fun _ => .refl _
  | nullTest =>
    refine .bind_eq (operand_agree key key') fun column => ?_
    -- Both tests are `IS NOT NULL` or both are `IS NULL`.
    have hfalse : value = .bool false ↔ value' = .bool false := h
    split
    · rw [hfalse.1 rfl]
      exact .refl _
    · next hvalue =>
      split
      · exact absurd (hfalse.2 rfl) hvalue
      · exact .refl _
  | substring =>
    refine .bind_eq (operand_agree key key') fun column => ?_
    cases value <;> first
      | exact .fail_left _ _
      | (cases value' <;> first
          | exact .fail_right _ _
          | exact .bind_eq (.param _ _) fun _ => .refl _)
  | verbatim =>
    refine .bind_eq (operand_agree key key') fun column => ?_
    exact .bind_eq (Clause.rawQuery_agree h) fun _ => .refl _

theorem walk_operator_agree (path : KeyPath) (name : String) (key key' value value' : Value)
    (keyword : Option WhereKeyword) (h : OwnShape value value' keyword) :
    Draft.Agree Eq (walk.operator path name key value keyword)
      (walk.operator path name key' value' keyword) :=
  .bind_eq (operator_agree h) fun _ => .refl _

/-! ## Specifications -/

def specLeaves (spec : Option Spec) : List Value :=
  Clause.specLeaves leaves spec

def PlainSpec (spec : Option Spec) : Prop :=
  Clause.PlainSpec Plain spec

def SpecShape (spec spec' : Option Spec) : Prop :=
  Clause.SpecShape SameShape spec spec'

theorem compiles_leaves {vs : List Value} {fs : List Sql} (h : walk.Compiles path es vs fs) :
    vs = leaves es := by
  refine h.leaves_eq fun path name key value keyword => (walk_operator_yields keyword).mono ?_
  rintro vs _ ⟨f, rfl, hatom⟩
  exact hatom.leaves_eq

theorem entries_binds_at (path : KeyPath) (es : List (Value × Value)) :
    (entries path es).Yields (BindsAll (leaves es) (path.DollarFree ∧ Plain es)) := by
  rw [entries_eq]
  refine (walk.entries_yields path es).mono fun vs fs h => ⟨compiles_leaves h, fun hplain => ?_⟩
  exact h.numbered numberedAll_wrapped walk_operator_numbered hplain.1 hplain.2

theorem entries_binds (es : List (Value × Value)) :
    (entries .root es).Yields (BindsAll (leaves es) (Plain es)) :=
  (entries_binds_at .root es).mono fun _ _ h =>
    ⟨h.values, fun hplain => h.numbered ⟨KeyPath.dollarFree_root, hplain⟩⟩

theorem fragments_numbered (path : KeyPath) (spec : Value) :
    (fragments path spec).Yields fun vs fs =>
      path.DollarFree → Clause.PlainValue Plain spec → Sql.NumberedAll vs.length fs := by
  refine (Clause.ofSpec_value_binds (entries_binds_at path) spec).mono fun vs fs h hpath hspec => ?_
  refine h.numbered ?_
  cases spec <;> first
    | exact hspec
    | exact ⟨hpath, hspec⟩

theorem condition_binds (spec : Option Spec) :
    (condition (optionValue Spec.toValue spec)).Yields
      (Binds (specLeaves spec) (PlainSpec spec)) := by
  refine (Clause.ofSpec_binds entries_binds spec).bind_pure fun vs fs h => ?_
  exact ⟨h.values, fun hplain => (h.numbered hplain).joined (by decide)⟩

theorem clause_binds (spec : Option Spec) :
    (clause (optionValue Spec.toValue spec)).Yields (Binds (specLeaves spec) (PlainSpec spec)) := by
  refine (condition_binds spec).bind_pure fun vs text h => ?_
  exact ⟨h.values, fun hplain => (h.numbered hplain).headed (by decide)⟩

theorem condition_agree {spec spec' : Option Spec} (h : SpecShape spec spec') :
    Draft.Agree Eq (condition (optionValue Spec.toValue spec))
      (condition (optionValue Spec.toValue spec')) := by
  have hwalk : ∀ es es', SameShape es es' →
      Draft.Agree Eq (entries .root es) (entries .root es') := fun es es' hes => by
    rw [entries_eq, entries_eq]
    exact Clause.Walk.entries_agree walk_operator_agree hes .root
  exact .bind_eq (Clause.ofSpec_agree hwalk h) fun _ => .refl _

theorem clause_agree {spec spec' : Option Spec} (h : SpecShape spec spec') :
    Draft.Agree Eq (clause (optionValue Spec.toValue spec))
      (clause (optionValue Spec.toValue spec')) :=
  .bind_eq (condition_agree h) fun _ => .refl _

end ParamSql.Where
