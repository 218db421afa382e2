import ParamSql.Proofs.Clause.Walk
import ParamSql.Proofs.Sql.Numbering
import ParamSql.Sql.Dialect

/-!
Plain specifications: no dollar sign in a key, a name or a verbatim text, and no value listed with a
verbatim query.

The placeholders in the text of a plain specification are its holes and nothing else, so what it
compiles to is numbered, with one hole for each value that it binds.
-/

namespace ParamSql

def KeyPath.DollarFree (path : KeyPath) : Prop :=
  ∀ key ∈ path.keys, ParamSql.DollarFree key

theorem KeyPath.dollarFree_root : root.DollarFree :=
  fun _ h => nomatch h

theorem KeyPath.DollarFree.descend {path : KeyPath} {key : String} (hpath : path.DollarFree)
    (hkey : ParamSql.DollarFree key) : (path.descend key).DollarFree := by
  intro k hk
  rcases List.mem_append.1 hk with hk | hk
  · exact hpath k hk
  · rwa [List.mem_singleton.1 hk]

/-- The values are the leaves of a specification, and its fragment is numbered if it is plain. -/
structure Binds (leaves : List Value) (plain : Prop) (vs : List Value) (sql : Sql) : Prop where
  values : vs = leaves
  numbered : plain → sql.Numbered vs.length

theorem Binds.imp {leaves vs : List Value} {plain plain' : Prop} {sql : Sql}
    (h : Binds leaves plain vs sql) (hplain : plain' → plain) : Binds leaves plain' vs sql :=
  ⟨h.values, fun h' => h.numbered (hplain h')⟩

/-- The values are the leaves of a specification, and its fragments are numbered if it is plain. -/
structure BindsAll (leaves : List Value) (plain : Prop) (vs : List Value) (fs : List Sql) :
    Prop where
  values : vs = leaves
  numbered : plain → Sql.NumberedAll vs.length fs

/-- Fragments one after the other bind their leaves one after the other. -/
theorem Draft.Joint.bindsAll {α : Type} {leaves : α → List Value} {plain : α → Prop} {as : List α}
    {vs : List Value} {fs : List Sql}
    (h : Draft.Joint (fun a => Binds (leaves a) (plain a)) as vs fs) :
    BindsAll (as.flatMap leaves) (∀ a ∈ as, plain a) vs fs := by
  induction h with
  | nil => exact ⟨rfl, fun _ => Sql.numberedAll_nil⟩
  | @cons a as vs ws f fs ha _ ih =>
    refine ⟨by rw [List.flatMap_cons, ← ha.values, ← ih.values], fun hplain => ?_⟩
    obtain ⟨hfirst, hrest⟩ := List.forall_mem_cons.1 hplain
    rw [List.length_append]
    exact .cons (ha.numbered hfirst) (ih.numbered hrest)

/-! ## The texts of the dialect -/

namespace Dialect

variable {n m : Nat} {column parameter : Sql}

theorem numbered_inList (hcolumn : column.Numbered n) (hparameter : parameter.Numbered m) :
    (inList column parameter).Numbered (n + m) :=
  (hcolumn.append_stop (by decide) hparameter).append_text (by decide)

theorem numbered_contains (hcolumn : column.Numbered n) (hparameter : parameter.Numbered m) :
    (contains column parameter).Numbered (n + m) :=
  (hcolumn.append_stop (by decide) hparameter).append_text (by decide)

theorem numbered_textEquals (hcolumn : column.Numbered n) (hparameter : parameter.Numbered m) :
    (textEquals column parameter).Numbered (n + m) :=
  (hcolumn.append_stop (by decide) hparameter).append_text (by decide)

theorem numbered_listPosition (hcolumn : column.Numbered n) (hparameter : parameter.Numbered m) :
    (listPosition column parameter).Numbered (m + n) :=
  ((hparameter.text_append (by decide)).append_stop (by decide) hcolumn).append_text (by decide)

end Dialect

namespace Clause

/-! ## Columns and verbatim queries -/

theorem Operand.dollarFree {path : KeyPath} {column : String} (hpath : path.DollarFree)
    (h : Operand path column) : DollarFree column := by
  obtain ⟨parent, hparent, rfl⟩ := h
  have hmem : parent ∈ path.keys.dropLast := List.mem_of_getLast? hparent
  exact Identifier.dollarFree_snake (hpath parent ((List.dropLast_subset _) hmem))

/-- A verbatim query without a dollar sign and without values of its own. -/
def PlainRaw : Value → Prop
  | .mapping es =>
    ∀ q, RawQuery.check (.mapping es) = .valid q → DollarFree q.query ∧ q.values = []
  | value => DollarFree value.plain

theorem RawText.numbered {value : Value} {vs : List Value} {sql : Sql} (hplain : PlainRaw value)
    (h : RawText value vs sql) : Sql.Numbered vs.length sql := by
  cases h with
  | text h =>
    refine Sql.numbered_verbatim ?_
    cases value <;> first | exact hplain | nomatch h
  | query h =>
    obtain ⟨hquery, hvalues⟩ := hplain _ h
    rw [hvalues]
    exact (Sql.numbered_room.append (Sql.numbered_verbatim hquery) fun _ t ht => nomatch ht)

/-! ## Entries -/

section Entries

variable {κ : Type} [Keyword κ] (nests : Option κ → Bool) (own : Value → Option κ → Prop)

mutual

/-- No key has a dollar sign, and `own` holds of the entries that are not gone through further. -/
def Plain : List (Value × Value) → Prop
  | [] => True
  | (key, value) :: rest => PlainEntry key value ∧ Plain rest

/-- The key of the entry has no dollar sign, and neither has what the entry holds. -/
def PlainEntry (key value : Value) : Prop :=
  DollarFree (key.text?.getD "") ∧
    match nests (key.keyword? κ), value with
    | true, .mapping es => Plain es
    | _, value => own value (key.keyword? κ)

end

variable {nests own} {key value : Value} {name : String} {es : List (Value × Value)}

theorem PlainEntry.dollarFree_key (h : PlainEntry nests own key value)
    (hname : key.text? = some name) : DollarFree name := by
  rw [PlainEntry.eq_def, hname] at h
  exact h.1

theorem PlainEntry.of_nested (h : PlainEntry nests own key (.mapping es))
    (hnests : nests (key.keyword? κ) = true) : Plain nests own es := by
  rw [PlainEntry.eq_def, hnests] at h
  exact h.2

theorem PlainEntry.of_own (h : PlainEntry nests own key value) (hown : Own nests key value) :
    own value (key.keyword? κ) := by
  obtain ⟨-, hvalue⟩ := hown
  rw [PlainEntry.eq_def] at h
  obtain ⟨-, h⟩ := h
  split at h
  · next es hnests => exact absurd (hnests.symm.trans (hvalue es rfl)) (by decide)
  · exact h

theorem Plain.filter (p : Value × Value → Bool) (h : Plain nests own es) :
    Plain nests own (es.filter p) := by
  induction es with
  | nil => exact h
  | cons e rest ih =>
    rw [Plain] at h
    rw [List.filter_cons]
    split
    · rw [Plain]
      exact ⟨h.1, ih h.2⟩
    · exact ih h.2

/-- What the entries of a plain mapping compile to is numbered, with a hole for each bound value. -/
theorem Walk.Compiles.numbered {w : Walk κ} {path : KeyPath} {vs : List Value} {fs : List Sql}
    (hwrapped : ∀ keyword n fs, Sql.NumberedAll n fs → Sql.NumberedAll n (w.wrapped keyword fs))
    (hoperator : ∀ path name key value keyword, path.DollarFree → DollarFree name →
      own value keyword → (w.operator path name key value keyword).Yields
        fun vs fs => Sql.NumberedAll vs.length fs)
    (h : w.Compiles path es vs fs) (hpath : path.DollarFree) (hes : Plain w.nests own es) :
    Sql.NumberedAll vs.length fs := by
  -- Along the derivation, the fragments of an entry come before those of the others, as its values
  -- do; so the counts of the holes add up.
  induction h with
  | nil => exact Sql.numberedAll_nil
  | unset _ _ ih =>
    rw [Plain] at hes
    exact ih hpath hes.2
  | nested hname hnests _ _ ihes ihrest =>
    rw [Plain] at hes
    have hnested := ihes (hpath.descend (hes.1.dollarFree_key hname)) (hes.1.of_nested hnests)
    rw [List.length_append]
    exact (hwrapped _ _ _ hnested).append (ihrest hpath hes.2)
  | @own path key _ _ _ _ _ _ _ hname hown hgives _ ih =>
    rw [Plain] at hes
    have hkey := hes.1.dollarFree_key hname
    have hyields := hoperator _ _ key _ _ (hpath.descend hkey) hkey (hes.1.of_own hown)
    have hhere := hyields.of_gives hgives
    rw [List.length_append]
    exact hhere.append (ih hpath hes.2)

end Entries

/-! ## Specifications -/

/-- The leaves of a specification that is any value: those of its entries if it is a mapping. -/
def valueLeaves (leaves : List (Value × Value) → List Value) : Value → List Value
  | .mapping es => leaves es
  | _ => []

/-- A specification that is any value, without a dollar sign, if `entries` says so of the entries of
a mapping. -/
def PlainValue (entries : List (Value × Value) → Prop) : Value → Prop
  | .mapping es => entries es
  | spec => DollarFree (spec.text?.getD "")

def PlainSpec (entries : List (Value × Value) → Prop) : Option Spec → Prop
  | none => True
  | some (.text s) => DollarFree s
  | some (.mapping es) => entries (Spec.textEntries es)

theorem valueLeaves_optionValue (leaves : List (Value × Value) → List Value)
    (spec : Option Spec) :
    valueLeaves leaves (optionValue Spec.toValue spec) = specLeaves leaves spec := by
  rcases spec with _ | s | es <;> rfl

theorem PlainSpec.plainValue {entries : List (Value × Value) → Prop} {spec : Option Spec}
    (h : PlainSpec entries spec) : PlainValue entries (optionValue Spec.toValue spec) := by
  rcases spec with _ | s | es
  · exact fun hmem => nomatch hmem
  · exact h
  · exact h

theorem text_binds (s : String) :
    (pure (if Text.isBlank s then [] else [.verbatim s]) : Draft (List Sql)).Yields
      (BindsAll [] (DollarFree s)) := by
  refine .pure' ⟨rfl, fun hplain => ?_⟩
  split
  · exact Sql.numberedAll_nil
  · exact Sql.numberedAll_singleton (Sql.numbered_verbatim hplain)

theorem ofSpec_value_binds {clause : ClauseName} {path : KeyPath}
    {walk : List (Value × Value) → Draft (List Sql)} {leaves : List (Value × Value) → List Value}
    {plain : List (Value × Value) → Prop}
    (hwalk : ∀ es, (walk es).Yields (BindsAll (leaves es) (plain es))) (spec : Value) :
    (ofSpec clause walk path spec).Yields
      (BindsAll (valueLeaves leaves spec) (PlainValue plain spec)) := by
  cases spec with
  | null => exact .pure' ⟨rfl, fun _ => Sql.numberedAll_nil⟩
  | unset => exact .pure' ⟨rfl, fun _ => Sql.numberedAll_nil⟩
  | text s => exact text_binds s
  | constant c => exact text_binds c.text
  | mapping es => exact hwalk es
  | _ => exact .fault _ _ _

theorem ofSpec_binds {clause : ClauseName} {path : KeyPath}
    {walk : List (Value × Value) → Draft (List Sql)} {leaves : List (Value × Value) → List Value}
    {plain : List (Value × Value) → Prop}
    (hwalk : ∀ es, (walk es).Yields (BindsAll (leaves es) (plain es))) (spec : Option Spec) :
    (ofSpec clause walk path (optionValue Spec.toValue spec)).Yields
      (BindsAll (specLeaves leaves spec) (PlainSpec plain spec)) := by
  refine (ofSpec_value_binds hwalk _).mono fun vs fs h => ?_
  rw [valueLeaves_optionValue] at h
  exact ⟨h.values, fun hplain => h.numbered hplain.plainValue⟩

end Clause

end ParamSql
