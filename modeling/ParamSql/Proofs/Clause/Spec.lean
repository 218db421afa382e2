import ParamSql.Clause.Registry
import ParamSql.Clause.Spec
import ParamSql.Proofs.Schema.Check
import ParamSql.Proofs.Sql.Draft

/-!
What the clauses bind and write for the parts they have in common.

`Value.entries_induction` is the induction over nested mappings that the proofs about conditions
and orders use. A comma-separated list is bound as one text (`commaText`), and a verbatim query
binds the values listed with it (`rawValues`).
-/

namespace ParamSql

/-- Induction over the entries of a mapping and of the mappings nested in it. -/
theorem Value.entries_induction {P : List (Value × Value) → Prop} (nil : P [])
    (cons : ∀ key value rest, (∀ es, value = .mapping es → P es) → P rest →
      P ((key, value) :: rest)) (es : List (Value × Value)) : P es :=
  match es with
  | [] => nil
  | (key, value) :: rest =>
    cons key value rest (fun es _ => entries_induction nil cons es)
      (entries_induction nil cons rest)
termination_by sizeOf es
decreasing_by
  · subst_vars
    simp only [List.cons.sizeOf_spec, Prod.mk.sizeOf_spec, Value.mapping.sizeOf_spec]
    omega
  · simp only [List.cons.sizeOf_spec]
    omega

theorem Value.eq_unset_of_isUnset {value : Value} (h : value.isUnset = true) : value = .unset := by
  cases value <;> first | rfl | nomatch h

theorem Value.eq_null_of_isNull {value : Value} (h : value.isNull = true) : value = .null := by
  cases value <;> first | rfl | nomatch h

theorem Value.isNull_eq_false {value : Value} (h : value ≠ .null) : value.isNull = false := by
  cases value <;> first | exact absurd rfl h | rfl

/-! ## Keywords -/

/-- The keyword that a key means, if it means one. -/
def Value.keyword? (κ : Type) [Keyword κ] (key : Value) : Option κ :=
  key.text?.bind fun name => Keyword.all.find? fun k => Keyword.text k == name

theorem Value.keyword?_of_text {κ : Type} [Keyword κ] {key : Value} {name : String}
    (h : key.text? = some name) :
    key.keyword? κ = Keyword.all.find? fun k => Keyword.text k == name := by
  rw [Value.keyword?, h]
  rfl

theorem Value.keyword?_congr {κ : Type} [Keyword κ] {key key' : Value}
    (h : key.text? = key'.text?) : key.keyword? κ = key'.keyword? κ := by
  rw [Value.keyword?, h]
  rfl

/-- In a registry with one handler for each keyword, a key is handled by what its keyword means. -/
theorem Registry.handler?_of_map {κ η : Type} [Keyword κ] {f : κ → η} {r : Registry κ η}
    (h : r.handlers = Keyword.all.map fun k => (k, f k)) {key : Value} {name : String}
    (hname : key.text? = some name) : r.handler? name = (key.keyword? κ).map f := by
  rw [Registry.handler?, h, List.find?_map, Option.map_map, Value.keyword?_of_text hname]
  rfl

namespace Clause

variable {clause : ClauseName} {path : KeyPath} {key value : Value}

/-! ## The column of an operator -/

/-- The column that the operator at the end of the path applies to. -/
def Operand (path : KeyPath) (column : String) : Prop :=
  ∃ parent, path.parent? = some parent ∧ column = Identifier.snake parent

theorem operand_yields {isKeyword : String → Bool} :
    (operand clause isKeyword path key).Yields fun vs column => vs = [] ∧ Operand path column := by
  rw [operand]
  split
  · next parent hparent =>
    split
    · exact .fault _ _ _
    · exact .pure' ⟨rfl, parent, hparent, rfl⟩
  · exact .fault _ _ _

/-! ## Comma-separated lists -/

/-- The text that a comma-separated list is bound as; a text stays as it is. -/
def commaText : Value → Value
  | .list items | .tuple items => .text (commaJoined items)
  | v => v

theorem commaList_yields :
    (commaList clause path key value).Yields fun vs list => vs = [] ∧ list = commaText value := by
  cases value <;> first | exact .pure' ⟨rfl, rfl⟩ | exact .fault _ _ _

/-! ## Verbatim queries -/

/-- The values that a verbatim query binds: those listed under `values`. -/
def rawValues : Value → List Value
  | .mapping es =>
    match Value.lookupText "values" (Value.dropUnset es) with
    | some (.list vs) | some (.tuple vs) => vs
    | some (.record _ fields) => Value.namedFields fields
    | _ => []
  | _ => []

theorem rawValues_of_check {es : List (Value × Value)} {q : RawQuery}
    (h : RawQuery.check (.mapping es) = .valid q) : rawValues (.mapping es) = q.values := by
  obtain ⟨q', hread, hrule⟩ := Checked.andThen_eq_valid h
  obtain rfl : q' = q := Checked.valid.inj hrule
  obtain ⟨f, vs, hquery, hvalues, rfl⟩ :=
    Checked.seq_eq_valid (Checked.withIssues_eq_valid hread)
  obtain ⟨s, -, rfl⟩ := Checked.map_eq_valid hquery
  show _ = vs
  -- The check takes the values from where `rawValues` looks them up.
  rw [FieldName.optional, FieldName.find?_of_key] at hvalues
  rw [rawValues]
  cases hlook : Value.lookupText "values" (Value.dropUnset es) with
  | none =>
    rw [hlook] at hvalues
    exact Checked.valid.inj hvalues
  | some v =>
    rw [hlook] at hvalues
    have hlist := Checked.under_eq_valid hvalues
    cases v <;> first
      | exact Checked.valid.inj ((Check.items_any 0 _).symm.trans hlist)
      | nomatch hlist

inductive RawText : Value → List Value → Sql → Prop where
  | text {value : Value} {s : String} (h : value.text? = some s) :
    RawText value [] (.verbatim value.plain)
  | query {es : List (Value × Value)} {q : RawQuery} (h : RawQuery.check (.mapping es) = .valid q) :
    RawText (.mapping es) q.values (.room q.values.length ++ .verbatim q.query)

theorem RawText.values {vs : List Value} {sql : Sql} (h : RawText value vs sql) :
    vs = rawValues value := by
  cases h with
  | text h =>
    cases value <;> first | rfl | nomatch h
  | query h => exact (rawValues_of_check h).symm

theorem rawQuery_yields : (rawQuery clause path value).Yields (RawText value) := by
  cases value with
  | text s => exact .pure' (.text rfl)
  | constant c => exact .pure' (.text rfl)
  | mapping es =>
    rw [rawQuery]
    split
    · next q hq =>
      refine .bind_params (.pure' ?_)
      rw [List.append_nil]
      exact .query hq
    · exact .fault _ _ _
  | _ => exact .fault _ _ _

end Clause

/-! ## Specifications -/

/-- The entries of a mapping by name, with their names as texts. -/
def Spec.textEntries (es : List (String × Value)) : List (Value × Value) :=
  es.map fun e => (.text e.1, e.2)

theorem Spec.lookupText_textEntries_cons (name : String) (e : String × Value)
    (rest : List (String × Value)) :
    Value.lookupText name (textEntries (e :: rest)) =
      if e.1 = name then some e.2 else Value.lookupText name (textEntries rest) := by
  rw [textEntries, List.map_cons, Value.lookupText]
  by_cases h : e.1 = name
  · rw [if_pos h, if_pos (by rw [Value.text?, h]; exact beq_self_eq_true _)]
  · rw [if_neg h, if_neg (by simpa [Value.text?] using h)]
    rfl

/-- The leaves of a specification: those of its entries if it is a mapping. -/
def Clause.specLeaves (leaves : List (Value × Value) → List Value) : Option Spec → List Value
  | some (.mapping es) => leaves (Spec.textEntries es)
  | _ => []

end ParamSql
