import ParamSql.Clause.Order
import ParamSql.Proofs.Clause.Plain
import ParamSql.Proofs.Clause.Shape

/-!
What an order compiles to.

The entries of a sort term are a walk (`entries_eq`), so what is known of walks holds of orders once
it is known of the operators. A term puts its direction last wherever it stands; that changes
neither the leaves of the term (`leaves_withoutDirection`) nor whether it is plain.
-/

namespace ParamSql.Order

/-! ## The walk through a term -/

/-- What a keyword means, and what a key means that is none. -/
def Rule.of : Option OrderKeyword → Rule
  | some .expression => .expression
  | some .direction => .direction
  | some .ranking => .ranking
  | none => .column

theorem rule_of_text {key : Value} {name : String} (h : key.text? = some name) :
    rule name = Rule.of (key.keyword? OrderKeyword) := by
  have hhandlers : registry.handlers = Keyword.all.map fun k => (k, Rule.of (some k)) := rfl
  rw [rule, Registry.handler?_of_map hhandlers h]
  cases key.keyword? OrderKeyword <;> rfl

/-- Mappings are gone through below columns and as expressions. -/
def nests : Option OrderKeyword → Bool
  | none | some .expression => true
  | _ => false

def walk : Clause.Walk OrderKeyword where
  clause := .orderBy
  nests := nests
  wrapped _ := id
  operator path name key value keyword := operator path name key value (Rule.of keyword)

variable {path : KeyPath} {key value : Value} {name : String} {es : List (Value × Value)}

theorem entry_nested_eq (hes : ∀ path, entries path es = walk.entries path es)
    (hname : key.text? = some name) (hnests : walk.nests (key.keyword? OrderKeyword) = true) :
    entry path key (.mapping es) = walk.entry path key (.mapping es) := by
  have hset : (Value.mapping es).isUnset = false := rfl
  have hrule := rule_of_text hname
  rw [Clause.Walk.entry_nested hname hnests, entry, hset, if_neg Bool.false_ne_true, hname]
  generalize key.keyword? OrderKeyword = keyword at hnests hrule
  rcases keyword with _ | k
  · simp only [hrule, Rule.of, hes, walk, id, bind_pure]
  · cases k with
    | expression => simp only [hrule, Rule.of, hes, walk, id, bind_pure]
    | _ => exact absurd hnests Bool.false_ne_true

theorem entry_own_eq (hname : key.text? = some name) (hown : Clause.Own walk.nests key value) :
    entry path key value = walk.entry path key value := by
  have hrule := rule_of_text hname
  rw [Clause.Walk.entry_own hname hown, entry, hown.1, if_neg Bool.false_ne_true, hname]
  have hvalue : ∀ es, value = .mapping es → nests (key.keyword? OrderKeyword) = false := hown.2
  generalize key.keyword? OrderKeyword = keyword at hvalue hrule
  cases value with
  | mapping es =>
    -- A mapping is left to the operator only below a keyword that does not nest.
    rcases keyword with _ | k
    · exact absurd (hvalue es rfl) (by decide)
    · cases k <;> first
        | exact absurd (hvalue es rfl) (by decide)
        | simp only [hrule, Rule.of, walk]
  | _ => rcases keyword with _ | k <;> [skip; cases k] <;> simp only [hrule, Rule.of, walk]

theorem entry_eq
    (hes : ∀ es, value = .mapping es → ∀ path, entries path es = walk.entries path es) :
    entry path key value = walk.entry path key value := by
  cases walk.entryCase key value with
  | unset hset => rw [Clause.Walk.entry_unset hset, entry, if_pos hset]
  | keyNotText hset hkey =>
    rw [Clause.Walk.entry_keyNotText hset hkey, entry, hset, if_neg Bool.false_ne_true, hkey]
    rfl
  | nested hname hnests hvalue =>
    subst hvalue
    exact entry_nested_eq (hes _ rfl) hname hnests
  | own hname hown => exact entry_own_eq hname hown

theorem entries_eq (path : KeyPath) (es : List (Value × Value)) :
    entries path es = walk.entries path es := by
  refine Clause.Walk.eq_entries ?_ ?_ (fun path key value => entry_eq) path es
  · intro path
    rw [entries]
  · intro path key value rest
    rw [entries]

/-! ## Operators -/

/-- What an operator binds and writes, by its keyword; without one it is a column. -/
inductive Atom (path : KeyPath) (name : String) (value : Value) :
    Option OrderKeyword → List Value → List Sql → Prop where
  | expression {s : String} (h : value.text? = some s) :
    Atom path name value (some .expression) [] [.verbatim (Identifier.snake s)]
  | direction {d : SortDirection} (h : direction? value = some d) :
    Atom path name value (some .direction) [] [.verbatim d.text]
  | unranked (h : value.isNull = true) : Atom path name value (some .ranking) [] []
  | ranking {column : String} (h : Clause.Operand path column) (hvalue : value.isNull = false) :
    Atom path name value (some .ranking) [Clause.commaText value]
      [Dialect.listPosition column .hole]
  | column : Atom path name value none [] [.verbatim (Identifier.snake name)]

theorem operator_yields (keyword : Option OrderKeyword) :
    (walk.operator path name key value keyword).Yields (Atom path name value keyword) := by
  rcases keyword with _ | k
  · exact .pure' .column
  show (operator path name key value (Rule.of (some k))).Yields _
  cases k with
  | expression =>
    rw [Rule.of, operator]
    split
    · next s hs => exact .pure' (.expression hs)
    · exact .fault _ _ _
  | direction =>
    rw [Rule.of, operator]
    split
    · next d hd => exact .pure' (.direction hd)
    · exact .fault _ _ _
  | ranking =>
    refine Clause.operand_yields.bind_nil fun column hcolumn => ?_
    split
    · exact .bind_log (.pure' (.unranked rfl))
    · next hvalue =>
      have hnull : value.isNull = false := Value.isNull_eq_false hvalue
      refine Clause.commaList_yields.bind_nil ?_
      rintro list rfl
      exact .bind_param (.pure' (.ranking hcolumn hnull))

/-! ## Leaves -/

/-- The leaves of an entry that is not gone through further: a list to rank by is one text, unless
there is none, and nothing else has any. -/
def ownLeaves (value : Value) : Option OrderKeyword → List Value
  | some .ranking => if value.isNull then [] else [Clause.commaText value]
  | _ => []

def leaves (es : List (Value × Value)) : List Value :=
  Clause.leaves nests ownLeaves es

theorem Atom.leaves_eq {keyword : Option OrderKeyword} {vs : List Value} {fs : List Sql}
    (h : Atom path name value keyword vs fs) : vs = ownLeaves value keyword := by
  cases h with
  | unranked hnull => exact (if_pos hnull).symm
  | ranking _ hnull => rw [ownLeaves, hnull, if_neg Bool.false_ne_true]
  | _ => rfl

theorem keyword?_direction (h : key.text? = some OrderKeyword.direction.text) :
    key.keyword? OrderKeyword = some .direction := by
  rw [Value.keyword?_of_text h]
  rfl

/-- The direction of a term has no leaves. -/
theorem entryLeaves_direction (h : key.text? = some OrderKeyword.direction.text) :
    Clause.entryLeaves nests ownLeaves key value = [] := by
  have hkeyword := keyword?_direction h
  cases hset : value.isUnset with
  | true => exact Clause.entryLeaves_unset hset
  | false =>
    have hown : Clause.Own nests key value := ⟨hset, fun _ _ => by rw [hkeyword]; rfl⟩
    rw [Clause.entryLeaves_own hown, hkeyword]
    rfl

theorem leaves_direction (value : Value) :
    leaves [(.text OrderKeyword.direction.text, value)] = [] := by
  rw [leaves, Clause.leaves, entryLeaves_direction rfl, Clause.leaves, List.nil_append]

/-- A term has the same leaves without its direction. -/
theorem leaves_withoutDirection (es : List (Value × Value)) :
    leaves (withoutDirection es) = leaves es := by
  rw [leaves, leaves, withoutDirection, Value.dropUnset]
  induction es with
  | nil => rfl
  | cons e rest ih =>
    obtain ⟨key, value⟩ := e
    rw [Clause.leaves, List.filter_cons]
    -- An entry is left out as the direction or as `unset`, and has no leaves in either case.
    by_cases hkey : key.text? = some OrderKeyword.direction.text
    · rw [if_neg (by simp [hkey]), ih, entryLeaves_direction hkey, List.nil_append]
    · rw [if_pos (by simpa using hkey), List.filter_cons]
      cases hset : value.isUnset with
      | true =>
        rw [if_neg (by simp), ih, Clause.entryLeaves_unset hset, List.nil_append]
      | false =>
        rw [if_pos (by simp), Clause.leaves, ih]

/-! ## Placeholders -/

/-- The names to order by have no dollar sign. -/
def OwnPlain (value : Value) : Option OrderKeyword → Prop
  | some .expression => DollarFree (value.text?.getD "")
  | _ => True

def Plain (es : List (Value × Value)) : Prop :=
  Clause.Plain nests OwnPlain es

theorem Atom.numbered {keyword : Option OrderKeyword} {vs : List Value} {fs : List Sql}
    (hpath : path.DollarFree) (hname : DollarFree name) (hvalue : OwnPlain value keyword)
    (h : Atom path name value keyword vs fs) : Sql.NumberedAll vs.length fs := by
  cases h with
  | expression h =>
    rw [OwnPlain, h] at hvalue
    exact Sql.numberedAll_singleton (Sql.numbered_verbatim (Identifier.dollarFree_snake hvalue))
  | @direction d _ => exact Sql.numberedAll_singleton (Sql.numbered_verbatim d.dollarFree_text)
  | unranked => exact Sql.numberedAll_nil
  | ranking h =>
    have hcolumn := Sql.numbered_verbatim (h.dollarFree hpath)
    have hposition := Dialect.numbered_listPosition hcolumn Sql.numbered_hole
    exact Sql.numberedAll_singleton hposition
  | column =>
    exact Sql.numberedAll_singleton (Sql.numbered_verbatim (Identifier.dollarFree_snake hname))

theorem plain_withoutDirection {es : List (Value × Value)} (h : Plain es) :
    Plain (withoutDirection es) :=
  Clause.Plain.filter _ (Clause.Plain.filter _ h)

theorem plain_direction (value : Value) :
    Plain [(.text OrderKeyword.direction.text, value)] := by
  rw [Plain, Clause.Plain, Clause.Plain, Clause.PlainEntry.eq_def]
  exact ⟨⟨by decide, trivial⟩, trivial⟩

/-! ## Shapes -/

/-- How two entries of the same shape may differ: lists to rank by freely, unless there is none, and
columns in what they hold. -/
def OwnShape (value value' : Value) : Option OrderKeyword → Prop
  | some .ranking => value.isNull = value'.isNull
  | some _ => value = value'
  | none => True

def SameShape (es es' : List (Value × Value)) : Prop :=
  Clause.SameShape nests OwnShape es es'

theorem operator_agree (path : KeyPath) (name : String) (key key' value value' : Value)
    (keyword : Option OrderKeyword) (h : OwnShape value value' keyword) :
    Draft.Agree Eq (walk.operator path name key value keyword)
      (walk.operator path name key' value' keyword) := by
  rcases keyword with _ | k
  · exact .refl _
  show Draft.Agree Eq (operator path name key value (Rule.of (some k)))
    (operator path name key' value' (Rule.of (some k)))
  cases k with
  | expression =>
    obtain rfl : value = value' := h
    exact .refl _
  | direction =>
    obtain rfl : value = value' := h
    exact .refl _
  | ranking =>
    refine .bind_eq (Clause.operand_agree _ key key') fun column => ?_
    have hnull : value.isNull = value'.isNull := h
    split
    · split
      · exact .refl _
      · next hvalue' => exact absurd (hnull.trans (Value.isNull_eq_false hvalue')) (by decide)
    · next hvalue =>
      split
      · exact absurd (hnull.symm.trans (Value.isNull_eq_false hvalue)) (by decide)
      · refine .bind' (Clause.commaList_agree key key' _ _) fun list list' _ _ => ?_
        exact .bind_eq (.param _ _) fun _ => .refl _

theorem lookupText_direction_eq {es es' : List (Value × Value)} (h : SameShape es es') :
    Value.lookupText OrderKeyword.direction.text es =
      Value.lookupText OrderKeyword.direction.text es' := by
  induction h with
  | nil => rfl
  | @unset key key' value value' _ _ hkey hset hset' _ ih =>
    rw [Value.lookupText, Value.lookupText, hkey, Value.eq_unset_of_isUnset hset,
      Value.eq_unset_of_isUnset hset', ih]
  | @nested key key' _ _ _ _ hkey hnests _ _ _ ihrest =>
    have hother : key.text? ≠ some OrderKeyword.direction.text := fun hdirection => by
      rw [keyword?_direction hdirection] at hnests
      exact Bool.false_ne_true hnests
    rw [Value.lookupText, Value.lookupText, ← hkey, beq_eq_false_iff_ne.2 hother,
      if_neg Bool.false_ne_true, if_neg Bool.false_ne_true, ihrest]
  | @own key key' value value' _ _ hkey _ _ h _ ih =>
    rw [Value.lookupText, Value.lookupText, ← hkey, ih]
    by_cases hdirection : key.text? = some OrderKeyword.direction.text
    · rw [keyword?_direction hdirection] at h
      obtain rfl : value = value' := h
      rfl
    · rw [beq_eq_false_iff_ne.2 hdirection, if_neg Bool.false_ne_true, if_neg Bool.false_ne_true]

/-- Terms of the same shape have the same direction. -/
theorem givenDirection?_eq {es es' : List (Value × Value)} (h : SameShape es es') :
    givenDirection? es = givenDirection? es' := by
  rw [givenDirection?, givenDirection?, lookupText_direction_eq h]

theorem sameShape_withoutDirection {es es' : List (Value × Value)} (h : SameShape es es') :
    SameShape (withoutDirection es) (withoutDirection es') := by
  refine Clause.SameShape.filter ?_ (Clause.SameShape.filter ?_ h)
  · intro e e' _ hset
    rw [hset]
  · intro e e' hkey _
    rw [hkey]

/-! ## Terms -/

def specLeaves (spec : Option Spec) : List Value :=
  Clause.specLeaves leaves spec

def PlainSpec (spec : Option Spec) : Prop :=
  Clause.PlainSpec Plain spec

def SpecShape (spec spec' : Option Spec) : Prop :=
  Clause.SpecShape SameShape spec spec'

theorem entries_binds (es : List (Value × Value)) :
    (entries .root es).Yields (BindsAll (leaves es) (Plain es)) := by
  rw [entries_eq]
  refine (walk.entries_yields .root es).mono fun vs fs h => ⟨?_, fun hplain => ?_⟩
  · refine h.leaves_eq fun path name key value keyword => (operator_yields keyword).mono ?_
    exact fun vs fs hatom => hatom.leaves_eq
  · refine h.numbered (fun _ _ _ hfs => hfs) ?_ KeyPath.dollarFree_root hplain
    exact fun path name key value keyword hpath hname hvalue =>
      (operator_yields keyword).mono fun vs fs hatom => hatom.numbered hpath hname hvalue

theorem entries_agree {es es' : List (Value × Value)} (h : SameShape es es') :
    Draft.Agree Eq (entries .root es) (entries .root es') := by
  rw [entries_eq, entries_eq]
  exact Clause.Walk.entries_agree operator_agree h .root

theorem plainTerm_value_binds (spec : Value) :
    (plainTerm spec).Yields
      (Binds (Clause.valueLeaves leaves spec) (Clause.PlainValue Plain spec)) := by
  refine (Clause.ofSpec_value_binds entries_binds spec).bind_pure fun vs fs h => ?_
  exact ⟨h.values, fun hplain => (h.numbered hplain).joined (by decide)⟩

theorem term_mapping {es : List (Value × Value)} {direction : Value}
    (h : givenDirection? es = some direction) :
    term (.mapping es) =
      if (withoutDirection es).isEmpty then .fault .orderBy .directionAlone []
      else
        entries .root (withoutDirection es) >>= fun expression =>
          if expression.isEmpty then pure .empty
          else
            entries .root [(.text OrderKeyword.direction.text, direction)] >>= fun last =>
              pure (Sql.joined " " (expression ++ last)) := by
  rw [term, h]

theorem term_value_binds (spec : Value) :
    (term spec).Yields
      (Binds (Clause.valueLeaves leaves spec) (Clause.PlainValue Plain spec)) := by
  cases spec with
  | mapping es =>
    cases hdirection : givenDirection? es with
    | none =>
      have hterm : term (.mapping es) = plainTerm (.mapping es) := by rw [term, hdirection]
      rw [hterm]
      exact plainTerm_value_binds (.mapping es)
    | some direction =>
      rw [term_mapping hdirection]
      split
      · exact .fault _ _ _
      · refine (entries_binds _).bind' fun vs fs h => ?_
        have hvalues : vs = leaves es := h.values.trans (leaves_withoutDirection es)
        split
        · next hempty =>
          refine .pure' ⟨(List.append_nil vs).trans hvalues, fun hplain => ?_⟩
          have hnone := h.numbered (plain_withoutDirection hplain)
          rw [List.isEmpty_iff.1 hempty] at hnone
          rw [List.append_nil]
          exact hnone.joined (s := " ") (by decide)
        · refine (entries_binds _).bind' fun ws gs h' => .pure' ?_
          -- The direction binds nothing, so it may be written last wherever it stands.
          obtain rfl : ws = [] := h'.values.trans (leaves_direction direction)
          rw [List.append_nil, List.append_nil]
          refine ⟨hvalues, fun hplain => ?_⟩
          have hlast := h'.numbered (plain_direction direction)
          exact ((h.numbered (plain_withoutDirection hplain)).append hlast).joined (by decide)
  | _ => exact plainTerm_value_binds _

theorem term_binds (spec : Option Spec) :
    (term (optionValue Spec.toValue spec)).Yields (Binds (specLeaves spec) (PlainSpec spec)) := by
  refine (term_value_binds _).mono fun vs sql h => ?_
  rw [Clause.valueLeaves_optionValue] at h
  exact h.imp Clause.PlainSpec.plainValue

theorem plainTerm_agree {spec spec' : Option Spec} (h : SpecShape spec spec') :
    Draft.Agree Eq (plainTerm (optionValue Spec.toValue spec))
      (plainTerm (optionValue Spec.toValue spec')) :=
  .bind_eq (Clause.ofSpec_agree (fun _ _ => entries_agree) h) fun _ => .refl _

theorem term_agree {spec spec' : Option Spec} (h : SpecShape spec spec') :
    Draft.Agree Eq (term (optionValue Spec.toValue spec))
      (term (optionValue Spec.toValue spec')) := by
  cases h with
  | none => exact .refl _
  | text s => exact .refl _
  | @mapping es es' h =>
    have hsame := givenDirection?_eq h
    show Draft.Agree Eq (term (.mapping (Spec.textEntries es)))
      (term (.mapping (Spec.textEntries es')))
    cases hdirection : givenDirection? (Spec.textEntries es) with
    | none =>
      rw [term, term, ← hsame, hdirection]
      exact plainTerm_agree (.mapping h)
    | some direction =>
      have hrest := sameShape_withoutDirection h
      rw [term_mapping hdirection, term_mapping (hsame ▸ hdirection), hrest.isEmpty_eq]
      split
      · exact .refl _
      · exact .bind_eq (entries_agree hrest) fun _ => .refl _

/-! ## The clause -/

/-- The specifications of the terms of an order. -/
def given : Option (OneOrMany Spec) → List (Option Spec)
  | none => [none]
  | some order => order.toList.map some

theorem specs_toValue (order : Option (OneOrMany Spec)) :
    specs (optionValue (OneOrMany.toValue Spec.toValue) order) =
      (given order).map (optionValue Spec.toValue) := by
  rcases order with _ | spec | specs
  · rfl
  · cases spec <;> rfl
  · rw [given, OneOrMany.toList, List.map_map]
    rfl

theorem clause_binds (order : Option (OneOrMany Spec)) :
    (clause (optionValue (OneOrMany.toValue Spec.toValue) order)).Yields
      (Binds ((given order).flatMap specLeaves) (∀ spec ∈ given order, PlainSpec spec)) := by
  rw [clause, specs_toValue, List.mapM_map]
  refine (Draft.Yields.mapM fun spec _ => term_binds spec).bind_pure fun vs terms h => ?_
  have hterms := h.bindsAll
  refine ⟨hterms.values, fun hplain => ?_⟩
  exact ((hterms.numbered hplain).nonEmpty.joined (by decide)).headed (by decide)

theorem clause_value_numbered (spec : Value) :
    (clause spec).Yields fun vs sql =>
      (∀ s ∈ specs spec, Clause.PlainValue Plain s) → sql.Numbered vs.length := by
  refine (Draft.Yields.mapM fun s _ => term_value_binds s).bind_pure fun vs terms h hplain => ?_
  exact ((h.bindsAll.numbered hplain).nonEmpty.joined (by decide)).headed (by decide)

theorem clause_agree {order order' : Option (OneOrMany Spec)}
    (h : List.Forall₂ SpecShape (given order) (given order')) :
    Draft.Agree Eq (clause (optionValue (OneOrMany.toValue Spec.toValue) order))
      (clause (optionValue (OneOrMany.toValue Spec.toValue) order')) := by
  rw [clause, clause, specs_toValue, specs_toValue, List.mapM_map, List.mapM_map]
  exact .bind_eq (.mapM (h.imp fun _ _ => term_agree)) fun _ => .refl _

end ParamSql.Order
