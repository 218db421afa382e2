import ParamSql.Proofs.Schema.Settled

/-!
Schemas whose instances are read again from their fields.

A `Reading` is the check of a schema in its parts: the names of the fields, what is read from the
entries under them, and the rule. If it is lawful, that is if it reads an instance again from its
fields, then checking is a projection (`Lawful.settled`), however the joins among the fields are
spelled.
-/

namespace ParamSql

open Check

/-! ## Fields -/

/-- The field that a key gives a value for: `from` is the other name of `from_`. -/
def fieldOf (key : String) : String :=
  if key = "from" then "from_" else key

section Fields

variable {α : Type} {name : FieldName} {check : Check α} {toValue : α → Value}
  {spelled kept : Value → Value → Prop} {es : List (Value × Value)} {a fallback : α}

structure FieldName.Settled (name : FieldName) (es : List (Value × Value)) (check : Check α)
    (toValue : α → Value) (spelled kept : Value → Value → Prop) (a : α) : Prop where
  again : ∀ w, spelled (toValue a) w → check w = .valid a
  proper : (toValue a).Proper
  kept : ∀ key w, name.find? es = some (key, w) → kept w (toValue a)

theorem Check.Settles.required (h : check.Settles toValue spelled kept)
    (hes : ∀ e ∈ es, e.2.Proper) (ha : name.required check es = .valid a) :
    name.Settled es check toValue spelled kept a := by
  rw [FieldName.required] at ha
  cases hfind : name.find? es with
  | none =>
    rw [hfind] at ha
    cases ha
  | some e =>
    rw [hfind] at ha
    obtain ⟨⟨k, hmem⟩, -⟩ := FieldName.exists_of_find? hfind
    have hv := hes _ hmem
    have hcheck := Checked.under_eq_valid ha
    refine ⟨h.again hv hcheck, h.proper hv hcheck, fun key w hgiven => ?_⟩
    obtain rfl := Option.some.inj (hfind.symm.trans hgiven)
    exact h.kept hv hcheck

theorem Check.Settles.optional (h : check.Settles toValue spelled kept)
    (hagain : ∀ w, spelled (toValue fallback) w → check w = .valid fallback)
    (hproper : (toValue fallback).Proper) (hes : ∀ e ∈ es, e.2.Proper)
    (ha : name.optional fallback check es = .valid a) :
    name.Settled es check toValue spelled kept a := by
  cases hfind : name.find? es with
  | none =>
    rw [FieldName.optional, hfind] at ha
    obtain rfl := Checked.valid.inj ha
    refine ⟨hagain, hproper, fun key w hgiven => ?_⟩
    rw [hfind] at hgiven
    cases hgiven
  | some e =>
    refine h.required hes ?_
    rw [FieldName.required, hfind]
    rwa [FieldName.optional, hfind] at ha

theorem Check.Settles.optional_none
    (h : (nullable check).Settles (optionValue toValue) spelled kept)
    (hspelled : ∀ u w, spelled u w → u.isNull = w.isNull) (hes : ∀ e ∈ es, e.2.Proper)
    {o : Option α} (ho : name.optional none (nullable check) es = .valid o) :
    name.Settled es (nullable check) (optionValue toValue) spelled kept o := by
  have hproper : (optionValue toValue none).Proper := .scalar (v := .null) nofun rfl
  refine h.optional (fun w hw => ?_) hproper hes ho
  rw [Value.eq_null_of_isNull (hspelled _ _ hw).symm]
  rfl

variable {es' : List (Value × Value)} {key : String} {w : Value}

theorem FieldName.Settled.required_again (h : name.Settled es check toValue spelled kept a)
    (hfind : name.find? es' = some (key, w)) (hw : spelled (toValue a) w) :
    name.required check es' = .valid a := by
  rw [FieldName.required, hfind]
  exact congrArg (Checked.under _) (h.again w hw)

theorem FieldName.Settled.optional_again (h : name.Settled es check toValue spelled kept a)
    (hfind : name.find? es' = some (key, w)) (hw : spelled (toValue a) w) :
    name.optional fallback check es' = .valid a := by
  rw [FieldName.optional, hfind]
  exact congrArg (Checked.under _) (h.again w hw)

end Fields

/-! ## Instances and what they are read from -/

/-- A join as it is, or the mapping of its fields by name. -/
inductive SpelledJoin : Value → Value → Prop where
  | same (v : Value) : SpelledJoin v v
  | fields (fields : List (String × Value)) :
    SpelledJoin (.record .join fields) (.mapping (Spec.textEntries fields))

theorem SpelledJoin.isUnset_eq {u w : Value} (h : SpelledEach SpelledJoin u w) :
    u.isUnset = w.isUnset := by
  rcases h with h | _
  · cases h <;> rfl
  · rfl

theorem SpelledJoin.isNull_eq {u w : Value} (h : SpelledEach SpelledJoin u w) :
    u.isNull = w.isNull := by
  rcases h with h | _
  · cases h <;> rfl
  · rfl

/-- The entry of a field by its name; joins in it may be spelled as mappings. -/
def FieldSpelled (field : String × Value) (e : Value × Value) : Prop :=
  e.1 = .text field.1 ∧
    if field.1 = "join" then SpelledEach SpelledJoin field.2 e.2 else field.2 = e.2

theorem spelled_textEntries (fields : List (String × Value)) :
    List.Forall₂ FieldSpelled fields (Spec.textEntries fields) := by
  rw [Spec.textEntries, List.forall₂_map_right_iff, List.forall₂_same]
  intro field _
  refine ⟨rfl, ?_⟩
  split
  · exact .one (.same field.2)
  · rfl

theorem FieldSpelled.eq_entry {field : String × Value} {e : Value × Value}
    (h : FieldSpelled field e) (hjoin : field.1 ≠ "join") : e = (.text field.1, field.2) := by
  obtain ⟨hkey, hvalue⟩ := h
  rw [if_neg hjoin] at hvalue
  exact Prod.ext hkey hvalue.symm

/-- Without joins there is only one spelling. -/
theorem eq_textEntries {fields : List (String × Value)} {es : List (Value × Value)}
    (hjoin : ∀ field ∈ fields, field.1 ≠ "join") (h : List.Forall₂ FieldSpelled fields es) :
    es = Spec.textEntries fields := by
  induction h with
  | nil => rfl
  | @cons field e _ _ hfield _ ih =>
    obtain ⟨hhere, hrest⟩ := List.forall_mem_cons.1 hjoin
    rw [ih hrest, hfield.eq_entry hhere]
    rfl

/-- An instance is made of a value: it is the value itself if that is an instance, and otherwise has
a field for each key of the mapping, with what has to stay of the value under the key. -/
structure Retained (schema : SchemaName) (keeps : String → Value → Value → Prop) (v s : Value) :
    Prop where
  record : ∀ fields, v = .record schema fields → s = v
  mapping : ∀ es, v = .mapping es → ∃ fields, s = .record schema fields ∧
    ∀ key w, Value.lookupText key (Value.dropUnset es) = some w →
      ∃ u, (fieldOf key, u) ∈ fields ∧ keeps key w u

/-- What stays of the values of a schema without joins: all open mappings, that is all but the pairs
of columns to match. -/
def keepsOpen (key : String) (w u : Value) : Prop :=
  key ≠ "match" → KeptMapping w u

def SchemaName.keeps (self : SchemaName) (key : String) : Value → Value → Prop :=
  if self = .select ∧ key = "join" then KeptEach (Retained .join keepsOpen)
  else if self = .select ∧ key = "order" then KeptEach KeptMapping
  else keepsOpen key

/-- What is known of a field that was read from entries. -/
structure FieldRead (schema : SchemaName) (es : List (Value × Value)) (name : FieldName)
    (field : String × Value) : Prop where
  proper : field.2.Proper
  kept : ∀ key w, name.find? es = some (key, w) →
    fieldOf key = field.1 ∧ schema.keeps key w field.2

/-- The parts of the check of a schema, and the fields of its instances. -/
structure Reading (α : Type) where
  self : SchemaName
  names : List FieldName
  read : List (Value × Value) → Checked α
  rule : α → Checked α
  fields : α → List (String × Value)

namespace Reading

variable {α : Type} {r : Reading α} {v : Value} {a : α}

def check (r : Reading α) : Check α :=
  Check.schema r.self r.names r.read r.rule

def toValue (r : Reading α) (a : α) : Value :=
  .record r.self (r.fields a)

structure Read (r : Reading α) (es : List (Value × Value)) (a : α) : Prop where
  again : ∀ es', List.Forall₂ FieldSpelled (r.fields a) es' → r.read es' = .valid a
  fields : List.Forall₂ (FieldRead r.self es) r.names (r.fields a)

theorem Read.proper {es : List (Value × Value)} (h : r.Read es a) :
    ∀ f ∈ r.fields a, f.2.Proper := by
  intro f hf
  obtain ⟨i, hi, rfl⟩ := List.mem_iff_getElem.1 hf
  have hlength := h.fields.length_eq
  exact (h.fields.get (hlength ▸ hi) hi).proper

theorem Read.kept {es : List (Value × Value)} (h : r.Read es a) {name : FieldName}
    (hname : name ∈ r.names) {key : String} {w : Value} (hfind : name.find? es = some (key, w)) :
    ∃ u, (fieldOf key, u) ∈ r.fields a ∧ r.self.keeps key w u := by
  obtain ⟨i, hi, rfl⟩ := List.mem_iff_getElem.1 hname
  have hlength := h.fields.length_eq
  obtain ⟨-, hkept⟩ := h.fields.get hi (hlength ▸ hi)
  obtain ⟨hfield, hkeeps⟩ := hkept key w hfind
  refine ⟨_, ?_, hkeeps⟩
  rw [hfield]
  exact List.getElem_mem _

/-- The reading is that of a schema whose instances are read again from their fields. -/
structure Lawful (r : Reading α) : Prop where
  check_eq : ∀ v, r.self.check v = (r.check v).map r.toValue
  rule_eq : ∀ a b, r.rule a = .valid b → b = a
  given : ∀ a, ∀ f ∈ r.fields a, f.2.isUnset = false
  known : ∀ a es, List.Forall₂ FieldSpelled (r.fields a) es → unknownKeys r.names es = []
  read : ∀ es a, (∀ e ∈ es, e.2.Proper) → r.read es = .valid a → r.Read es a

/-- The reading is lawful and has no joins, so that its fields are spelled in one way only. -/
structure Joinless (r : Reading α) : Prop where
  check_eq : ∀ v, r.self.check v = (r.check v).map r.toValue
  rule_eq : ∀ a b, r.rule a = .valid b → b = a
  given : ∀ a, ∀ f ∈ r.fields a, f.2.isUnset = false
  joinless : ∀ a, ∀ f ∈ r.fields a, f.1 ≠ "join"
  known : ∀ a, unknownKeys r.names (Spec.textEntries (r.fields a)) = []
  read : ∀ es a, (∀ e ∈ es, e.2.Proper) → r.read es = .valid a →
    r.read (Spec.textEntries (r.fields a)) = .valid a ∧
      List.Forall₂ (FieldRead r.self es) r.names (r.fields a)

theorem Joinless.lawful (h : r.Joinless) : r.Lawful where
  check_eq := h.check_eq
  rule_eq := h.rule_eq
  given := h.given
  known a es hes := by
    rw [eq_textEntries (h.joinless a) hes]
    exact h.known a
  read es a hes hread := by
    obtain ⟨hagain, hfields⟩ := h.read es a hes hread
    refine ⟨fun es' hes' => ?_, hfields⟩
    rw [eq_textEntries (h.joinless a) hes']
    exact hagain

structure Settled (r : Reading α) (v : Value) (a : α) : Prop where
  record : r.check (r.toValue a) = .valid a
  mapping : ∀ es, List.Forall₂ FieldSpelled (r.fields a) es → r.check (.mapping es) = .valid a
  rule : r.rule a = .valid a
  proper : (r.toValue a).Proper
  retained : Retained r.self r.self.keeps v (r.toValue a)

theorem check_record (fields : List (String × Value)) :
    r.check (.record r.self fields) = r.read (Spec.textEntries fields) := by
  rw [check, schema, beq_self_eq_true, if_pos rfl]
  rfl

theorem isUnset_of_spelled {fields : List (String × Value)} {es : List (Value × Value)}
    (hgiven : ∀ f ∈ fields, f.2.isUnset = false) (h : List.Forall₂ FieldSpelled fields es) :
    ∀ e ∈ es, e.2.isUnset = false := by
  induction h with
  | nil => exact List.forall_mem_nil _
  | @cons field e _ _ hfield _ ih =>
    obtain ⟨hhere, hrest⟩ := List.forall_mem_cons.1 hgiven
    refine List.forall_mem_cons.2 ⟨?_, ih hrest⟩
    obtain ⟨-, hvalue⟩ := hfield
    split at hvalue
    · exact (SpelledJoin.isUnset_eq hvalue).symm.trans hhere
    · exact hvalue ▸ hhere

theorem Lawful.check_mapping (hr : r.Lawful) (hrule : r.rule a = .valid a)
    (hagain : ∀ es, List.Forall₂ FieldSpelled (r.fields a) es → r.read es = .valid a)
    {es : List (Value × Value)} (hes : List.Forall₂ FieldSpelled (r.fields a) es) :
    r.check (.mapping es) = .valid a := by
  have hdrop := Value.dropUnset_of_given (isUnset_of_spelled (hr.given a) hes)
  rw [check, schema, hdrop, hr.known a es hes, hagain es hes]
  exact hrule

/-- A key that is given is a key of a field. -/
theorem exists_find? {names : List FieldName} {es : List (Value × Value)} {key : String} {w : Value}
    (hknown : unknownKeys names es = []) (h : Value.lookupText key es = some w) :
    ∃ name ∈ names, name.find? es = some (key, w) := by
  obtain ⟨k, hmem, hkey⟩ := Value.exists_of_lookupText h
  have hunknown := List.flatMap_eq_nil_iff.1 hknown _ hmem
  rw [unknownKey, hkey] at hunknown
  dsimp only at hunknown
  split at hunknown
  · next hmem =>
    obtain ⟨name, hname, hgiven⟩ := List.mem_filterMap.1 (List.contains_iff_mem.1 hmem)
    refine ⟨name, hname, ?_⟩
    rw [FieldName.find?, hgiven, Option.bind_some, h]
    rfl
  · cases hunknown

theorem Lawful.settled (hr : r.Lawful) (hv : v.Proper) (h : r.check v = .valid a) :
    r.Settled v a := by
  -- An instance goes back to a value that is proper in turn, until one is no instance.
  induction hv generalizing a with
  | @value v hv hparts _ =>
    cases v with
    | mapping es =>
      obtain ⟨b, hread, hrule⟩ := Checked.andThen_eq_valid h
      obtain rfl := hr.rule_eq b a hrule
      have hknown := Checked.withIssues_eq_nil hread
      have hes : ∀ e ∈ Value.dropUnset es, e.2.Proper := fun e he =>
        hparts e.2 (List.mem_map_of_mem (Value.mem_dropUnset he).1)
      have hsettled := hr.read _ a hes (Checked.withIssues_eq_valid hread)
      refine ⟨?_, fun es' => hr.check_mapping hrule hsettled.again, hrule, ?_, ?_⟩
      · rw [toValue, check_record]
        exact hsettled.again _ (spelled_textEntries _)
      · have hcheck : r.self.check (.mapping es) = .valid (.record r.self (r.fields a)) := by
          rw [hr.check_eq, h]
          rfl
        exact .checked (.value hv hparts) hcheck hsettled.proper
      · refine ⟨fun fields hfields => ?_, fun es' hes' => ?_⟩
        · cases hfields
        · obtain rfl := Value.mapping.inj hes'
          refine ⟨r.fields a, rfl, fun key w hgiven => ?_⟩
          obtain ⟨name, hname, hfind⟩ := exists_find? hknown hgiven
          exact hsettled.kept hname hfind
    | record schema fields => exact absurd rfl (hv schema fields)
    | _ => cases h
  | @checked schema fields raw hraw hcheck hfields ih =>
    have hself : schema = r.self := by
      rw [check, Check.schema] at h
      split at h
      · next heq => exact beq_iff_eq.1 heq
      · cases h
    subst hself
    rw [hr.check_eq] at hcheck
    obtain ⟨b, hb, hvalue⟩ := Checked.map_eq_valid hcheck
    have hsettled := ih hb
    -- The value is the instance that `b` gives, so it is read as `b`.
    have hrecord := hsettled.record
    rw [hvalue] at hrecord
    obtain rfl : b = a := Checked.valid.inj (hrecord.symm.trans h)
    refine ⟨hsettled.record, hsettled.mapping, hsettled.rule, hsettled.proper, ?_, fun es hes => ?_⟩
    · exact fun _ _ => hvalue
    · cases hes

end Reading

section FieldRead

variable {α : Type} {name : FieldName} {es : List (Value × Value)} {check : Check α}
  {toValue : α → Value} {spelled kept : Value → Value → Prop} {a : α} {self : SchemaName}
  {p : String}

theorem FieldName.Settled.read (h : name.Settled es check toValue spelled kept a)
    (hkeys : ∀ key ∈ name.keys, fieldOf key = p ∧ ∀ v u, kept v u → self.keeps key v u) :
    FieldRead self es name (p, toValue a) where
  proper := h.proper
  kept key w hfind := by
    obtain ⟨-, hkey⟩ := FieldName.exists_of_find? hfind
    obtain ⟨hfield, hkeeps⟩ := hkeys key hkey
    exact ⟨hfield, hkeeps _ _ (h.kept key w hfind)⟩

theorem keeps_eq_keepsOpen {key : String}
    (h : self = .select → key ≠ "join" ∧ key ≠ "order") : self.keeps key = keepsOpen key := by
  have hjoin : ¬(self = .select ∧ key = "join") := fun hkey => (h hkey.1).1 hkey.2
  have horder : ¬(self = .select ∧ key = "order") := fun hkey => (h hkey.1).2 hkey.2
  rw [SchemaName.keeps, if_neg hjoin, if_neg horder]

/-- A field that is no list of specifications and no join. -/
theorem FieldName.Settled.read_open (h : name.Settled es check toValue spelled KeptMapping a)
    (hkeys : ∀ key ∈ name.keys,
      fieldOf key = p ∧ (self = .select → key ≠ "join" ∧ key ≠ "order")) :
    FieldRead self es name (p, toValue a) := by
  refine h.read fun key hkey => ⟨(hkeys key hkey).1, fun v u hkept => ?_⟩
  rw [keeps_eq_keepsOpen (hkeys key hkey).2]
  exact fun _ => hkept

end FieldRead

end ParamSql
