import Mathlib.Data.List.Nodup
import ParamSql.Value.Key

/-!
Schemas without their `unset` entries.

`unset` stands for a value that is not given, so an entry that holds it can be left out: at every
depth of a specification (`Value.prune`), and at the first level of the mappings whose values are
bound as they are (`Value.pruneFirst`). `Value.pruneSchema` leaves out all of them in the schema of
a statement. Mappings that become empty stay, and so do lists and table references.
-/

namespace ParamSql.Value

/-! ## Pruning -/

mutual

/-- A mapping without its `unset` entries, at every depth of the mappings in it. -/
def prune : Value → Value
  | .mapping es => .mapping (pruneEntries es)
  | value => value

def pruneEntries : List (Value × Value) → List (Value × Value)
  | [] => []
  | (key, value) :: rest =>
    if value.isUnset then pruneEntries rest else (key, prune value) :: pruneEntries rest

end

/-- A mapping without its `unset` entries, at its first level only. -/
def pruneFirst : Value → Value
  | .mapping es => .mapping (dropUnset es)
  | value => value

/-- A value, or each item of a list, pruned in some way. -/
def pruneEach (pruned : Value → Value) : Value → Value
  | .list items => .list (items.map pruned)
  | .tuple items => .tuple (items.map pruned)
  | value => pruned value

/-- The entries of a mapping with each value replaced according to its name. -/
def overFields (f : String → Value → Value) (es : List (Value × Value)) : List (Value × Value) :=
  es.map fun e => (e.1, (e.1.text?.map fun name => f name e.2).getD e.2)

/-- A field of a join: only its condition is pruned. -/
def pruneJoinField (name : String) (value : Value) : Value :=
  if name = "on" then prune value else value

/-- A join without the fields that are `unset`; an instance has no such fields. -/
def pruneJoin : Value → Value
  | .mapping es => .mapping (overFields pruneJoinField (dropUnset es))
  | .record schema fields => .record schema (fields.map fun f => (f.1, pruneJoinField f.1 f.2))
  | value => value

def pruneField (name : String) (value : Value) : Value :=
  if name = "where" then prune value
  else if name = "order" then pruneEach prune value
  else if name = "join" then pruneEach pruneJoin value
  else if name = "values" ∨ name = "set" then pruneFirst value
  else value

/-- The schema of a statement without what is `unset`. -/
def pruneSchema : Value → Value
  | .mapping es => .mapping (overFields pruneField (dropUnset es))
  | value => value

/-! ## Mappings by name -/

/-- Every key is a text, and no two are the same. -/
structure ByName (es : List (Value × Value)) : Prop where
  text : ∀ e ∈ es, e.1.text?.isSome = true
  distinct : (es.map fun e => e.1.text?).Nodup

def parts : Value → List Value
  | .list items | .tuple items => items
  | .mapping es => es.map Prod.snd
  | .record _ fields => fields.map Prod.snd
  | _ => []

/-- The keys of every mapping in the value are texts, no two of one mapping the same. -/
inductive Named : Value → Prop where
  | intro {value : Value} (hkeys : ∀ es, value = .mapping es → ByName es)
    (hparts : ∀ part ∈ value.parts, Named part) : Named value

theorem Named.byName {es : List (Value × Value)} (h : Named (.mapping es)) : ByName es := by
  cases h with
  | intro hkeys _ => exact hkeys es rfl

theorem Named.part {value part : Value} (h : Named value) (hpart : part ∈ value.parts) :
    Named part := by
  cases h with
  | intro _ hparts => exact hparts part hpart

theorem Named.mapping {es : List (Value × Value)} (h : ByName es) (hvalues : ∀ e ∈ es, Named e.2) :
    Named (.mapping es) := by
  refine .intro (fun es' hes => ?_) fun part hpart => ?_
  · exact Value.mapping.inj hes ▸ h
  · obtain ⟨e, he, rfl⟩ := List.mem_map.1 hpart
    exact hvalues e he

theorem Named.list {items : List Value} (h : ∀ item ∈ items, Named item) : Named (.list items) :=
  .intro nofun h

/-- A value without any parts that is no mapping. -/
theorem Named.scalar {value : Value} (hvalue : ∀ es, value ≠ .mapping es) (h : value.parts = []) :
    Named value := by
  refine .intro (fun es hes => absurd hes (hvalue es)) fun part hpart => ?_
  rw [h] at hpart
  cases hpart

/-! ## Induction on the parts -/

theorem sizeOf_lt_of_mem_parts {v part : Value} (h : part ∈ v.parts) : sizeOf part < sizeOf v := by
  cases v with
  | list items =>
    have hlt : sizeOf part < sizeOf items := List.sizeOf_lt_of_mem h
    rw [list.sizeOf_spec]
    omega
  | tuple items =>
    have hlt : sizeOf part < sizeOf items := List.sizeOf_lt_of_mem h
    rw [tuple.sizeOf_spec]
    omega
  | mapping es =>
    obtain ⟨⟨key, value⟩, he, rfl⟩ := List.mem_map.1 h
    have hlt := List.sizeOf_lt_of_mem he
    rw [Prod.mk.sizeOf_spec] at hlt
    rw [mapping.sizeOf_spec]
    show sizeOf value < _
    omega
  | record schema fields =>
    obtain ⟨⟨name, value⟩, hf, rfl⟩ := List.mem_map.1 h
    have hlt := List.sizeOf_lt_of_mem hf
    rw [Prod.mk.sizeOf_spec] at hlt
    rw [record.sizeOf_spec]
    show sizeOf value < _
    omega
  | _ => cases h

/-- What holds of a value if it holds of its parts holds of every value. -/
theorem parts_induction {P : Value → Prop} (step : ∀ v, (∀ part ∈ v.parts, P part) → P v)
    (v : Value) : P v :=
  step v fun part _ => parts_induction step part
termination_by sizeOf v
decreasing_by exact sizeOf_lt_of_mem_parts ‹_›

/-! ## What pruning leaves -/

variable {es : List (Value × Value)} {e : Value × Value} {value : Value}

theorem dropUnset_cons {α : Type} (e : α × Value) (rest : List (α × Value)) :
    dropUnset (e :: rest) = if e.2.isUnset then dropUnset rest else e :: dropUnset rest := by
  rw [dropUnset, List.filter_cons]
  cases e.2.isUnset <;> simp [dropUnset]

theorem mem_dropUnset {α : Type} {es : List (α × Value)} {e : α × Value} (h : e ∈ dropUnset es) :
    e ∈ es ∧ e.2.isUnset = false := by
  simpa [dropUnset] using h

theorem dropUnset_of_given {α : Type} {es : List (α × Value)}
    (h : ∀ e ∈ es, e.2.isUnset = false) : dropUnset es = es := by
  rw [dropUnset, List.filter_eq_self]
  intro e he
  rw [h e he]
  rfl

@[simp] theorem dropUnset_dropUnset {α : Type} (es : List (α × Value)) :
    dropUnset (dropUnset es) = dropUnset es :=
  dropUnset_of_given fun _ he => (mem_dropUnset he).2

/-- Only a mapping has something to leave out. -/
theorem prune_cases (value : Value) :
    (∃ es, value = .mapping es ∧ value.prune = .mapping (pruneEntries es)) ∨
      (∀ es, value ≠ .mapping es) ∧ value.prune = value := by
  cases value with
  | mapping es => exact .inl ⟨es, rfl, by rw [prune]⟩
  | _ => exact .inr ⟨nofun, by simp [prune]⟩

/-- Pruning makes nothing `unset`, and keeps what is. -/
@[simp] theorem isUnset_prune (value : Value) : value.prune.isUnset = value.isUnset := by
  cases value <;> simp [prune, isUnset]

@[simp] theorem isNull_prune (value : Value) : value.prune.isNull = value.isNull := by
  cases value <;> simp [prune, isNull]

/-- What is left of the entries: those that are given, with their values pruned. -/
theorem pruneEntries_eq (es : List (Value × Value)) :
    pruneEntries es = (dropUnset es).map fun e => (e.1, prune e.2) := by
  induction es with
  | nil => rw [pruneEntries]; rfl
  | cons e rest ih =>
    obtain ⟨key, value⟩ := e
    rw [pruneEntries, dropUnset_cons, ih]
    split <;> rfl

theorem pruneEntries_cons (key value : Value) (rest : List (Value × Value)) :
    pruneEntries ((key, value) :: rest) =
      if value.isUnset then pruneEntries rest else (key, prune value) :: pruneEntries rest := by
  rw [pruneEntries]

theorem isUnset_of_mem_pruneEntries (h : e ∈ pruneEntries es) : e.2.isUnset = false := by
  rw [pruneEntries_eq] at h
  obtain ⟨e', he', rfl⟩ := List.mem_map.1 h
  rw [isUnset_prune]
  exact (mem_dropUnset he').2

/-- Nothing is left that could still be left out. -/
@[simp] theorem dropUnset_pruneEntries (es : List (Value × Value)) :
    dropUnset (pruneEntries es) = pruneEntries es :=
  dropUnset_of_given fun _ => isUnset_of_mem_pruneEntries

/-- Entries left out at the first level are left out anyway. -/
theorem pruneEntries_dropUnset (es : List (Value × Value)) :
    pruneEntries (dropUnset es) = pruneEntries es := by
  rw [pruneEntries_eq, pruneEntries_eq, dropUnset_dropUnset]

/-- Entries chosen by their keys can be chosen before or after. -/
theorem pruneEntries_filter (p : Value → Bool) (es : List (Value × Value)) :
    pruneEntries (es.filter fun e => p e.1) = (pruneEntries es).filter fun e => p e.1 := by
  induction es with
  | nil => rw [List.filter_nil, pruneEntries, List.filter_nil]
  | cons e rest ih =>
    obtain ⟨key, value⟩ := e
    rw [List.filter_cons, pruneEntries_cons]
    cases hkey : p key <;> cases hset : value.isUnset <;> simp [pruneEntries_cons, hkey, hset, ih]

theorem ByName.cons_iff : ByName (e :: es) ↔
    (e.1.text?.isSome = true ∧ ∀ e' ∈ es, e.1.text? ≠ e'.1.text?) ∧ ByName es := by
  constructor
  · rintro ⟨htext, hdistinct⟩
    obtain ⟨hhere, hrest⟩ := List.forall_mem_cons.1 htext
    rw [List.map_cons, List.nodup_cons] at hdistinct
    refine ⟨⟨hhere, fun e' he' heq => hdistinct.1 ?_⟩, hrest, hdistinct.2⟩
    exact heq ▸ List.mem_map_of_mem he'
  · rintro ⟨⟨hhere, hother⟩, htext, hdistinct⟩
    refine ⟨List.forall_mem_cons.2 ⟨hhere, htext⟩, ?_⟩
    rw [List.map_cons, List.nodup_cons]
    refine ⟨fun hmem => ?_, hdistinct⟩
    obtain ⟨e', he', heq⟩ := List.mem_map.1 hmem
    exact hother e' he' heq.symm

theorem ByName.sublist {es' : List (Value × Value)} (h : ByName es)
    (hsub : (es'.map Prod.fst).Sublist (es.map Prod.fst)) : ByName es' := by
  have hnames : (es'.map fun e => e.1.text?).Sublist (es.map fun e => e.1.text?) := by
    simpa [List.map_map, Function.comp_def] using hsub.map Value.text?
  refine ⟨fun e he => ?_, h.distinct.sublist hnames⟩
  obtain ⟨e', he', hkey⟩ := List.mem_map.1 (hsub.subset (List.mem_map_of_mem he))
  rw [← hkey]
  exact h.text e' he'

theorem keys_dropUnset_sublist (es : List (Value × Value)) :
    ((dropUnset es).map Prod.fst).Sublist (es.map Prod.fst) :=
  List.filter_sublist.map Prod.fst

theorem keys_pruneEntries (es : List (Value × Value)) :
    (pruneEntries es).map Prod.fst = (dropUnset es).map Prod.fst := by
  rw [pruneEntries_eq, List.map_map]
  rfl

theorem ByName.dropUnset (h : ByName es) : ByName (dropUnset es) :=
  h.sublist (keys_dropUnset_sublist es)

theorem ByName.pruneEntries (h : ByName es) : ByName (pruneEntries es) := by
  refine h.sublist ?_
  rw [keys_pruneEntries]
  exact keys_dropUnset_sublist es

/-! ## Lookups -/

theorem lookupText_cons (name : String) (e : Value × Value) (rest : List (Value × Value)) :
    lookupText name (e :: rest) =
      if e.1.text? = some name then some e.2 else lookupText name rest := by
  rw [lookupText]
  by_cases h : e.1.text? = some name <;> simp [h]

theorem lookupText_overFields (f : String → Value → Value) (name : String)
    (es : List (Value × Value)) :
    lookupText name (overFields f es) = (lookupText name es).map (f name) := by
  induction es with
  | nil => rfl
  | cons e rest ih =>
    rw [overFields] at ih ⊢
    rw [List.map_cons, lookupText_cons, lookupText_cons, ih]
    by_cases h : e.1.text? = some name
    · rw [if_pos h, if_pos h, h]
      rfl
    · rw [if_neg h, if_neg h]

/-- What is found under a name is an entry with that name. -/
theorem exists_of_lookupText {name : String} (h : lookupText name es = some value) :
    ∃ key, (key, value) ∈ es ∧ key.text? = some name := by
  induction es with
  | nil => cases h
  | cons e rest ih =>
    rw [lookupText_cons] at h
    split at h
    · next hkey =>
      obtain rfl := Option.some.inj h
      exact ⟨e.1, List.mem_cons_self, hkey⟩
    · obtain ⟨key, hmem, hkey⟩ := ih h
      exact ⟨key, List.mem_cons_of_mem e hmem, hkey⟩

theorem mem_of_lookupText {name : String} (h : lookupText name es = some value) :
    ∃ key, (key, value) ∈ es := by
  obtain ⟨key, hmem, -⟩ := exists_of_lookupText h
  exact ⟨key, hmem⟩

theorem lookupText_eq_none {name : String} (h : ∀ e ∈ es, e.1.text? ≠ some name) :
    lookupText name es = none := by
  induction es with
  | nil => rfl
  | cons e rest ih =>
    obtain ⟨hhere, hrest⟩ := List.forall_mem_cons.1 h
    rw [lookupText_cons, if_neg hhere, ih hrest]

/-- In a mapping by name, what a pruned mapping has under a name is what was given there. -/
theorem lookupText_pruneEntries (h : ByName es) (name : String) :
    lookupText name (pruneEntries es) =
      ((lookupText name es).filter fun v => !v.isUnset).map prune := by
  induction es with
  | nil => rw [pruneEntries]; rfl
  | cons e rest ih =>
    obtain ⟨⟨-, hother⟩, hrest⟩ := ByName.cons_iff.1 h
    obtain ⟨key, value⟩ := e
    rw [pruneEntries_cons, lookupText_cons]
    by_cases hkey : key.text? = some name
    · rw [if_pos hkey]
      cases hset : value.isUnset with
      | true =>
        -- The name is not given again.
        have hnone : ∀ e ∈ rest, e.1.text? ≠ some name := fun e he heq =>
          hother e he (hkey.trans heq.symm)
        rw [if_pos rfl, ih hrest, lookupText_eq_none hnone, Option.filter_some, hset]
        rfl
      | false =>
        rw [if_neg Bool.false_ne_true, lookupText_cons, if_pos hkey, Option.filter_some, hset]
        rfl
    · rw [if_neg hkey, ← ih hrest]
      split
      · rfl
      · rw [lookupText_cons, if_neg hkey]

/-- A field of the first level is read as if all `unset` ones were left out. -/
theorem lookupText_dropUnset_pruneEntries (name : String) (es : List (Value × Value)) :
    lookupText name (dropUnset (pruneEntries es)) = (lookupText name (dropUnset es)).map prune := by
  rw [dropUnset_pruneEntries, pruneEntries_eq]
  induction dropUnset es with
  | nil => rfl
  | cons e rest ih =>
    rw [List.map_cons, lookupText_cons, lookupText_cons, ih]
    split <;> rfl

end ParamSql.Value
