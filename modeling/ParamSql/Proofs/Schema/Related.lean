import Mathlib.Data.List.Forall2
import Mathlib.Data.Option.Basic
import ParamSql.Proofs.Schema.Check
import ParamSql.Proofs.Value.Prune

/-!
Checks that come to the same.

`Checked.Related R x y` says that two checks both pass, with results related by `R`, or both fail
with the same issues. There is a rule for each way of putting checks together; for schemas and their
fields the second check is that of a mapping whose values were replaced by name.
-/

namespace ParamSql

namespace Checked

variable {α β γ δ : Type}

/-- Both checks pass with related results, or both fail with the same issues. -/
inductive Related (R : α → β → Prop) : Checked α → Checked β → Prop where
  | valid {a : α} {b : β} (h : R a b) : Related R (.valid a) (.valid b)
  | invalid (issues : List Issue) : Related R (.invalid issues) (.invalid issues)

namespace Related

variable {R : α → β → Prop} {S : γ → δ → Prop} {x : Checked α} {y : Checked β}

theorem refl {R : α → α → Prop} (h : ∀ a, R a a) (x : Checked α) : Related R x x := by
  cases x with
  | valid a => exact .valid (h a)
  | invalid issues => exact .invalid issues

theorem map {f : α → γ} {g : β → δ} (h : Related R x y) (hfg : ∀ a b, R a b → S (f a) (g b)) :
    Related S (f <$> x) (g <$> y) := by
  cases h with
  | valid h => exact .valid (hfg _ _ h)
  | invalid issues => exact .invalid issues

theorem seq {f : Checked (α → γ)} {g : Checked (β → δ)}
    (hfg : Related (fun f g => ∀ a b, R a b → S (f a) (g b)) f g) (h : Related R x y) :
    Related S (f <*> x) (g <*> y) := by
  cases hfg with
  | valid hfg =>
    cases h with
    | valid h => exact .valid (hfg _ _ h)
    | invalid issues => exact .invalid issues
  | invalid first =>
    cases h with
    | valid h => exact .invalid first
    | invalid issues => exact .invalid (first ++ issues)

theorem under (step : Step) (h : Related R x y) : Related R (x.under step) (y.under step) := by
  cases h with
  | valid h => exact .valid h
  | invalid issues => exact .invalid _

theorem withIssues (further : List Issue) (h : Related R x y) :
    Related R (x.withIssues further) (y.withIssues further) := by
  cases h with
  | valid h =>
    rw [Checked.withIssues, Checked.withIssues]
    split
    · exact .valid h
    · exact .invalid _
  | invalid issues => exact .invalid _

theorem andThen {f : α → Checked γ} {g : β → Checked δ} (h : Related R x y)
    (hfg : ∀ a b, R a b → Related S (f a) (g b)) : Related S (x.andThen f) (y.andThen g) := by
  cases h with
  | valid h => exact hfg _ _ h
  | invalid issues => exact .invalid _

end Related

end Checked

namespace Check

open Checked

variable {α β : Type} {R : α → β → Prop} {check : Check α} {check' : Check β} {v w : Value}

theorem nullable_related (h : Related R (check v) (check' w)) (hnull : v.isNull = w.isNull) :
    Related (Option.Rel R) (nullable check v) (nullable check' w) := by
  by_cases hv : v = .null
  · subst hv
    have hw : w = .null := by
      cases w <;> first | rfl | nomatch hnull
    subst hw
    exact .valid .none
  · have hw : w ≠ .null := by
      rintro rfl
      cases v <;> first | exact hv rfl | nomatch hnull
    rw [nullable, nullable]
    · exact h.map fun _ _ => .some
    · exact hw
    · exact hv

theorem either_related {first second : Check α} {first' second' : Check β}
    (hfirst : Related R (first v) (first' w)) (hsecond : Related R (second v) (second' w)) :
    Related R (either first second v) (either first' second' w) := by
  rw [either, either]
  generalize first v = x at hfirst
  generalize first' w = y at hfirst
  generalize second v = x' at hsecond
  generalize second' w = y' at hsecond
  cases hfirst with
  | valid h => exact .valid h
  | invalid issues =>
    cases hsecond with
    | valid h => exact .valid h
    | invalid more => exact .invalid _

theorem items_related {vs ws : List Value}
    (h : List.Forall₂ (fun v w => Related R (check v) (check' w)) vs ws) (start : Nat) :
    Related (List.Forall₂ R) (items check start vs) (items check' start ws) := by
  induction h generalizing start with
  | nil => exact .valid .nil
  | cons hhere _ ih =>
    rw [items, items]
    refine .seq ((hhere.under _).map fun a b hab as bs habs => ?_) (ih _)
    exact .cons hab habs

def named (es : List (Value × Value)) : List (String × Value) :=
  es.map fun e => (e.1.text?.getD "", e.2)

/-- In a mapping by name nothing is checked but what its values are. -/
theorem entries_any {es : List (Value × Value)} (h : Value.ByName es) :
    entries .any es = .valid (named es) := by
  induction es with
  | nil => rfl
  | cons e rest ih =>
    obtain ⟨⟨htext, -⟩, hrest⟩ := Value.ByName.cons_iff.1 h
    obtain ⟨key, value⟩ := e
    rw [entries, ih hrest]
    cases key <;> first | rfl | nomatch htext

theorem putNamed_of_new {name : String} {value : α} {es : List (String × α)}
    (h : name ∉ es.map Prod.fst) : Value.putNamed name value es = es ++ [(name, value)] := by
  induction es with
  | nil => rfl
  | cons e rest ih =>
    rw [List.map_cons, List.mem_cons, not_or] at h
    have hne : (e.1 == name) = false := beq_eq_false_iff_ne.2 (Ne.symm h.1)
    rw [Value.putNamed, hne, if_neg Bool.false_ne_true, ih h.2]
    rfl

/-- Names that are all different stay as they are. -/
theorem merged_of_nodup {es : List (String × α)} (h : (es.map Prod.fst).Nodup) :
    merged es = es := by
  have hfold : ∀ (before after : List (String × α)), ((before ++ after).map Prod.fst).Nodup →
      after.foldl (fun acc e => Value.putNamed e.1 e.2 acc) before = before ++ after := by
    intro before after
    induction after generalizing before with
    | nil =>
      intro _
      rw [List.append_nil]
      rfl
    | cons e rest ih =>
      intro hnodup
      have hnew : e.1 ∉ before.map Prod.fst := by
        rw [List.map_append, List.map_cons] at hnodup
        exact fun hmem => (List.nodup_append.1 hnodup).2.2 _ hmem _ List.mem_cons_self rfl
      rw [List.foldl_cons, putNamed_of_new hnew, ih _ (by simpa using hnodup)]
      simp
  exact hfold [] es h

theorem nodup_named {es : List (Value × Value)} (h : Value.ByName es) :
    ((named es).map Prod.fst).Nodup := by
  induction es with
  | nil => exact List.nodup_nil
  | cons e rest ih =>
    obtain ⟨⟨htext, hother⟩, hrest⟩ := Value.ByName.cons_iff.1 h
    rw [named, List.map_cons, List.map_cons, List.nodup_cons]
    refine ⟨fun hmem => ?_, ih hrest⟩
    obtain ⟨_, hnamed, hname⟩ := List.mem_map.1 hmem
    obtain ⟨e', he', rfl⟩ := List.mem_map.1 hnamed
    obtain ⟨s, hs⟩ := Option.isSome_iff_exists.1 htext
    obtain ⟨s', hs'⟩ := Option.isSome_iff_exists.1 (hrest.text e' he')
    dsimp only at hname
    rw [hs, hs'] at hname
    obtain rfl : s' = s := hname
    exact hother e' he' (hs.trans hs'.symm)

theorem mappingOf_any {es : List (Value × Value)} (h : Value.ByName es) :
    mappingOf .any (.mapping es) = .valid (named es) := by
  rw [mappingOf, entries_any h]
  exact congrArg Checked.valid (merged_of_nodup (nodup_named h))

end Check

/-! ## Fields -/

namespace FieldName

open Checked

variable {α β : Type} {R : α → β → Prop} {name : FieldName} {es : List (Value × Value)}
  {f : String → Value → Value}

theorem given?_overFields (name : FieldName) (f : String → Value → Value)
    (es : List (Value × Value)) : name.given? (Value.overFields f es) = name.given? es := by
  rw [given?, given?, Value.lookupText_overFields]
  cases Value.lookupText name.key es with
  | some v => rfl
  | none =>
    simp only [Option.map_none, Value.lookupText_overFields, Option.isSome_map]

theorem find?_overFields (name : FieldName) (f : String → Value → Value)
    (es : List (Value × Value)) :
    name.find? (Value.overFields f es) = (name.find? es).map fun e => (e.1, f e.1 e.2) := by
  rw [find?, find?, given?_overFields]
  cases name.given? es with
  | none => rfl
  | some key =>
    rw [Option.bind_some, Option.bind_some, Value.lookupText_overFields, Option.map_map,
      Option.map_map]
    rfl

/-- The keys that a field can be given under. -/
def keys (name : FieldName) : List String :=
  name.key :: name.second.toList

/-- A field that is given is an entry under one of its keys. -/
theorem exists_of_find? {key : String} {v : Value} (h : name.find? es = some (key, v)) :
    (∃ k, (k, v) ∈ es) ∧ key ∈ name.keys := by
  rw [find?] at h
  obtain ⟨key', hgiven, hmap⟩ := Option.bind_eq_some_iff.1 h
  obtain ⟨v', hlookup, heq⟩ := Option.map_eq_some_iff.1 hmap
  obtain ⟨rfl, rfl⟩ := Prod.mk.inj heq
  refine ⟨Value.mem_of_lookupText hlookup, ?_⟩
  rw [given?] at hgiven
  rw [keys, List.mem_cons, Option.mem_toList]
  split at hgiven
  · exact .inl (Option.some.inj hgiven).symm
  · exact .inr (Option.filter_eq_some_iff.1 hgiven).1

variable {check : Check α} {check' : Check β}

theorem required_related
    (h : ∀ key ∈ name.keys, ∀ k v, (k, v) ∈ es → Related R (check v) (check' (f key v))) :
    Related R (name.required check es) (name.required check' (Value.overFields f es)) := by
  rw [required, required, find?_overFields]
  cases hfind : name.find? es with
  | none => exact .invalid _
  | some e =>
    obtain ⟨⟨k, hmem⟩, hkey⟩ := exists_of_find? hfind
    exact (h e.1 hkey k e.2 hmem).under _

theorem optional_related {fallback : α} {fallback' : β} (hfallback : R fallback fallback')
    (h : ∀ key ∈ name.keys, ∀ k v, (k, v) ∈ es → Related R (check v) (check' (f key v))) :
    Related R (name.optional fallback check es)
      (name.optional fallback' check' (Value.overFields f es)) := by
  rw [optional, optional, find?_overFields]
  cases hfind : name.find? es with
  | none => exact .valid hfallback
  | some e =>
    obtain ⟨⟨k, hmem⟩, hkey⟩ := exists_of_find? hfind
    exact (h e.1 hkey k e.2 hmem).under _

/-- The values under the keys of the field stay as they are. -/
def Untouched (f : String → Value → Value) (name : FieldName) : Prop :=
  ∀ key ∈ name.keys, ∀ v, f key v = v

theorem untouched_of_not_mem {touched : List String}
    (hf : ∀ key, key ∉ touched → ∀ v, f key v = v) (h : ∀ key ∈ name.keys, key ∉ touched) :
    Untouched f name :=
  fun key hkey => hf key (h key hkey)

theorem Untouched.required (h : Untouched f name) (check : Check α) (es : List (Value × Value)) :
    Related Eq (name.required check es) (name.required check (Value.overFields f es)) := by
  refine required_related fun key hkey k v _ => ?_
  rw [h key hkey]
  exact .refl (fun _ => rfl) _

theorem Untouched.optional (h : Untouched f name) (fallback : α) (check : Check α)
    (es : List (Value × Value)) :
    Related Eq (name.optional fallback check es)
      (name.optional fallback check (Value.overFields f es)) := by
  refine optional_related rfl fun key hkey k v _ => ?_
  rw [h key hkey]
  exact .refl (fun _ => rfl) _

end FieldName

/-! ## Schemas -/

namespace Check

open Checked

variable {α : Type} {R : α → α → Prop} {f : String → Value → Value}

theorem unknownKeys_overFields (names : List FieldName) (es : List (Value × Value)) :
    unknownKeys names (Value.overFields f es) = unknownKeys names es := by
  simp only [unknownKeys, FieldName.given?_overFields]
  rw [Value.overFields, List.flatMap_map]

theorem schema_related {self : SchemaName} {names : List FieldName}
    {read : List (Value × Value) → Checked α} {rule : α → Checked α} {es : List (Value × Value)}
    (hset : ∀ name v, (f name v).isUnset = v.isUnset)
    (hread : Related R (read (Value.dropUnset es)) (read (Value.overFields f (Value.dropUnset es))))
    (hrule : ∀ a b, R a b → Related R (rule a) (rule b)) :
    Related R (schema self names read rule (.mapping es))
      (schema self names read rule (.mapping (Value.overFields f (Value.dropUnset es)))) := by
  have hdrop : Value.dropUnset (Value.overFields f (Value.dropUnset es)) =
      Value.overFields f (Value.dropUnset es) := by
    refine Value.dropUnset_of_given fun e he => ?_
    obtain ⟨e', he', rfl⟩ := List.mem_map.1 he
    have hgiven := (Value.mem_dropUnset he').2
    cases e'.1.text? with
    | none => exact hgiven
    | some name => exact (hset name e'.2).trans hgiven
  rw [schema, schema, hdrop, unknownKeys_overFields]
  exact (hread.withIssues _).andThen hrule

end Check

end ParamSql
