import Mathlib.Logic.Relation
import ParamSql.Proofs.Clause.Spec
import ParamSql.Proofs.Schema.Related

/-!
Mappings of which some values are replaced.

`Value.Replaced R` says of two mappings that they have the same keys in the same order, and that a
value of the second one may be another, to which `R` relates the value of the first one under the
name that its key is. A field of a schema is then given in both or in neither, under the same key,
with the same value or a related one (`FieldName.find?_replaced`); so where the checks of related
values come to the same, those of the fields and of the schema do (`Check.schema_replaced`). The
mappings themselves are checked into tables by name in which the same values are replaced
(`Spec.check_replaced`).
-/

namespace ParamSql

open Checked Relation

theorem Check.text_of_text? {key : Value} {name : String} (h : key.text? = some name) :
    text key = .valid name := by
  cases key <;> first
    | exact congrArg Checked.valid (Option.some.inj h)
    | cases h

/-! ## Entries -/

namespace Value

/-- The same keys in the same order; `R` relates the values that differ under the name of their
key. -/
inductive Replaced (R : String → Value → Value → Prop) :
    List (Value × Value) → List (Value × Value) → Prop where
  | nil : Replaced R [] []
  | same (e : Value × Value) {rest rest' : List (Value × Value)} (hrest : Replaced R rest rest') :
    Replaced R (e :: rest) (e :: rest')
  | other {key v v' : Value} {name : String} {rest rest' : List (Value × Value)}
    (hkey : Check.text key = .valid name) (h : R name v v') (hrest : Replaced R rest rest') :
    Replaced R ((key, v) :: rest) ((key, v') :: rest')

variable {R : String → Value → Value → Prop} {es es' : List (Value × Value)}

theorem Replaced.keys_eq (h : Replaced R es es') : es.map Prod.fst = es'.map Prod.fst := by
  induction h with
  | nil => rfl
  | same e _ ih => rw [List.map_cons, List.map_cons, ih]
  | other _ _ _ ih => rw [List.map_cons, List.map_cons, ih]

theorem Replaced.dropUnset (hset : ∀ name v v', R name v v' → v.isUnset = v'.isUnset)
    (h : Replaced R es es') : Replaced R (dropUnset es) (dropUnset es') := by
  induction h with
  | nil => exact .nil
  | same e _ ih =>
    rw [dropUnset_cons, dropUnset_cons]
    split
    · exact ih
    · exact .same e ih
  | other hkey hv _ ih =>
    rw [dropUnset_cons, dropUnset_cons]
    dsimp only
    rw [hset _ _ _ hv]
    split
    · exact ih
    · exact .other hkey hv ih

/-- The value under a key is the same, or one related to it. -/
theorem Replaced.lookupText (h : Replaced R es es') (name : String) :
    Option.Rel (ReflGen (R name)) (lookupText name es) (lookupText name es') := by
  induction h with
  | nil => exact .none
  | same e _ ih =>
    rw [lookupText_cons, lookupText_cons]
    split
    · exact .some .refl
    · exact ih
  | @other key v v' name' rest rest' hkey hv _ ih =>
    rw [lookupText_cons, lookupText_cons]
    dsimp only
    split
    · next htext =>
      obtain rfl : name' = name := Checked.valid.inj (hkey.symm.trans (Check.text_of_text? htext))
      exact .some (.single hv)
    · exact ih

/-- The same name, and the same value or one that is related to it under the name. -/
def EntryReplaced (R : String → Value → Value → Prop) (b b' : String × Value) : Prop :=
  b.1 = b'.1 ∧ ReflGen (R b.1) b.2 b'.2

/-- Tables by name with the same names in the same order; values may be replaced. -/
abbrev TableReplaced (R : String → Value → Value → Prop) (bs bs' : List (String × Value)) : Prop :=
  List.Forall₂ (EntryReplaced R) bs bs'

end Value

/-! ## Fields -/

section Fields

variable {R : String → Value → Value → Prop} {es es' : List (Value × Value)}

namespace FieldName

variable {name : FieldName}

theorem given?_replaced (h : Value.Replaced R es es') : name.given? es = name.given? es' := by
  have hsome : ∀ key, (Value.lookupText key es).isSome = (Value.lookupText key es').isSome := by
    intro key
    have hvalue := h.lookupText key
    generalize Value.lookupText key es = x at hvalue
    generalize Value.lookupText key es' = y at hvalue
    cases hvalue <;> rfl
  have hkey := h.lookupText name.key
  rw [given?, given?]
  simp only [hsome]
  generalize Value.lookupText name.key es = x at hkey
  generalize Value.lookupText name.key es' = y at hkey
  cases hkey <;> rfl

theorem find?_replaced (h : Value.Replaced R es es') (name : FieldName) :
    Option.Rel (Value.EntryReplaced R) (name.find? es) (name.find? es') := by
  rw [find?, find?, given?_replaced h]
  cases name.given? es' with
  | none => exact .none
  | some key =>
    rw [Option.bind_some, Option.bind_some]
    have hvalue := h.lookupText key
    generalize Value.lookupText key es = x at hvalue
    generalize Value.lookupText key es' = y at hvalue
    cases hvalue with
    | none => exact .none
    | some hvalue => exact .some ⟨rfl, hvalue⟩

variable {α : Type} {S : α → α → Prop} {check : Check α}

theorem required_replaced (h : Value.Replaced R es es') (hrefl : ∀ a, S a a)
    (hcheck : ∀ key ∈ name.keys, ∀ k v v', (k, v) ∈ es → R key v v' →
      Related S (check v) (check v')) :
    Related S (name.required check es) (name.required check es') := by
  have hfound := find?_replaced h name
  rw [required, required]
  generalize hfind' : name.find? es' = found' at hfound
  cases hfind : name.find? es with
  | none =>
    rw [hfind] at hfound
    cases hfound
    exact .invalid _
  | some e =>
    obtain ⟨⟨k, hmem⟩, hkey⟩ := exists_of_find? hfind
    rw [hfind] at hfound
    cases hfound with
    | @some _ e' hvalue =>
      obtain ⟨key, v⟩ := e
      obtain ⟨key', v'⟩ := e'
      obtain ⟨rfl, hvalue⟩ := hvalue
      refine Related.under _ ?_
      cases hvalue with
      | refl => exact .refl hrefl _
      | single hvalue => exact hcheck key hkey k v v' hmem hvalue

theorem optional_replaced (h : Value.Replaced R es es') (hrefl : ∀ a, S a a) (fallback : α)
    (hcheck : ∀ key ∈ name.keys, ∀ k v v', (k, v) ∈ es → R key v v' →
      Related S (check v) (check v')) :
    Related S (name.optional fallback check es) (name.optional fallback check es') := by
  have hrequired := required_replaced h hrefl hcheck
  have hfound := find?_replaced h name
  rw [required, required] at hrequired
  rw [optional, optional]
  generalize name.find? es = found at hfound hrequired
  generalize name.find? es' = found' at hfound hrequired
  cases hfound with
  | none => exact .valid (hrefl fallback)
  | some _ => exact hrequired

/-- A field none of whose keys has a value that is given otherwise. -/
def Kept (R : String → Value → Value → Prop) (name : FieldName) : Prop :=
  ∀ key ∈ name.keys, ∀ v v', ¬ R key v v'

theorem Kept.required (hname : Kept R name) (h : Value.Replaced R es es') (check : Check α) :
    Related Eq (name.required check es) (name.required check es') :=
  required_replaced h (fun _ => rfl) fun key hkey _ v v' _ hv => absurd hv (hname key hkey v v')

theorem Kept.optional (hname : Kept R name) (h : Value.Replaced R es es') (fallback : α)
    (check : Check α) :
    Related Eq (name.optional fallback check es) (name.optional fallback check es') :=
  optional_replaced h (fun _ => rfl) fallback fun key hkey _ v v' _ hv =>
    absurd hv (hname key hkey v v')

end FieldName

namespace Check

theorem unknownKeys_replaced (h : Value.Replaced R es es') (names : List FieldName) :
    unknownKeys names es = unknownKeys names es' := by
  have hkeys : ∀ (given : List String) (es : List (Value × Value)),
      es.flatMap (fun e => unknownKey given e.1) =
        (es.map Prod.fst).flatMap (unknownKey given) := fun given es => by rw [List.flatMap_map]
  simp only [unknownKeys, FieldName.given?_replaced h]
  rw [hkeys, hkeys, h.keys_eq]

theorem schema_replaced {α : Type} {S : α → α → Prop} {self : SchemaName} {names : List FieldName}
    {read : List (Value × Value) → Checked α} {rule : α → Checked α}
    (hset : ∀ name v v', R name v v' → v.isUnset = v'.isUnset) (h : Value.Replaced R es es')
    (hread : Related S (read (Value.dropUnset es)) (read (Value.dropUnset es')))
    (hrule : ∀ a b, S a b → Related S (rule a) (rule b)) :
    Related S (schema self names read rule (.mapping es))
      (schema self names read rule (.mapping es')) := by
  rw [schema, schema, unknownKeys_replaced (h.dropUnset hset)]
  exact (hread.withIssues _).andThen hrule

end Check

/-! ## Specifications -/

theorem Value.replaced_textEntries {bs bs' : List (String × Value)} (h : TableReplaced R bs bs') :
    Replaced R (Spec.textEntries bs) (Spec.textEntries bs') := by
  induction h with
  | nil => exact .nil
  | @cons b b' rest rest' hb _ ih =>
    obtain ⟨name, v⟩ := b
    obtain ⟨name', v'⟩ := b'
    obtain ⟨rfl, hvalue⟩ := hb
    cases hvalue with
    | refl => exact .same _ ih
    | single hvalue => exact .other rfl hvalue ih

namespace Check

theorem entries_any_replaced (h : Value.Replaced R es es') :
    Related (Value.TableReplaced R) (entries .any es) (entries .any es') := by
  induction h with
  | nil => exact .valid .nil
  | same e _ ih =>
    rw [entries, entries]
    refine .seq (.map (R := Eq) (.refl (fun _ => rfl) _) ?_) ih
    rintro b _ rfl bs bs' hbs
    exact .cons ⟨rfl, .refl⟩ hbs
  | @other key v v' name rest rest' hkey hv _ ih =>
    rw [entries, entries, hkey]
    refine .seq (.valid fun bs bs' hbs => ?_) ih
    exact .cons ⟨rfl, .single hv⟩ hbs

theorem putNamed_replaced {b b' : String × Value} (hb : Value.EntryReplaced R b b')
    {bs bs' : List (String × Value)} (h : Value.TableReplaced R bs bs') :
    Value.TableReplaced R (Value.putNamed b.1 b.2 bs) (Value.putNamed b'.1 b'.2 bs') := by
  induction h with
  | nil => exact .cons hb .nil
  | @cons c c' rest rest' hc hrest ih =>
    obtain ⟨name, v⟩ := b
    obtain ⟨_, v'⟩ := b'
    obtain ⟨key, w⟩ := c
    obtain ⟨_, w'⟩ := c'
    obtain ⟨rfl, hvalue⟩ := hb
    obtain ⟨rfl, hold⟩ := hc
    rw [Value.putNamed, Value.putNamed]
    split
    · next heq =>
      obtain rfl : key = name := beq_iff_eq.1 heq
      exact .cons ⟨rfl, hvalue⟩ hrest
    · exact .cons ⟨rfl, hold⟩ ih

theorem merged_replaced {bs bs' : List (String × Value)} (h : Value.TableReplaced R bs bs') :
    Value.TableReplaced R (merged bs) (merged bs') := by
  have hfold : ∀ {done done' : List (String × Value)}, Value.TableReplaced R done done' →
      Value.TableReplaced R (bs.foldl (fun acc e => Value.putNamed e.1 e.2 acc) done)
        (bs'.foldl (fun acc e => Value.putNamed e.1 e.2 acc) done') := by
    induction h with
    | nil => exact fun hdone => hdone
    | cons hb _ ih => exact fun hdone => ih (putNamed_replaced hb hdone)
  exact hfold .nil

end Check

namespace Spec

inductive Replaced (R : String → Value → Value → Prop) : Spec → Spec → Prop where
  | same (spec : Spec) : Replaced R spec spec
  | mapping {bs bs' : List (String × Value)} (h : Value.TableReplaced R bs bs') :
    Replaced R (.mapping bs) (.mapping bs')

theorem check_replaced (h : Value.Replaced R es es') :
    Related (Replaced R) (check (.mapping es)) (check (.mapping es')) := by
  refine Check.either_related (.invalid _) ?_
  have hentries := (Check.entries_any_replaced h).map fun _ _ => Check.merged_replaced
  exact hentries.map fun _ _ => .mapping

end Spec

end Fields

end ParamSql
