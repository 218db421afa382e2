import Mathlib.Data.List.Induction
import ParamSql.Row
import ParamSql.Proofs.Identifier.Camel
import ParamSql.Proofs.Schema.Settled

/-!
Rows with their keys in camel case.

`Converted` says what a value with converted keys is: items are converted in place, what holds no
values is left alone, and a mapping has one entry for each key that its own keys come to, in the
order of their first entries, with the converted value of the last. Conversion gives such a value
(`converted_camelKeys`), and converting it again does nothing (`camelKeys_camelKeys`).

The entries of a mapping are converted one after the other into a table by name, so a step says what
one more entry does to the table (`names_putNamed`, `mem_putNamed_of_nodup`), and the keys and the
values of the whole table follow by induction on the entries (`names_merged`,
`lastOf_of_mem_merged`).
-/

namespace ParamSql

namespace Check

/-! ## Tables by name -/

variable {α β : Type} {name : String} {value : α} {bs : List (String × α)} {b : String × α}

def lastOf (name : String) (bs : List (String × α)) : Option α :=
  (bs.filter fun b => b.1 == name).getLast?.map Prod.snd

theorem lastOf_append_singleton (name : String) (bs : List (String × α)) (b : String × α) :
    lastOf name (bs ++ [b]) = if b.1 = name then some b.2 else lastOf name bs := by
  rw [lastOf, lastOf, List.filter_append, List.filter_singleton]
  by_cases h : b.1 = name
  · simp [h]
  · rw [if_neg h, beq_false_of_ne h, cond_false, List.append_nil]

theorem lastOf_map (f : α → β) (name : String) (bs : List (String × α)) :
    lastOf name (bs.map fun b => (b.1, f b.2)) = (lastOf name bs).map f := by
  rw [lastOf, lastOf, List.filter_map, List.getLast?_map, Option.map_map, Option.map_map]
  rfl

theorem mem_of_lastOf (h : lastOf name bs = some value) : (name, value) ∈ bs := by
  obtain ⟨b, hlast, rfl⟩ := Option.map_eq_some_iff.1 h
  obtain ⟨hmem, hname⟩ := List.mem_filter.1 (List.mem_of_getLast? hlast)
  rw [← beq_iff_eq.1 hname]
  exact hmem

/-- A name that is new comes last; no other name moves. -/
theorem names_putNamed (name : String) (value : α) (bs : List (String × α)) :
    (Value.putNamed name value bs).map Prod.fst =
      if name ∈ bs.map Prod.fst then bs.map Prod.fst else bs.map Prod.fst ++ [name] := by
  by_cases h : name ∈ bs.map Prod.fst
  · rw [if_pos h]
    induction bs with
    | nil => exact absurd h List.not_mem_nil
    | cons c rest ih =>
      rw [Value.putNamed]
      split
      · rfl
      · next hname =>
        have hrest : name ∈ rest.map Prod.fst := by
          refine (List.mem_cons.1 h).resolve_left fun heq => hname ?_
          rw [heq, beq_self_eq_true]
        rw [List.map_cons, List.map_cons, ih hrest]
  · rw [if_neg h, putNamed_of_new h, List.map_append, List.map_singleton]

/-- In a table without repeated names, the other entries are those with other names. -/
theorem mem_putNamed_of_nodup (hnodup : (bs.map Prod.fst).Nodup)
    (h : b ∈ Value.putNamed name value bs) : b = (name, value) ∨ b ∈ bs ∧ b.1 ≠ name := by
  induction bs with
  | nil => exact .inl (List.mem_singleton.1 h)
  | cons c rest ih =>
    obtain ⟨hnew, hrest⟩ := List.nodup_cons.1 hnodup
    rw [Value.putNamed] at h
    split at h
    · next hname =>
      have hc : c.1 = name := beq_iff_eq.1 hname
      rcases List.mem_cons.1 h with rfl | h
      · exact .inl (Prod.ext hc rfl)
      · refine .inr ⟨List.mem_cons_of_mem c h, fun hb => hnew ?_⟩
        rw [hc, ← hb]
        exact List.mem_map_of_mem h
    · next hname =>
      rcases List.mem_cons.1 h with rfl | h
      · exact .inr ⟨List.mem_cons_self, fun hb => hname (beq_iff_eq.2 hb)⟩
      · exact (ih hrest h).imp_right (And.imp_left (List.mem_cons_of_mem c))

theorem merged_append_singleton (bs : List (String × α)) (b : String × α) :
    merged (bs ++ [b]) = Value.putNamed b.1 b.2 (merged bs) := by
  rw [merged, merged, List.foldl_append]
  rfl

/-- The names of a merged table are the given ones, in the order of their first entries. -/
theorem names_merged (bs : List (String × α)) :
    (merged bs).map Prod.fst = (bs.map Prod.fst).eraseDups := by
  induction bs using List.reverseRecOn with
  | nil => rfl
  | append_singleton before b ih =>
    rw [merged_append_singleton, names_putNamed, ih, List.map_append, List.eraseDups_append]
    by_cases h : b.1 ∈ before.map Prod.fst
    · simp [List.removeAll, h]
    · simp [List.removeAll, List.eraseDups_cons, h]

/-- A merged table holds the last value of every name. -/
theorem lastOf_of_mem_merged (h : b ∈ merged bs) : lastOf b.1 bs = some b.2 := by
  induction bs using List.reverseRecOn with
  | nil => cases h
  | append_singleton before c ih =>
    rw [merged_append_singleton] at h
    rw [lastOf_append_singleton]
    rcases mem_putNamed_of_nodup (merged_spec before).2 h with rfl | ⟨hbefore, hother⟩
    · rw [if_pos rfl]
    · rw [if_neg (Ne.symm hother)]
      exact ih hbefore

end Check

namespace Row

/-! ## Converted values -/

/-- The entries of a mapping, each under the camel case of its key's text. -/
def keyed (es : List (Value × Value)) : List (String × Value) :=
  es.map fun e => (Identifier.camel e.1.plain, e.2)

/-- Whether no keys are looked for in the value. -/
def isScalar : Value → Bool
  | .list _ | .tuple _ | .mapping _ => false
  | _ => true

/-- The key has an underscore, a hyphen or a blank only if it has nothing else. -/
def Joined (name : String) : Prop :=
  (∃ c ∈ name.toList, Identifier.separatesWords c = true) →
    ∀ c ∈ name.toList, Identifier.separatesWords c = true

/-- The second value is the first with its keys converted: `names` are the keys of a converted
mapping, and `sources` the values of the last entries that come to them. -/
inductive Converted : Value → Value → Prop where
  | scalar {v : Value} (h : isScalar v = true) : Converted v v
  | list {items results : List Value} (h : List.Forall₂ Converted items results) :
    Converted (.list items) (.list results)
  | tuple {items results : List Value} (h : List.Forall₂ Converted items results) :
    Converted (.tuple items) (.list results)
  | mapping {es results : List (Value × Value)} {names : List String} {sources : List Value}
    (hnames : names = ((keyed es).map Prod.fst).eraseDups) (hdistinct : names.Nodup)
    (hjoined : ∀ name ∈ names, Joined name)
    (hkeys : results.map Prod.fst = names.map Value.text)
    (hsources : names.map (fun name => Check.lastOf name (keyed es)) = sources.map some)
    (hvalues : List.Forall₂ Converted sources (results.map Prod.snd)) :
    Converted (.mapping es) (.mapping results)

/-! ## Mappings as tables by name -/

def textual (bs : List (String × Value)) : List (Value × Value) :=
  bs.map fun b => (.text b.1, b.2)

theorem putEntry_textual (name : String) (value : Value) (bs : List (String × Value)) :
    Value.putEntry (.text name) value (textual bs) = textual (Value.putNamed name value bs) := by
  induction bs with
  | nil => rfl
  | cons b rest ih =>
    have hsame : Value.sameKey (.text b.1) (.text name) = (b.1 == name) := by
      simp [Value.sameKey, Value.text?]
    show Value.putEntry (.text name) value ((.text b.1, b.2) :: textual rest) = _
    rw [Value.putEntry, hsame, ih, Value.putNamed]
    split <;> rfl

/-- The table of a mapping's converted entries. -/
def camelTable (es : List (Value × Value)) : List (String × Value) :=
  Check.merged ((keyed es).map fun b => (b.1, camelKeys b.2))

theorem camelEntries_textual (bs : List (String × Value)) (es : List (Value × Value)) :
    camelEntries (textual bs) es =
      textual ((keyed es).foldl (fun acc b => Value.putNamed b.1 (camelKeys b.2) acc) bs) := by
  induction es generalizing bs with
  | nil => rfl
  | cons e rest ih =>
    rw [camelEntries, putEntry_textual, ih]
    rfl

theorem camelKeys_mapping (es : List (Value × Value)) :
    camelKeys (.mapping es) = .mapping (textual (camelTable es)) := by
  rw [camelKeys, show ([] : List (Value × Value)) = textual [] from rfl, camelEntries_textual,
    camelTable, Check.merged, List.foldl_map]

/-- An entry of the table stands for the last entry whose key comes to its name. -/
theorem source_of_mem_camelTable {es : List (Value × Value)} {b : String × Value}
    (h : b ∈ camelTable es) : ∃ e ∈ es, Identifier.camel e.1.plain = b.1 ∧
      Check.lastOf b.1 (keyed es) = some e.2 ∧ camelKeys e.2 = b.2 := by
  have hlast := Check.lastOf_of_mem_merged h
  rw [Check.lastOf_map] at hlast
  obtain ⟨v, hv, hconverted⟩ := Option.map_eq_some_iff.1 hlast
  obtain ⟨e, he, hentry⟩ := List.mem_map.1 (Check.mem_of_lastOf hv)
  obtain ⟨hname, rfl⟩ := Prod.mk.inj hentry
  exact ⟨e, he, hname, hv, hconverted⟩

theorem names_camelTable (es : List (Value × Value)) :
    (camelTable es).map Prod.fst = ((keyed es).map Prod.fst).eraseDups := by
  rw [camelTable, Check.names_merged, List.map_map]
  rfl

theorem nodup_camelTable (es : List (Value × Value)) : ((camelTable es).map Prod.fst).Nodup :=
  (Check.merged_spec _).2

/-! ## The conversion of all keys -/

theorem camelItems_eq_map (items : List Value) : camelItems items = items.map camelKeys := by
  induction items with
  | nil => rfl
  | cons v rest ih => rw [camelItems, ih, List.map_cons]

/-- A mapping is converted if its values are. -/
theorem Converted.of_values {es : List (Value × Value)}
    (h : ∀ e ∈ es, Converted e.2 (camelKeys e.2)) :
    Converted (.mapping es) (.mapping (textual (camelTable es))) := by
  choose! source hsource using fun b (hb : b ∈ camelTable es) => source_of_mem_camelTable hb
  have hjoined : ∀ name ∈ (camelTable es).map Prod.fst, Joined name := by
    intro name hname ⟨c, hc, hsep⟩
    obtain ⟨b, hb, rfl⟩ := List.mem_map.1 hname
    obtain ⟨-, hcamel, -⟩ := hsource b hb
    rw [← hcamel] at hc ⊢
    exact Identifier.separators_camel hc hsep
  have hkeys : (textual (camelTable es)).map Prod.fst =
      ((camelTable es).map Prod.fst).map Value.text := by
    rw [textual, List.map_map, List.map_map]
    rfl
  have hsources : ((camelTable es).map Prod.fst).map (fun name => Check.lastOf name (keyed es)) =
      ((camelTable es).map fun b => (source b).2).map some := by
    rw [List.map_map, List.map_map]
    exact List.map_congr_left fun b hb => (hsource b hb).2.2.1
  have hvalues : List.Forall₂ Converted ((camelTable es).map fun b => (source b).2)
      ((textual (camelTable es)).map Prod.snd) := by
    rw [textual, List.map_map, List.forall₂_map_left_iff, List.forall₂_map_right_iff,
      List.forall₂_same]
    intro b hb
    obtain ⟨he, -, -, hvalue⟩ := hsource b hb
    show Converted (source b).2 b.2
    rw [← hvalue]
    exact h _ he
  exact .mapping (names_camelTable es) (nodup_camelTable es) hjoined hkeys hsources hvalues

/-- A mapping whose values stay when converted again stays. -/
theorem camelTable_camelTable {es : List (Value × Value)}
    (h : ∀ e ∈ es, camelKeys (camelKeys e.2) = camelKeys e.2) :
    camelTable (textual (camelTable es)) = camelTable es := by
  have hkeyed : (keyed (textual (camelTable es))).map (fun b => (b.1, camelKeys b.2)) =
      camelTable es := by
    rw [keyed, textual, List.map_map, List.map_map]
    refine (List.map_congr_left fun b hb => ?_).trans (List.map_id _)
    obtain ⟨e, he, hcamel, -, hvalue⟩ := source_of_mem_camelTable hb
    show (Identifier.camel b.1, camelKeys b.2) = (b.1, b.2)
    rw [← hcamel, ← hvalue, Identifier.camel_camel, h e he, hcamel, hvalue]
  rw [camelTable, hkeyed, Check.merged_of_nodup (nodup_camelTable es)]

/-- Conversion does to a value what `Converted` says, at every depth. -/
theorem converted_camelKeys (v : Value) : Converted v (camelKeys v) := by
  induction v using Value.parts_induction with
  | step v ih =>
    cases v with
    | list items =>
      rw [camelKeys, camelItems_eq_map]
      exact .list (List.forall₂_map_right_iff.2 (List.forall₂_same.2 ih))
    | tuple items =>
      rw [camelKeys, camelItems_eq_map]
      exact .tuple (List.forall₂_map_right_iff.2 (List.forall₂_same.2 ih))
    | mapping es =>
      rw [camelKeys_mapping]
      exact .of_values fun e he => ih e.2 (List.mem_map_of_mem he)
    | _ => exact .scalar rfl

/-- Converted keys stay when they are converted again. -/
theorem camelKeys_camelKeys (v : Value) : camelKeys (camelKeys v) = camelKeys v := by
  induction v using Value.parts_induction with
  | step v ih =>
    cases v with
    | list items | tuple items =>
      rw [camelKeys, camelKeys, camelItems_eq_map, camelItems_eq_map, List.map_map]
      exact congrArg Value.list (List.map_congr_left ih)
    | mapping es =>
      rw [camelKeys_mapping, camelKeys_mapping,
        camelTable_camelTable fun e he => ih e.2 (List.mem_map_of_mem he)]
    | _ => rfl

/-- Converting keys changes keys only, and does nothing to keys that are converted: items stay in
their places and scalars as they are, and a mapping has for each of the names its keys come to, in
the order of their first entries, the converted value of the last. -/
theorem keys_converted (v : Value) :
    camelKeys (camelKeys v) = camelKeys v ∧ Converted v (camelKeys v) :=
  ⟨camelKeys_camelKeys v, converted_camelKeys v⟩

/-- Two keys come to the same name: it stands first, with the value that came last. -/
example :
    camelKeys (.mapping [(.text "_a_b", .int 1), (.text "--", .null), (.text "aB", .bool true)]) =
      .mapping [(.text "aB", .bool true), (.text "--", .null)] := by
  rfl

end Row

end ParamSql
