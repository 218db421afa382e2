import ParamSql.Proofs.Clause.FirstFault

/-!
Comma-separated lists on their way to the database.

A list below `in` is bound as one text with commas between its items, in a condition and in an order
alike. The database cuts the text at every comma; it gets the items back if and only if none of them
has a comma and they are not a single empty text (`arrayElements_commaJoined_iff`). The text may be
given in place of the list, at any depth (`Respelled`), and nothing changes (`listing_intact`).
-/

namespace ParamSql

namespace Clause

/-! ## Cutting at commas -/

/-- The elements that the database makes of a comma-separated text: the empty text has none. -/
def arrayElements (t : String) : List String :=
  if t = "" then [] else (t.toList.splitOn ',').map String.ofList

/-- No part of a cut list has the mark at which it was cut. -/
theorem not_mem_of_mem_splitOn {mark : Char} {cs part : List Char}
    (h : part ∈ cs.splitOn mark) : mark ∉ part := by
  induction cs generalizing part with
  | nil =>
    rw [List.splitOn_nil, List.mem_singleton] at h
    simp [h]
  | cons c rest ih =>
    rw [List.splitOn_cons_eq_if_modifyHead] at h
    split at h
    · rcases List.mem_cons.1 h with rfl | h
      · exact List.not_mem_nil
      · exact ih h
    · next hc =>
      obtain ⟨first, others, hsplit⟩ :=
        List.exists_cons_of_ne_nil (List.splitOn_ne_nil mark rest)
      rw [hsplit] at h ih
      rcases List.mem_cons.1 h with rfl | h
      · have hfirst : mark ∉ first := ih List.mem_cons_self
        intro hmem
        rcases List.mem_cons.1 hmem with rfl | hmem
        · simp at hc
        · exact hfirst hmem
      · exact ih (List.mem_cons_of_mem first h)

theorem toList_joined (texts : List String) :
    (",".intercalate texts).toList = [','].intercalate (texts.map String.toList) := by
  rw [String.toList_intercalate]
  rfl

/-- Texts that are joined give the empty text if there are none or only one, and that is empty. -/
theorem joined_eq_empty_iff (texts : List String) :
    ",".intercalate texts = "" ↔ texts = [] ∨ texts = [""] := by
  constructor
  · intro h
    have hnil : [','].intercalate (texts.map String.toList) = [] := by
      rw [← toList_joined, h]
      rfl
    rcases Identifier.intercalate_eq_nil hnil with hnone | hone
    · exact .inl (List.map_eq_nil_iff.1 hnone)
    · obtain ⟨t, rfl, ht⟩ := List.map_eq_singleton_iff.1 hone
      exact .inr (by rw [String.toList_eq_nil_iff.1 ht])
  · rintro (rfl | rfl) <;> rfl

/-- Texts are got back if and only if none has a comma and they are not one empty text. -/
theorem arrayElements_joined_iff (texts : List String) :
    arrayElements (",".intercalate texts) = texts ↔
      (∀ t ∈ texts, ',' ∉ t.toList) ∧ texts ≠ [""] := by
  by_cases hempty : ",".intercalate texts = ""
  · -- The empty text stands for no items.
    rw [arrayElements, if_pos hempty]
    rcases (joined_eq_empty_iff texts).1 hempty with rfl | rfl
    · simp
    · simp
  · rw [arrayElements, if_neg hempty, toList_joined]
    have hempties : ¬ (texts = [] ∨ texts = [""]) := fun h => hempty ((joined_eq_empty_iff _).2 h)
    obtain ⟨hnil, hone⟩ := not_or.1 hempties
    constructor
    · intro h
      refine ⟨fun t ht => ?_, hone⟩
      rw [← h] at ht
      obtain ⟨part, hpart, rfl⟩ := List.mem_map.1 ht
      rw [String.toList_ofList]
      exact not_mem_of_mem_splitOn hpart
    · intro h
      have hparts : ∀ part ∈ texts.map String.toList, ',' ∉ part := by
        intro part hpart
        obtain ⟨t, ht, rfl⟩ := List.mem_map.1 hpart
        exact h.1 t ht
      have hne : texts.map String.toList ≠ [] := by simpa using hnil
      rw [List.splitOn_intercalate ',' hparts hne, List.map_map]
      simp [Function.comp_def]

/-- A list arrives intact if and only if no item has a comma in its text and it is not a single item
with an empty text. -/
theorem arrayElements_commaJoined_iff (items : List Value) :
    arrayElements (commaJoined items) = items.map Value.plain ↔
      (∀ item ∈ items, ',' ∉ item.plain.toList) ∧
        ¬ ∃ item, items = [item] ∧ item.plain = "" := by
  have hone : items.map Value.plain = [""] ↔ ∃ item, items = [item] ∧ item.plain = "" :=
    List.map_eq_singleton_iff
  rw [commaJoined, arrayElements_joined_iff, List.forall_mem_map, ← hone]

/-! ## Lists and their texts -/

inductive ListOf (items : List Value) : Value → Prop where
  | list : ListOf items (.list items)
  | tuple : ListOf items (.tuple items)

variable {clause : ClauseName} {path : KeyPath} {key value : Value} {items : List Value}

theorem ListOf.commaList_eq (h : ListOf items value) :
    commaList clause path key value = pure (.text (commaJoined items)) := by
  cases h <;> rfl

theorem ListOf.isUnset (h : ListOf items value) : value.isUnset = false := by
  cases h <;> rfl

theorem ListOf.own {κ : Type} [Keyword κ] {nests : Option κ → Bool} (h : ListOf items value) :
    Own nests key value := by
  refine ⟨h.isUnset, fun es hes => ?_⟩
  rw [hes] at h
  cases h

section Respelled

variable {κ : Type} [Keyword κ]

/-- The entries of two mappings are the same, but for lists below the keyword `listing` of which the
other mapping has the texts, at any depth. -/
inductive Respelled (nests : Option κ → Bool) (listing : κ) :
    List (Value × Value) → List (Value × Value) → Prop where
  | nil : Respelled nests listing [] []
  | same {key value : Value} {rest rest' : List (Value × Value)}
    (hrest : Respelled nests listing rest rest') :
    Respelled nests listing ((key, value) :: rest) ((key, value) :: rest')
  | list {key value : Value} {items : List Value} {rest rest' : List (Value × Value)}
    (hkey : key.keyword? κ = some listing) (hvalue : ListOf items value)
    (hrest : Respelled nests listing rest rest') :
    Respelled nests listing ((key, value) :: rest)
      ((key, .text (commaJoined items)) :: rest')
  | nested {key : Value} {es es' rest rest' : List (Value × Value)}
    (hnests : nests (key.keyword? κ) = true) (hes : Respelled nests listing es es')
    (hrest : Respelled nests listing rest rest') :
    Respelled nests listing ((key, .mapping es) :: rest) ((key, .mapping es') :: rest')

/-- Specifications that are the same but for lists and their texts. -/
inductive SpecRespelled (nests : Option κ → Bool) (listing : κ) : Value → Value → Prop where
  | same (spec : Value) : SpecRespelled nests listing spec spec
  | mapping {es es' : List (Value × Value)} (h : Respelled nests listing es es') :
    SpecRespelled nests listing (.mapping es) (.mapping es')

variable {nests : Option κ → Bool} {listing : κ} {es es' : List (Value × Value)}

/-- Entries may be left out of both mappings by their keys and by whether they are given. -/
theorem Respelled.filter {p : Value × Value → Bool}
    (hp : ∀ key value value', value.isUnset = value'.isUnset → p (key, value) = p (key, value'))
    (h : Respelled nests listing es es') :
    Respelled nests listing (es.filter p) (es'.filter p) := by
  induction h with
  | nil => exact .nil
  | @same key value rest rest' _ ih =>
    by_cases hkept : p (key, value) = true
    · simpa [hkept] using Respelled.same ih
    · simpa [hkept] using ih
  | @list key value items rest rest' hkey hvalue _ ih =>
    have hsame : p (key, value) = p (key, .text (commaJoined items)) := hp _ _ _ hvalue.isUnset
    by_cases hkept : p (key, value) = true
    · simpa [hkept, ← hsame] using Respelled.list hkey hvalue ih
    · simpa [hkept, ← hsame] using ih
  | @nested key es es' rest rest' hnests hes _ _ ih =>
    have hsame : p (key, .mapping es) = p (key, .mapping es') := hp _ _ _ rfl
    by_cases hkept : p (key, .mapping es) = true
    · simpa [hkept, ← hsame] using Respelled.nested hnests hes ih
    · simpa [hkept, ← hsame] using ih

theorem Respelled.isEmpty_eq (h : Respelled nests listing es es') : es.isEmpty = es'.isEmpty := by
  cases h <;> rfl

/-- A walk whose operator takes a list for its text compiles both mappings to the same. -/
theorem Walk.entries_respelled {w : Walk κ} {listing : κ}
    (hoperator : ∀ path name key items value, ListOf items value →
      w.operator path name key value (some listing) =
        w.operator path name key (.text (commaJoined items)) (some listing))
    (h : Respelled w.nests listing es es') (path : KeyPath) :
    w.entries path es = w.entries path es' := by
  induction h generalizing path with
  | nil => rfl
  | same _ ih => rw [entries, entries, ih]
  | @list key value items rest rest' hkey hvalue _ ih =>
    have hentry : w.entry path key value = w.entry path key (.text (commaJoined items)) := by
      cases hname : key.text? with
      | none =>
        rw [entry_keyNotText hvalue.isUnset hname, entry_keyNotText rfl hname]
      | some name =>
        have htext : Own w.nests key (.text (commaJoined items)) :=
          ⟨rfl, fun es hes => by cases hes⟩
        rw [entry_own hname hvalue.own, entry_own hname htext, hkey, hoperator _ _ _ _ _ hvalue]
    rw [entries, entries, hentry, ih]
  | @nested key es es' rest rest' hnests hes _ ihes ih =>
    have hentry : w.entry path key (.mapping es) = w.entry path key (.mapping es') := by
      cases hname : key.text? with
      | none => rw [entry_keyNotText rfl hname, entry_keyNotText rfl hname]
      | some name => rw [entry_nested hname hnests, entry_nested hname hnests, ihes]
    rw [entries, entries, hentry, ih]

end Respelled

end Clause

open Clause

variable {path : KeyPath} {key value : Value} {column : String} {items : List Value}
  {es es' : List (Value × Value)}

/-! ## Conditions -/

namespace Where

/-- A list below a column is bound as its text, for a test of the column. -/
theorem entry_listing (hkey : key.text? = some "in") (hcolumn : path.column? = some column)
    (hplain : registry.isKeyword column = false) (h : ListOf items value) :
    (entry path key value).Gives [.text (commaJoined items)]
      [Dialect.inList (Identifier.snake column) .hole] := by
  have hkeyword : key.keyword? WhereKeyword = some .membership := by
    rw [Value.keyword?_of_text hkey]
    rfl
  have hoperand : operand (path.descend "in") key = pure (Identifier.snake column) :=
    operand_of_underColumn hcolumn hplain
  rw [entry_walk, Walk.entry_own hkey h.own, hkeyword]
  show Draft.Gives (operator (path.descend "in") "in" key value .membership >>= fun fragment =>
    pure [fragment]) _ _
  rw [operator, hoperand, pure_bind, h.commaList_eq, pure_bind]
  exact ⟨rfl, rfl⟩

theorem fragments_respelled {spec spec' : Value}
    (h : SpecRespelled nests WhereKeyword.membership spec spec') :
    fragments path spec = fragments path spec' := by
  cases h with
  | same => rfl
  | mapping h =>
    show entries path _ = entries path _
    rw [entries_eq, entries_eq]
    refine Walk.entries_respelled (w := walk) (fun path name key items value hvalue => ?_) h path
    cases hvalue <;> rfl

theorem condition_respelled {spec spec' : Value}
    (h : SpecRespelled nests WhereKeyword.membership spec spec') :
    condition spec = condition spec' := by
  rw [condition, condition, fragments_respelled h]

end Where

/-! ## Orders -/

namespace Order

/-- A list below a column is bound as its text, for the position of the column in it. -/
theorem entry_listing (hkey : key.text? = some "in") (hcolumn : path.column? = some column)
    (hplain : registry.isKeyword column = false) (h : ListOf items value) :
    (entry path key value).Gives [.text (commaJoined items)]
      [Dialect.listPosition (Identifier.snake column) .hole] := by
  have hkeyword : key.keyword? OrderKeyword = some .ranking := by
    rw [Value.keyword?_of_text hkey]
    rfl
  have hoperand : Clause.operand .orderBy registry.isKeyword (path.descend "in") key =
      pure (Identifier.snake column) := operand_of_underColumn hcolumn hplain
  rw [entry_walk, Walk.entry_own hkey h.own, hkeyword]
  show Draft.Gives (operator (path.descend "in") "in" key value .ranking) _ _
  rw [operator, hoperand, pure_bind]
  cases h <;> exact ⟨rfl, rfl⟩

theorem entries_respelled (h : Respelled nests OrderKeyword.ranking es es') (path : KeyPath) :
    entries path es = entries path es' := by
  rw [entries_eq, entries_eq]
  refine Walk.entries_respelled (w := walk) (fun path name key items value hvalue => ?_) h path
  cases hvalue <;> rfl

theorem plainTerm_respelled (h : Respelled nests OrderKeyword.ranking es es') :
    plainTerm (.mapping es) = plainTerm (.mapping es') := by
  have hentries : fragments .root (.mapping es) = fragments .root (.mapping es') :=
    entries_respelled h .root
  rw [plainTerm, plainTerm, hentries]

/-- The direction is neither a list nor a mapping to look into. -/
theorem lookupText_direction_respelled (h : Respelled nests OrderKeyword.ranking es es') :
    Value.lookupText OrderKeyword.direction.text es =
      Value.lookupText OrderKeyword.direction.text es' := by
  induction h with
  | nil => rfl
  | same _ ih => rw [Value.lookupText, Value.lookupText, ih]
  | @list key value items rest rest' hkey _ _ ih =>
    have hother : key.text? ≠ some OrderKeyword.direction.text := fun hdirection => by
      rw [keyword?_direction hdirection] at hkey
      exact absurd hkey (by decide)
    rw [Value.lookupText, Value.lookupText, beq_eq_false_iff_ne.2 hother,
      if_neg Bool.false_ne_true, if_neg Bool.false_ne_true, ih]
  | @nested key es es' rest rest' hnests _ _ _ ih =>
    have hother : key.text? ≠ some OrderKeyword.direction.text := fun hdirection => by
      rw [keyword?_direction hdirection] at hnests
      exact Bool.false_ne_true hnests
    rw [Value.lookupText, Value.lookupText, beq_eq_false_iff_ne.2 hother,
      if_neg Bool.false_ne_true, if_neg Bool.false_ne_true, ih]

theorem withoutDirection_respelled (h : Respelled nests OrderKeyword.ranking es es') :
    Respelled nests OrderKeyword.ranking (withoutDirection es) (withoutDirection es') := by
  apply Respelled.filter
  · intro key value value' hset
    rw [hset]
  · apply Respelled.filter _ h
    intro key value value' _
    rfl

theorem term_respelled {spec spec' : Value}
    (h : SpecRespelled nests OrderKeyword.ranking spec spec') : term spec = term spec' := by
  cases h with
  | same => rfl
  | @mapping es es' h =>
    have hgiven : givenDirection? es = givenDirection? es' := by
      rw [givenDirection?, givenDirection?, lookupText_direction_respelled h]
    have hrest := withoutDirection_respelled h
    cases hdirection : givenDirection? es with
    | none =>
      rw [term, term, ← hgiven, hdirection]
      exact plainTerm_respelled h
    | some direction =>
      rw [term_mapping hdirection, term_mapping (hgiven ▸ hdirection), hrest.isEmpty_eq,
        entries_respelled hrest]

theorem mapM_term_respelled {terms terms' : List Value}
    (h : List.Forall₂ (SpecRespelled nests OrderKeyword.ranking) terms terms') :
    terms.mapM term = terms'.mapM term := by
  induction h with
  | nil => rfl
  | cons hterm _ ih => rw [List.mapM_cons, List.mapM_cons, term_respelled hterm, ih]

theorem clause_respelled {spec spec' : Value}
    (h : List.Forall₂ (SpecRespelled nests OrderKeyword.ranking) (specs spec) (specs spec')) :
    clause spec = clause spec' := by
  rw [clause, clause, mapM_term_respelled h]

end Order

/-! ## Both -/

/-- **When a list arrives intact.** A list or a tuple below `in` is bound as one text, the same in a
condition and in an order: its items with commas between them. The database gets the items back from
it if and only if no item has a comma in its text and the list is not a single item with an empty
text. Given in place of the list, the text leads to the same condition and to the same order. -/
theorem listing_intact :
    (∀ items listing, ListOf items listing →
      (∀ path key column, key.text? = some "in" → path.column? = some column →
        (Where.registry.isKeyword column = false →
          (Where.entry path key listing).Gives [.text (commaJoined items)]
            [Dialect.inList (Identifier.snake column) .hole]) ∧
        (Order.registry.isKeyword column = false →
          (Order.entry path key listing).Gives [.text (commaJoined items)]
            [Dialect.listPosition (Identifier.snake column) .hole])) ∧
      (arrayElements (commaJoined items) = items.map Value.plain ↔
        (∀ item ∈ items, ',' ∉ item.plain.toList) ∧
          ¬ ∃ item, items = [item] ∧ item.plain = "")) ∧
    (∀ spec spec', SpecRespelled Where.nests WhereKeyword.membership spec spec' →
      Where.condition spec = Where.condition spec') ∧
    ∀ spec spec',
      List.Forall₂ (SpecRespelled Order.nests OrderKeyword.ranking) (Order.specs spec)
        (Order.specs spec') → Order.clause spec = Order.clause spec' := by
  refine ⟨fun items listing h => ⟨?_, arrayElements_commaJoined_iff items⟩,
    fun spec spec' => Where.condition_respelled, fun spec spec' => Order.clause_respelled⟩
  intro path key column hkey hcolumn
  constructor
  · intro hplain
    exact Where.entry_listing hkey hcolumn hplain h
  · intro hplain
    exact Order.entry_listing hkey hcolumn hplain h

/-- A list of a number and a text arrives intact, one with a tuple of two numbers does not. -/
theorem listing_intact_words :
    (Where.entry (KeyPath.root.descend "wordId") (.text "in") (.list [.int 3, .text "b"])).Gives
        [.text "3,b"] [Dialect.inList "word_id" .hole] ∧
      (arrayElements "3,b" = ["3", "b"] ∧
        arrayElements (commaJoined [.tuple [.int 3, .int 4]]) ≠ ["(3, 4)"]) ∧
      Where.condition (.mapping [(.text "id", .mapping [(.text "in", .list [.int 3, .text "b"])])])
        = Where.condition (.mapping [(.text "id", .mapping [(.text "in", .text "3,b")])]) ∧
      Order.clause (.mapping [(.text "id", .mapping [(.text "in", .tuple [.int 3, .text "b"])]),
          (.text "sort", .text "desc")]) =
        Order.clause (.mapping [(.text "id", .mapping [(.text "in", .text "3,b")]),
          (.text "sort", .text "desc")]) := by
  obtain ⟨hlists, hwhere, horder⟩ := listing_intact
  have hjoined : commaJoined [.int 3, .text "b"] = "3,b" := by decide +kernel
  have hplain : [Value.int 3, .text "b"].map Value.plain = ["3", "b"] := by decide +kernel
  refine ⟨?_, ⟨?_, ?_⟩, ?_, ?_⟩
  · have hlist : ListOf [.int 3, .text "b"] (.list [.int 3, .text "b"]) := .list
    rw [← hjoined]
    exact ((hlists _ _ hlist).1 (KeyPath.root.descend "wordId") _ "wordId" rfl rfl).1 rfl
  · rw [← hjoined, ← hplain]
    refine (hlists _ _ .list).2.2 ⟨by decide +kernel, ?_⟩
    rintro ⟨item, hitem, -⟩
    cases hitem
  · intro h
    exact absurd ((((hlists _ _ .list).2).1 h).1 _ List.mem_cons_self) (by decide +kernel)
  · rw [← hjoined]
    exact hwhere _ _ (.mapping (.nested rfl (.list rfl .list .nil) .nil))
  · rw [← hjoined]
    exact horder _ _ (.cons (.mapping (.nested rfl (.list rfl .tuple .nil) (.same .nil))) .nil)

end ParamSql
