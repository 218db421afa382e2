import ParamSql.Proofs.Clause.Reading
import ParamSql.Proofs.Clause.Where
import ParamSql.Proofs.Sql.Text

/-!
What a condition means.

A condition is true when all of its entries are; the entries below a column count among those
around it, and `and` and `or` hold groups of entries (`truths`). The text of a condition means the
same: it can be read as one formula and no other, and this formula is true when the condition is
(`condition_means`).
-/

namespace ParamSql

namespace Dialect

/-- The text of a parameter between two texts behind a column. -/
theorem write_around (taken : Nat) (column before after : String) :
    (Sql.verbatim column ++ Sql.verbatim before ++ Sql.hole ++ Sql.verbatim after).write taken =
      column ++ (before ++ Sql.placeholder (taken + 1) ++ after) := by
  rw [Sql.write_append, Sql.write_append, Sql.write_append, Sql.write_verbatim, Sql.write_verbatim,
    Sql.write_hole, Sql.write_verbatim, Sql.arity_append, Sql.arity_verbatim, Sql.arity_verbatim,
    String.append_assoc, String.append_assoc, String.append_assoc]

theorem write_inList (taken : Nat) (column : String) :
    (inList (.verbatim column) .hole).write taken =
      (Predicate.mk column (.among (taken + 1))).text :=
  write_around taken column _ _

theorem write_contains (taken : Nat) (column : String) :
    (contains (.verbatim column) .hole).write taken =
      (Predicate.mk column (.contains (taken + 1))).text :=
  write_around taken column _ _

end Dialect

/-! ## Plain keys on the way -/

def KeyPath.Plain (path : KeyPath) : Prop :=
  ∀ key ∈ path.keys, Identifier.Plain key

theorem KeyPath.plain_root : root.Plain :=
  fun _ h => nomatch h

theorem KeyPath.Plain.descend {path : KeyPath} {key : String} (hpath : path.Plain)
    (hkey : Identifier.Plain key) : (path.descend key).Plain := by
  intro k hk
  rcases List.mem_append.1 hk with hk | hk
  · exact hpath k hk
  · rwa [List.mem_singleton.1 hk]

/-- The column of an operator is the key around it in snake case. -/
theorem Clause.Operand.plain {path : KeyPath} {column : String} (hpath : path.Plain)
    (h : Operand path column) :
    Identifier.Plain column ∧ Identifier.snake (path.parent?.getD "") = column := by
  obtain ⟨parent, hparent, rfl⟩ := h
  have hmem : parent ∈ path.keys.dropLast := List.mem_of_getLast? hparent
  rw [hparent]
  exact ⟨(hpath parent ((List.dropLast_subset _) hmem)).snake, rfl⟩

namespace Where

/-! ## The truth of a specification -/

/-- The predicate of an entry that holds no nested conditions, with the parameter at `position` if
it takes one. `name` is its key and `above` the key around that. -/
def predicate (above name : String) (position : Nat) (value : Value) :
    Option WhereKeyword → Predicate
  | some .membership => ⟨Identifier.snake above, .among position⟩
  | some .nullTest =>
    match value with
    | .bool false => ⟨Identifier.snake above, .notNull⟩
    | _ => ⟨Identifier.snake above, .null⟩
  | some .substring => ⟨Identifier.snake above, .contains position⟩
  | _ => ⟨Identifier.snake name, .equals position⟩

/-- What nested conditions count as around them: a group counts as one condition unless it is empty,
and the conditions below a column count each by itself. -/
def gathered : Option WhereKeyword → List Bool → List Bool
  | some .conjunction, bs => if bs.isEmpty then [] else [Joiner.and.truth bs]
  | some .disjunction, bs => if bs.isEmpty then [] else [Joiner.or.truth bs]
  | _, bs => bs

section Truths

variable (ν : Predicate → Bool)

/-- The truth of an entry that holds no nested conditions. -/
def ownTruth (above : String) (taken : Nat) (key value : Value) : List Bool :=
  [ν (predicate above (key.text?.getD "") (taken + 1) value (key.keyword? WhereKeyword))]

mutual

/-- The truths of the entries of a mapping below the key `above`, if `ν` tells those of predicates.
Parameters are numbered from left to right after the `taken` ones. -/
def truths (above : String) (taken : Nat) : List (Value × Value) → List Bool
  | [] => []
  | (key, value) :: rest =>
    entryTruths above taken key value ++
      truths above (taken + (Clause.entryLeaves nests ownLeaves key value).length) rest

/-- The truths of one entry; an entry that is `unset` has none. -/
def entryTruths (above : String) (taken : Nat) (key : Value) : Value → List Bool
  | .unset => []
  | .mapping es =>
    if nests (key.keyword? WhereKeyword) then
      gathered (key.keyword? WhereKeyword) (truths (key.text?.getD "") taken es)
    else ownTruth ν above taken key (.mapping es)
  | value => ownTruth ν above taken key value

end

variable {ν} {above name : String} {taken : Nat} {key value : Value} {es : List (Value × Value)}

theorem entryTruths_unset (h : value.isUnset = true) :
    entryTruths ν above taken key value = [] := by
  rw [Value.eq_unset_of_isUnset h, entryTruths]

theorem entryTruths_nested (hname : key.text? = some name)
    (h : nests (key.keyword? WhereKeyword) = true) :
    entryTruths ν above taken key (.mapping es) =
      gathered (key.keyword? WhereKeyword) (truths ν name taken es) := by
  rw [entryTruths, if_pos h, hname]
  rfl

theorem entryTruths_own (hname : key.text? = some name) (h : Clause.Own nests key value) :
    entryTruths ν above taken key value =
      [ν (predicate above name (taken + 1) value (key.keyword? WhereKeyword))] := by
  have hown : ownTruth ν above taken key value =
      [ν (predicate above name (taken + 1) value (key.keyword? WhereKeyword))] := by
    rw [ownTruth, hname]
    rfl
  obtain ⟨hset, hvalue⟩ := h
  rw [← hown]
  cases value with
  | unset => cases hset
  | mapping es => rw [entryTruths, hvalue es rfl, if_neg Bool.false_ne_true]
  | _ => rfl

end Truths

/-! ## Plain keys -/

/-- The key is a plain name and does not mean a verbatim query. -/
def plainKey (key : Value) : Bool :=
  Identifier.isPlain (key.text?.getD "") && key.keyword? WhereKeyword != some .verbatim

mutual

/-- Every key that holds something is a plain name, and none means a verbatim query. -/
def named : List (Value × Value) → Bool
  | [] => true
  | (key, value) :: rest => namedEntry key value && named rest

def namedEntry (key : Value) : Value → Bool
  | .unset => true
  | .mapping es => plainKey key && (!nests (key.keyword? WhereKeyword) || named es)
  | _ => plainKey key

end

variable {path : KeyPath} {above name : String} {taken : Nat} {key value : Value}
  {es : List (Value × Value)} {vs : List Value} {fs : List Sql}

theorem plainKey_of_named (h : namedEntry key value = true) (hset : value.isUnset = false) :
    plainKey key = true := by
  cases value with
  | unset => cases hset
  | mapping es =>
    rw [namedEntry, Bool.and_eq_true] at h
    exact h.1
  | _ => exact h

theorem named_of_nested (h : namedEntry key (.mapping es) = true)
    (hnests : nests (key.keyword? WhereKeyword) = true) : named es = true := by
  rw [namedEntry, hnests, Bool.and_eq_true] at h
  exact h.2

theorem plain_of_plainKey (h : plainKey key = true) (hname : key.text? = some name) :
    Identifier.Plain name ∧ key.keyword? WhereKeyword ≠ some .verbatim := by
  rw [plainKey, hname, Bool.and_eq_true, bne_iff_ne] at h
  exact ⟨.of_isPlain h.1, h.2⟩

/-! ## The texts of fragments -/

/-- The text of the fragment is that of the predicate of an entry, whatever the number of its
parameter is. -/
def WrittenAs (above name : String) (value : Value) (keyword : Option WhereKeyword)
    (f : Sql) : Prop :=
  ∀ taken, Identifier.Plain (predicate above name (taken + 1) value keyword).column ∧
    f.write taken = (predicate above name (taken + 1) value keyword).text

theorem operator_written {keyword : Option WhereKeyword} (hpath : path.Plain)
    (hname : Identifier.Plain name) (hkeyword : keyword ≠ some .verbatim) :
    (operator path name key value (Rule.of keyword)).Yields fun _ f =>
      WrittenAs (path.parent?.getD "") name value keyword f := by
  rcases keyword with _ | k
  · refine .bind_param (.pure' fun taken => ⟨hname.snake, ?_⟩)
    rw [Sql.write_append, Sql.write_verbatim, Sql.write_hole, Sql.arity_verbatim]
    exact String.append_assoc
  cases k with
  | conjunction => exact .fault _ _ _
  | disjunction => exact .fault _ _ _
  | verbatim => exact absurd rfl hkeyword
  | membership =>
    refine Clause.operand_yields.bind_nil fun column hcolumn => ?_
    obtain ⟨hplain, hsnake⟩ := hcolumn.plain hpath
    refine Clause.commaList_yields.bind_nil fun list _ => ?_
    refine .bind_param (.pure' fun taken => ?_)
    rw [predicate, hsnake]
    exact ⟨hplain, Dialect.write_inList taken column⟩
  | nullTest =>
    refine Clause.operand_yields.bind_nil fun column hcolumn => ?_
    obtain ⟨hplain, hsnake⟩ := hcolumn.plain hpath
    split
    · refine .pure' fun taken => ?_
      rw [predicate, hsnake]
      exact ⟨hplain, Sql.write_verbatim _ _⟩
    · next hvalue =>
      refine .pure' fun taken => ?_
      have hnull : predicate (path.parent?.getD "") name (taken + 1) value (some .nullTest) =
          ⟨column, .null⟩ := by
        rw [predicate.eq_def]
        dsimp only
        split
        · exact absurd rfl hvalue
        · rw [hsnake]
      rw [hnull]
      exact ⟨hplain, Sql.write_verbatim _ _⟩
  | substring =>
    refine Clause.operand_yields.bind_nil fun column hcolumn => ?_
    obtain ⟨hplain, hsnake⟩ := hcolumn.plain hpath
    split
    · exact .fault _ _ _
    · exact .fault _ _ _
    · exact .fault _ _ _
    · refine .bind_param (.pure' fun taken => ?_)
      rw [predicate, hsnake]
      exact ⟨hplain, Dialect.write_contains taken column⟩

theorem walk_operator_written {keyword : Option WhereKeyword} (hpath : path.Plain)
    (hname : Identifier.Plain name) (hkeyword : keyword ≠ some .verbatim) :
    (walk.operator path name key value keyword).Yields fun _ fs =>
      ∃ f, fs = [f] ∧ WrittenAs (path.parent?.getD "") name value keyword f :=
  (operator_written hpath hname hkeyword).bind_pure fun _ f hwritten => ⟨f, rfl, hwritten⟩

theorem Atom.arity_eq {keyword : Option WhereKeyword} {f : Sql}
    (h : Atom path name value keyword vs f) : f.arity = vs.length := by
  cases h with
  | verbatim _ hquery =>
    cases hquery with
    | text => rfl
    | query => simp [Sql.arity, Sql.piecesArity, Piece.arity, Sql.verbatim, Sql.room]
  | _ => rfl

theorem arity_wrapped (keyword : Option WhereKeyword) (fs : List Sql) :
    ((wrapped keyword fs).map Sql.arity).sum = (fs.map Sql.arity).sum := by
  rcases wrapped_cases keyword fs with h | ⟨joiner, h⟩
  · rw [h]
  · rw [h, grouped]
    split
    · next hempty => rw [List.isEmpty_iff.1 hempty]
    · rw [List.map_singleton, List.sum_singleton, Sql.arity_append, Sql.arity_append,
        Sql.arity_joined, Sql.arity_verbatim, Nat.zero_add]
      rfl

theorem compiles_arity (h : walk.Compiles path es vs fs) : (fs.map Sql.arity).sum = vs.length := by
  induction h with
  | nil => rfl
  | unset _ _ ih => exact ih
  | nested _ _ _ _ ihes ihrest =>
    rw [List.map_append, List.sum_append, List.length_append, ← ihes, ← ihrest]
    exact congrArg (· + _) (arity_wrapped _ _)
  | own _ _ hgives _ ih =>
    obtain ⟨f, rfl, hatom⟩ := (walk_operator_yields _).of_gives hgives
    rw [List.map_append, List.sum_append, List.length_append, ih, ← hatom.arity_eq]
    rfl

/-! ## What the fragments mean -/

/-- Fragments that can be read as factors, each behind the parameters of those before it, and what
they mean together. -/
def Means (taken : Nat) (fs : List Sql) (truth : (Predicate → Bool) → List Bool) : Prop :=
  ∃ φs, List.Forall₂ (Reads .factor) (Sql.writeAll taken fs) φs ∧
    ∀ ν, φs.map (Formula.eval ν) = truth ν

theorem WrittenAs.means {keyword : Option WhereKeyword} {f : Sql}
    (h : WrittenAs above name value keyword f) (taken : Nat) :
    Means taken [f] fun ν => [ν (predicate above name (taken + 1) value keyword)] := by
  obtain ⟨hcolumn, htext⟩ := h taken
  refine ⟨[.atom _], .cons ?_ .nil, fun ν => rfl⟩
  rw [htext]
  exact .atom hcolumn

theorem Means.append {gs : List Sql} {truth truth' : (Predicate → Bool) → List Bool}
    (hfs : Means taken fs truth) (hgs : Means (taken + (fs.map Sql.arity).sum) gs truth') :
    Means taken (fs ++ gs) fun ν => truth ν ++ truth' ν := by
  obtain ⟨φs, hφs, htruth⟩ := hfs
  obtain ⟨ψs, hψs, htruth'⟩ := hgs
  refine ⟨φs ++ ψs, ?_, fun ν => by rw [List.map_append, htruth, htruth']⟩
  rw [Sql.writeAll_append]
  exact List.rel_append hφs hψs

/-- Fragments with a joiner between them mean what they mean together. -/
theorem Means.joined (j : Joiner) {truth : (Predicate → Bool) → List Bool}
    (h : Means taken fs truth) (hne : fs ≠ []) :
    ∃ χ, Reads .disjunction ((Sql.joined j.word fs).write taken) χ ∧
      ∀ ν, χ.eval ν = j.truth (truth ν) := by
  obtain ⟨φs, hφs, htruth⟩ := h
  obtain ⟨f, rest, rfl⟩ := List.exists_cons_of_ne_nil hne
  obtain - | ⟨hfirst, hrest⟩ := hφs
  obtain ⟨χ, hχ, heval⟩ := Reads.intercalate j hfirst.inner.rise hrest
  refine ⟨χ, ?_, fun ν => by rw [heval, ← htruth, List.map_cons]⟩
  rw [Sql.write_joined]
  exact hχ.disjunction

theorem Means.grouped (j : Joiner) {truth : (Predicate → Bool) → List Bool}
    (h : Means taken fs truth) : Means taken (grouped j.word fs) fun ν =>
      if (truth ν).isEmpty then [] else [j.truth (truth ν)] := by
  cases fs with
  | nil =>
    obtain ⟨φs, hφs, htruth⟩ := h
    obtain rfl := funext htruth
    cases hφs
    exact ⟨[], .nil, fun ν => rfl⟩
  | cons f rest =>
    obtain ⟨χ, hχ, heval⟩ := h.joined j (List.cons_ne_nil f rest)
    refine ⟨[χ], .cons ?_ .nil, fun ν => ?_⟩
    · rw [Sql.write_append, Sql.write_append, Sql.write_verbatim, Sql.write_verbatim]
      exact hχ.parens
    · obtain ⟨φs, hφs, htruth⟩ := h
      obtain rfl := funext htruth
      cases hφs
      rw [List.map_singleton, heval]
      rfl

theorem Means.wrapped (keyword : Option WhereKeyword) {truth : (Predicate → Bool) → List Bool}
    (h : Means taken fs truth) :
    Means taken (wrapped keyword fs) fun ν => gathered keyword (truth ν) := by
  rcases keyword with _ | k
  · exact h
  · cases k with
    | conjunction => exact h.grouped .and
    | disjunction => exact h.grouped .or
    | _ => exact h

/-- The fragments of a mapping mean what its entries mean. -/
theorem compiles_means (h : walk.Compiles path es vs fs)
    (hpath : path.Plain) (hes : named es = true) (taken : Nat) :
    Means taken fs fun ν => truths ν (path.column?.getD "") taken es := by
  -- Along the derivation: the fragments of an entry are numbered behind the leaves of the entries
  -- before it, and so are its predicates.
  induction h generalizing taken with
  | nil => exact ⟨[], .nil, fun ν => rfl⟩
  | @unset path key value rest vs fs hset _ ih =>
    rw [named, Bool.and_eq_true] at hes
    have hrest := ih hpath hes.2 taken
    simp only [truths, entryTruths_unset hset, Clause.entryLeaves_unset hset]
    exact hrest
  | @nested path key name es rest vs ws fs gs hname hnests hcompiles _ ihes ihrest =>
    have hkey : nests (key.keyword? WhereKeyword) = true := hnests
    rw [named, Bool.and_eq_true] at hes
    obtain ⟨hentry, hothers⟩ := hes
    obtain ⟨hplain, -⟩ := plain_of_plainKey (plainKey_of_named hentry rfl) hname
    have hnested := (ihes (hpath.descend hplain) (named_of_nested hentry hkey) taken).wrapped
      (key.keyword? WhereKeyword)
    have hcount : ((wrapped (key.keyword? WhereKeyword) fs).map Sql.arity).sum =
        (Clause.entryLeaves nests ownLeaves key (.mapping es)).length := by
      rw [arity_wrapped, compiles_arity hcompiles, compiles_leaves hcompiles,
        Clause.entryLeaves_nested hkey]
      rfl
    have hall := hnested.append (ihrest hpath hothers _)
    rw [KeyPath.column?_descend, hcount] at hall
    simp only [truths, entryTruths_nested hname hkey]
    exact hall
  | @own path key value name rest vs ws fs gs hname hown hgives hcompiles ih =>
    rw [named, Bool.and_eq_true] at hes
    obtain ⟨hentry, hothers⟩ := hes
    obtain ⟨hplain, hkeyword⟩ := plain_of_plainKey (plainKey_of_named hentry hown.1) hname
    obtain ⟨f, rfl, hatom⟩ := (walk_operator_yields _).of_gives hgives
    obtain ⟨g, hfg, hwritten⟩ := (walk_operator_written (hpath.descend hplain) hplain
      hkeyword).of_gives hgives
    obtain rfl := List.singleton_inj.1 hfg
    rw [KeyPath.parent?_descend] at hwritten
    have hcount : (([f] : List Sql).map Sql.arity).sum =
        (Clause.entryLeaves nests ownLeaves key value).length := by
      have hkey : Clause.Own nests key value := hown
      rw [List.map_singleton, List.sum_singleton, hatom.arity_eq, hatom.leaves_eq,
        Clause.entryLeaves_own hkey]
    have hall := (hwritten.means taken).append (ih hpath hothers _)
    rw [hcount] at hall
    simp only [truths, entryTruths_own hname hown]
    exact hall

/-! ## Conditions -/

theorem condition_compiles (es : List (Value × Value)) :
    (condition (.mapping es)).Yields fun vs sql =>
      ∃ fs, walk.Compiles .root es vs fs ∧ sql = Sql.joined " AND " fs := by
  have hentries : (fragments .root (.mapping es)).Yields (walk.Compiles .root es) := by
    show (entries .root es).Yields _
    rw [entries_eq]
    exact walk.entries_yields .root es
  exact hentries.bind_pure fun vs fs h => ⟨fs, h, rfl⟩

/-- The text of a condition means what the condition means. If its keys are plain names and it has
no verbatim query, its text can be read as exactly one formula, and for every truth of the
predicates this formula is true if and only if all entries of the condition are. -/
theorem condition_means {es : List (Value × Value)} {sql : Sql} (hes : named es = true)
    (h : (condition (.mapping es)).result = .ok sql) (taken : Nat) (hne : sql.write taken ≠ "") :
    ∃ φ, (∀ ψ, Reads .disjunction (sql.write taken) ψ ↔ ψ = φ) ∧
      ∀ ν, φ.eval ν = Joiner.and.truth (truths ν "" taken es) := by
  obtain ⟨fs, hcompiles, rfl⟩ := condition_compiles es sql h
  have hfs : fs ≠ [] := by
    rintro rfl
    exact hne rfl
  have hmeans := compiles_means hcompiles KeyPath.plain_root hes taken
  obtain ⟨φ, hreads, heval⟩ := hmeans.joined .and hfs
  refine ⟨φ, fun ψ => ⟨fun hψ => hψ.unique hreads, ?_⟩, heval⟩
  rintro rfl
  exact hreads

/-- Words of a kind that is missing or listed, or with a given id, and with a given text in them. -/
def searching : List (Value × Value) :=
  [(.text "or", .mapping [
      (.text "kind", .mapping [(.text "isNull", .bool true),
        (.text "in", .list [.text "noun", .text "verb"])]),
      (.text "and", .mapping [(.text "id", .unset)]), (.text "wordId", .int 7)]),
    (.text "text", .mapping [(.text "ilike", .text "ab")])]

def searched : Sql :=
  Sql.joined " AND " [
    "(" ++ Sql.joined " OR " [Sql.verbatim "kind IS NULL", Dialect.inList "kind" .hole,
      Sql.verbatim "word_id = " ++ Sql.hole] ++ ")",
    Dialect.contains "text" .hole]

theorem searching_means :
    searched.write 0 =
        "(kind IS NULL OR kind::TEXT = ANY(STRING_TO_ARRAY($1, ',')::TEXT[]) OR word_id = $2)" ++
          " AND text ILIKE '%' || $3::text || '%'" ∧
      ∃ φ, (∀ ψ, Reads .disjunction (searched.write 0) ψ ↔ ψ = φ) ∧
        ∀ ν, φ.eval ν =
          Joiner.and.truth [Joiner.or.truth [ν ⟨"kind", .null⟩, ν ⟨"kind", .among 1⟩,
            ν ⟨"word_id", .equals 2⟩], ν ⟨"text", .contains 3⟩] := by
  have hnamed : named searching = true := by decide +kernel
  have hcondition : (condition (.mapping searching)).result = .ok searched := by
    rfl
  have hne : searched.write 0 ≠ "" := (not_congr Sql.write_eq_empty_iff).2 (by decide)
  obtain ⟨φ, hreads, heval⟩ := condition_means hnamed hcondition 0 hne
  exact ⟨by decide +kernel, φ, hreads, heval⟩

end Where

end ParamSql
