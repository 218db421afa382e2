import ParamSql.Proofs.Identifier

/-!
Camel case is a fixed point of itself.

The words of a key are not empty and have no separators in them, and changing the case of a
character leads to none (`unseparated_lowerChar`, `unseparated_upperChar`). So the camel case of a
key with words is one word that begins in lower case (`camel_of_words`), which camel case leaves as
it is (`camel_camel`); only a key of separators alone still has separators (`separators_camel`).
-/

namespace ParamSql.Identifier

/-! ## Separators and the case of letters -/

def separatorPoints : List Nat :=
  '_'.toNat :: '-'.toNat :: Text.blankRanges.flatMap fun r => List.range' r.1 (r.2 + 1 - r.1)

theorem mem_separatorPoints_iff {c : Char} :
    c.toNat ∈ separatorPoints ↔ separatesWords c = true := by
  have hblank : c.toNat ∈ Text.blankRanges.flatMap (fun r => List.range' r.1 (r.2 + 1 - r.1)) ↔
      Text.isBlankChar c = true := by
    rw [Text.isBlankChar, Text.inRanges, List.any_eq_true, List.mem_flatMap]
    refine exists_congr fun r => and_congr_right fun _ => ?_
    rw [List.mem_range'_1, Bool.and_eq_true, decide_eq_true_eq, decide_eq_true_eq]
    omega
  rw [separatorPoints, List.mem_cons, List.mem_cons, hblank, separatesWords, Bool.or_eq_true,
    Bool.or_eq_true, beq_iff_eq, beq_iff_eq, or_assoc, Char.toNat_inj, Char.toNat_inj]

/-- No letter has a separator for its other case. -/
theorem mask_separators_disjoint :
    Text.mask (Text.caseTargets Text.lowerRuns Text.lowerExpansions) &&&
        Text.mask separatorPoints = 0 ∧
      Text.mask (Text.caseTargets Text.upperRuns Text.upperExpansions) &&&
        Text.mask separatorPoints = 0 := by
  decide +kernel

def Unseparated (cs : List Char) : Prop :=
  ∀ c ∈ cs, separatesWords c = false

theorem not_mem_separatorPoints_iff {c : Char} :
    c.toNat ∉ separatorPoints ↔ separatesWords c = false := by
  rw [mem_separatorPoints_iff, Bool.not_eq_true]

theorem unseparated_lowerChar {c : Char} (hc : separatesWords c = false) :
    Unseparated (Text.lowerChar c) := by
  intro d hd
  rw [← not_mem_separatorPoints_iff] at hc ⊢
  exact Text.not_mem_of_mem_mapCase Text.isValidChar_of_mem_caseTargets.1
    mask_separators_disjoint.1 hc hd

theorem unseparated_upperChar {c : Char} (hc : separatesWords c = false) :
    Unseparated (Text.upperChar c) := by
  intro d hd
  rw [← not_mem_separatorPoints_iff] at hc ⊢
  exact Text.not_mem_of_mem_mapCase Text.isValidChar_of_mem_caseTargets.2
    mask_separators_disjoint.2 hc hd

/-! ## Words -/

theorem unseparated_append {cs ds : List Char} (hcs : Unseparated cs) (hds : Unseparated ds) :
    Unseparated (cs ++ ds) := by
  intro c hc
  rcases List.mem_append.1 hc with hc | hc
  · exact hcs c hc
  · exact hds c hc

theorem mem_words {key word : List Char} (h : word ∈ words key) :
    word ≠ [] ∧ Unseparated word := by
  obtain ⟨hcut, hne⟩ := List.mem_filter.1 h
  exact ⟨by simpa using hne, not_sep_of_mem_cut hcut⟩

/-- A key without words has separators only. -/
theorem separates_of_words {key : List Char} (h : words key = []) :
    ∀ c ∈ key, separatesWords c = true := by
  induction key with
  | nil => exact fun c hc => absurd hc List.not_mem_nil
  | cons c rest ih =>
    by_cases hc : separatesWords c = true
    · rw [words, cut, if_pos hc] at h
      exact List.forall_mem_cons.2 ⟨hc, ih h⟩
    · rw [Bool.not_eq_true] at hc
      obtain ⟨part, parts, -, hcons⟩ := cut_cons hc rest
      rw [words, hcons] at h
      simp at h

/-- A text without separators is its own only word. -/
theorem words_of_unseparated {key : List Char} (hne : key ≠ []) (h : Unseparated key) :
    words key = [key] := by
  rw [words, cut_of_not_mem h]
  simp [hne]

/-! ## Camel case -/

theorem unseparated_mapFirst {f : Char → List Char} {word : List Char}
    (hf : ∀ c, separatesWords c = false → Unseparated (f c)) (h : Unseparated word) :
    Unseparated (mapFirst f word) := by
  cases word with
  | nil => exact h
  | cons c rest =>
    obtain ⟨hc, hrest⟩ := List.forall_mem_cons.1 h
    exact unseparated_append (hf c hc) hrest

/-- The camel case of a key with words has no separators, and it begins with a letter that is in
lower case or has none. -/
theorem camel_of_words {key : String} (h : words key.toList ≠ []) :
    ∃ d rest, (camel key).toList = d :: rest ∧ Text.lowerChar d = [d] ∧
      Unseparated (d :: rest) := by
  cases hwords : words key.toList with
  | nil => exact absurd hwords h
  | cons first others =>
    have hmem : ∀ word ∈ first :: others, word ≠ [] ∧ Unseparated word := by
      rw [← hwords]
      exact fun word hword => mem_words hword
    obtain ⟨⟨hne, hfirst⟩, hothers⟩ := List.forall_mem_cons.1 hmem
    have hunseparated : Unseparated
        (mapFirst Text.lowerChar first ++ others.flatMap (mapFirst Text.upperChar)) := by
      refine unseparated_append (unseparated_mapFirst (fun _ => unseparated_lowerChar) hfirst) ?_
      intro c hc
      obtain ⟨word, hword, hin⟩ := List.mem_flatMap.1 hc
      exact unseparated_mapFirst (fun _ => unseparated_upperChar) (hothers word hword).2 c hin
    have hcamel : (camel key).toList =
        mapFirst Text.lowerChar first ++ others.flatMap (mapFirst Text.upperChar) := by
      rw [camel, hwords, String.toList_ofList]
    cases first with
    | nil => exact absurd rfl hne
    | cons c tail =>
      cases hlower : Text.lowerChar c with
      | nil => exact absurd hlower (Text.lowerChar_ne_nil c)
      | cons d more =>
        have hd : d ∈ Text.lowerChar c := by
          rw [hlower]
          exact List.mem_cons_self
        rw [mapFirst, hlower] at hcamel hunseparated
        exact ⟨d, _, hcamel, Text.lowerChar_of_mem hd, hunseparated⟩

/-- A key without words stays as it is. -/
theorem camel_of_no_words {key : String} (h : words key.toList = []) : camel key = key := by
  rw [camel, h]

/-- A key that is one word in lower case stays as it is. -/
theorem camel_of_word {key : String} {d : Char} {rest : List Char} (hkey : key.toList = d :: rest)
    (hd : Text.lowerChar d = [d]) (h : Unseparated (d :: rest)) : camel key = key := by
  rw [camel, hkey, words_of_unseparated (List.cons_ne_nil d rest) h]
  show String.ofList (Text.lowerChar d ++ rest ++ []) = key
  rw [hd, List.append_nil, List.singleton_append, ← hkey, String.ofList_toList]

/-- Camel case does nothing to what is in camel case. -/
theorem camel_camel (key : String) : camel (camel key) = camel key := by
  by_cases h : words key.toList = []
  · rw [camel_of_no_words h, camel_of_no_words h]
  · obtain ⟨d, rest, hcamel, hd, hunseparated⟩ := camel_of_words h
    exact camel_of_word hcamel hd hunseparated

/-- A key in camel case has a separator only if it has nothing else. -/
theorem separators_camel {key : String} {c : Char} (hc : c ∈ (camel key).toList)
    (hsep : separatesWords c = true) : ∀ d ∈ (camel key).toList, separatesWords d = true := by
  by_cases h : words key.toList = []
  · rw [camel_of_no_words h]
    exact separates_of_words h
  · obtain ⟨d, rest, hcamel, -, hunseparated⟩ := camel_of_words h
    rw [hcamel] at hc
    rw [hunseparated c hc] at hsep
    exact absurd hsep Bool.false_ne_true

end ParamSql.Identifier
