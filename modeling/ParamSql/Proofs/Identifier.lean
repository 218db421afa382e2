import ParamSql.Identifier
import ParamSql.Constant
import ParamSql.Proofs.Text.Case
import ParamSql.Proofs.Text.Joined

/-!
Names without dollar signs, and plain names.

In another case a letter is beyond the capitals of ASCII, so snake case adds no mark to a name
(`mem_of_mem_snake`), and a name without dollar signs has none in snake case either
(`dollarFree_snake`). A name of letters, digits, underscores and dots stays one (`Plain.snake`).

Dots may be left out of account where the case of every character is its own, which it is in ASCII:
the words of the whole name are marked, and every character is lowered (`snake_ascii`).
-/

namespace ParamSql

def DollarFree (s : String) : Prop :=
  '$' ∉ s.toList

instance (s : String) : Decidable (DollarFree s) :=
  inferInstanceAs (Decidable ('$' ∉ s.toList))

namespace DollarFree

theorem append {s t : String} (hs : DollarFree s) (ht : DollarFree t) : DollarFree (s ++ t) := by
  rw [DollarFree, String.toList_append, List.mem_append]
  exact fun h => h.elim hs ht

theorem intercalate {separator : String} {texts : List String} (hsep : DollarFree separator)
    (h : ∀ t ∈ texts, DollarFree t) : DollarFree (separator.intercalate texts) := by
  intro hmem
  rcases Text.mem_toList_intercalate hmem with hmark | ⟨t, ht, hmark⟩
  · exact hsep hmark
  · exact h t ht hmark

end DollarFree

namespace Text

/-! ## Letters of ASCII -/

/-- In ASCII, only the first run of a case table counts if all that follows is beyond. -/
theorem mapCase_ascii {run : Nat × Nat × Nat × Int} {runs : List (Nat × Nat × Nat × Int)}
    {expansions : List (Nat × List Nat)} {c : Char} (hruns : ∀ r ∈ runs, 128 ≤ r.1)
    (hexpansions : ∀ e ∈ expansions, 128 ≤ e.1) (hc : c.toNat < 128) :
    mapCase (run :: runs) expansions c = mapCase [run] [] c := by
  have hlookup : expansions.lookup c.toNat = none :=
    List.lookup_eq_none_iff.2 fun e he => bne_iff_ne.2 <| by
      have := hexpansions e he
      omega
  have hrest : shifted? runs c.toNat = none := by
    refine List.findSome?_eq_none_iff.2 fun r hr => ?_
    have hbeyond : ¬ r.1 ≤ c.toNat := by
      have := hruns r hr
      omega
    simp [hbeyond]
  have hshifted : shifted? (run :: runs) c.toNat = shifted? [run] c.toNat := by
    unfold shifted? at hrest ⊢
    rw [List.findSome?_cons, List.findSome?_cons, hrest, List.findSome?_nil]
  rw [mapCase, mapCase, hlookup, hshifted]
  rfl

/-- But for the run of the letters of ASCII, both case tables are beyond. -/
theorem tables_beyond :
    ((∀ r ∈ lowerRuns.tail, 128 ≤ r.1) ∧ ∀ e ∈ lowerExpansions, 128 ≤ e.1) ∧
      (∀ r ∈ upperRuns.tail, 128 ≤ r.1) ∧ ∀ e ∈ upperExpansions, 128 ≤ e.1 := by
  decide +kernel

theorem lowerChar_ascii {c : Char} (h : c.toNat < 128) :
    lowerChar c = mapCase [(0x41, 0x5A, 1, 32)] [] c :=
  mapCase_ascii tables_beyond.1.1 tables_beyond.1.2 h

theorem upperChar_ascii {c : Char} (h : c.toNat < 128) :
    upperChar c = mapCase [(0x61, 0x7A, 1, -32)] [] c :=
  mapCase_ascii tables_beyond.2.1 tables_beyond.2.2 h

theorem lowerChar_eq_toLower {c : Char} (h : c.toNat < 128) : lowerChar c = [c.toLower] := by
  have htable : ∀ n < 128,
      mapCase [(0x41, 0x5A, 1, 32)] [] (Char.ofNat n) = [(Char.ofNat n).toLower] := by
    decide +kernel
  have hc := htable c.toNat h
  rwa [Char.ofNat_toNat, ← lowerChar_ascii h] at hc

/-- In ASCII, a text is lowered character by character. -/
theorem lowerFrom_ascii (inWord : Bool) {cs : List Char} (h : ∀ c ∈ cs, c.toNat < 128) :
    lowerFrom inWord cs = cs.map Char.toLower := by
  induction cs generalizing inWord with
  | nil => rfl
  | cons c rest ih =>
    obtain ⟨hc, hrest⟩ := List.forall_mem_cons.1 h
    have hsigma : c ≠ 'Σ' := by
      rintro rfl
      exact absurd hc (by decide)
    rw [lowerFrom, beq_false_of_ne hsigma, Bool.false_and, Bool.false_and,
      if_neg Bool.false_ne_true, lowerChar_eq_toLower hc, ih _ hrest, List.map_cons,
      List.singleton_append]

/-! ## Lower case -/

/-- The lower case leads beyond the capitals of ASCII. -/
theorem le_of_mem_lowerTargets : ∀ n ∈ caseTargets lowerRuns lowerExpansions, 97 ≤ n := by
  decide +kernel

/-- The lower case of a character is the character or beyond the capitals of ASCII. -/
theorem le_of_mem_lowerChar {c d : Char} (h : d ∈ lowerChar c) : d = c ∨ 97 ≤ d.toNat := by
  rcases mem_mapCase h with ⟨hd, -⟩ | ⟨n, hn, rfl⟩
  · exact .inl hd
  · rw [toNat_ofNat (isValidChar_of_mem_caseTargets.1 n hn)]
    exact .inr (le_of_mem_lowerTargets n hn)

/-- What is not beyond the capitals of ASCII in lower case has been there before. -/
theorem mem_of_mem_lowerFrom {cs : List Char} {inWord : Bool} {d : Char}
    (h : d ∈ lowerFrom inWord cs) (hd : d.toNat < 97) : d ∈ cs := by
  induction cs generalizing inWord with
  | nil => exact h
  | cons c rest ih =>
    rw [lowerFrom] at h
    split at h
    · rcases List.mem_cons.1 h with rfl | h
      · exact absurd hd (by decide)
      · exact List.mem_cons_of_mem c (ih h)
    · rcases List.mem_append.1 h with h | h
      · rcases le_of_mem_lowerChar h with rfl | hle
        · exact List.mem_cons_self
        · omega
      · exact List.mem_cons_of_mem c (ih h)

end Text

namespace Identifier

/-! ## Cutting -/

/-- Cutting is the library's splitting. -/
theorem cut_eq_splitOnP (sep : Char → Bool) (cs : List Char) : cut sep cs = cs.splitOnP sep := by
  induction cs with
  | nil => rfl
  | cons c rest ih =>
    obtain ⟨part, parts, hsplit⟩ := List.exists_cons_of_ne_nil (List.splitOnP_ne_nil sep rest)
    rw [cut, List.splitOnP_cons_eq_if_modifyHead, ih, hsplit, List.modifyHead_cons]

theorem cut_ne_nil (sep : Char → Bool) (cs : List Char) : cut sep cs ≠ [] := by
  rw [cut_eq_splitOnP]
  exact List.splitOnP_ne_nil sep cs

theorem cut_cons {sep : Char → Bool} {c : Char} (hc : sep c = false) (cs : List Char) :
    ∃ part parts, cut sep cs = part :: parts ∧ cut sep (c :: cs) = (c :: part) :: parts := by
  rw [cut, hc, if_neg Bool.false_ne_true]
  cases hcut : cut sep cs with
  | nil => exact absurd hcut (cut_ne_nil sep cs)
  | cons part parts => exact ⟨part, parts, rfl, rfl⟩

theorem cut_of_not_mem {sep : Char → Bool} {cs : List Char} (h : ∀ c ∈ cs, sep c = false) :
    cut sep cs = [cs] := by
  rw [cut_eq_splitOnP, List.splitOnP_eq_singleton h]

theorem cut_append {sep : Char → Bool} {s : Char} (hs : sep s = true) (cs rest : List Char) :
    cut sep (cs ++ s :: rest) = cut sep cs ++ cut sep rest := by
  rw [cut_eq_splitOnP, cut_eq_splitOnP, cut_eq_splitOnP, List.splitOnP_append_cons cs rest hs]

/-- Parts that are put together with a separator are got back. -/
theorem cut_intercalate {sep : Char → Bool} {s : Char} (hs : sep s = true)
    {parts : List (List Char)} (hne : parts ≠ [])
    (h : ∀ part ∈ parts, ∀ c ∈ part, sep c = false) : cut sep ([s].intercalate parts) = parts := by
  induction parts with
  | nil => exact absurd rfl hne
  | cons part rest ih =>
    obtain ⟨hpart, hrest⟩ := List.forall_mem_cons.1 h
    cases rest with
    | nil => rw [List.intercalate_singleton, cut_of_not_mem hpart]
    | cons next rest =>
      rw [List.intercalate_cons_cons, List.append_assoc, List.singleton_append,
        cut_append hs, cut_of_not_mem hpart, ih (List.cons_ne_nil _ _) hrest, List.singleton_append]

theorem mem_of_mem_cut {sep : Char → Bool} {cs part : List Char} {c : Char}
    (hpart : part ∈ cut sep cs) (hc : c ∈ part) : c ∈ cs := by
  induction cs generalizing part with
  | nil =>
    rw [cut, List.mem_singleton] at hpart
    rwa [hpart] at hc
  | cons d rest ih =>
    rw [cut] at hpart
    split at hpart
    · rcases List.mem_cons.1 hpart with rfl | hpart
      · exact absurd hc List.not_mem_nil
      · exact List.mem_cons_of_mem d (ih hpart hc)
    · split at hpart
      · rw [List.mem_singleton.1 hpart, List.mem_singleton] at hc
        rw [hc]
        exact List.mem_cons_self
      · next first others heq =>
        rcases List.mem_cons.1 hpart with rfl | hpart
        · rcases List.mem_cons.1 hc with rfl | hc
          · exact List.mem_cons_self
          · exact List.mem_cons_of_mem d (ih (by rw [heq]; exact List.mem_cons_self) hc)
        · exact List.mem_cons_of_mem d (ih (by rw [heq]; exact List.mem_cons_of_mem _ hpart) hc)

/-- No part of a cut text has a separator in it. -/
theorem not_sep_of_mem_cut {sep : Char → Bool} {cs part : List Char} (h : part ∈ cut sep cs) :
    ∀ c ∈ part, sep c = false := by
  induction cs generalizing part with
  | nil =>
    rw [cut, List.mem_singleton] at h
    rw [h]
    exact fun c hc => absurd hc List.not_mem_nil
  | cons d rest ih =>
    by_cases hd : sep d = true
    · rw [cut, if_pos hd, List.mem_cons] at h
      rcases h with rfl | h
      · exact fun c hc => absurd hc List.not_mem_nil
      · exact ih h
    · rw [Bool.not_eq_true] at hd
      obtain ⟨first, others, hcut, hcons⟩ := cut_cons hd rest
      rw [hcons, List.mem_cons] at h
      rw [hcut] at ih
      rcases h with rfl | h
      · exact List.forall_mem_cons.2 ⟨hd, ih List.mem_cons_self⟩
      · exact ih (List.mem_cons_of_mem first h)

/-! ## Snake case -/

theorem mem_markWords {cs : List Char} {c : Char} (h : c ∈ markWords cs) : c ∈ cs ∨ c = '_' := by
  induction cs with
  | nil => exact .inl h
  | cons d rest ih =>
    rw [markWords] at h
    split at h
    · simp only [List.mem_cons] at h ⊢
      rcases h with rfl | rfl | h
      · exact .inl (.inl rfl)
      · exact .inr rfl
      · exact (ih h).imp .inr id
    · simp only [List.mem_cons] at h ⊢
      rcases h with rfl | h
      · exact .inl (.inl rfl)
      · exact (ih h).imp .inr id

/-- What stands behind a dot makes no word end before it. -/
theorem endsWord_append_dot (c : Char) (cs rest : List Char) :
    endsWord c (cs ++ '.' :: rest) = endsWord c cs := by
  cases cs with
  | nil => rfl
  | cons d cs =>
    cases cs with
    | nil => rfl
    | cons e cs => rfl

/-- The words on the two sides of a dot are marked apart. -/
theorem markWords_append_dot (cs rest : List Char) :
    markWords (cs ++ '.' :: rest) = markWords cs ++ '.' :: markWords rest := by
  induction cs with
  | nil =>
    have hdot : endsWord '.' rest = false := by
      cases rest with
      | nil => rfl
      | cons c rest => exact Bool.and_false _
    show markWords ('.' :: rest) = '.' :: markWords rest
    rw [markWords, hdot, if_neg Bool.false_ne_true]
  | cons c cs ih =>
    rw [List.cons_append, markWords, markWords, endsWord_append_dot, ih]
    split <;> rfl

theorem markWords_intercalate (parts : List (List Char)) :
    markWords (['.'].intercalate parts) = ['.'].intercalate (parts.map markWords) := by
  induction parts with
  | nil => rfl
  | cons part rest ih =>
    cases rest with
    | nil => rw [List.map_singleton, List.intercalate_singleton, List.intercalate_singleton]
    | cons next rest =>
      rw [List.intercalate_cons_cons, List.append_assoc, List.singleton_append,
        markWords_append_dot, ih, List.map_cons, List.map_cons, List.map_cons,
        List.intercalate_cons_cons, List.append_assoc, List.singleton_append]

/-- In ASCII, the words of a name are marked and lowered without regard to its dots. -/
theorem snake_ascii {name : List Char} (h : ∀ c ∈ name, c.toNat < 128) :
    snake (String.ofList name) = String.ofList ((markWords name).map Char.toLower) := by
  have hlower : ∀ part ∈ cut (· == '.') name,
      Text.lower (markWords part) = (markWords part).map Char.toLower := by
    intro part hpart
    refine Text.lowerFrom_ascii false fun c hc => ?_
    rcases mem_markWords hc with hname | rfl
    · exact h c (mem_of_mem_cut hpart hname)
    · decide
  have hcut : ['.'].intercalate (cut (· == '.') name) = name := by
    rw [cut_eq_splitOnP, ← List.splitOn_eq_splitOnP, List.intercalate_splitOn]
  calc snake (String.ofList name)
      = String.ofList (['.'].intercalate
          (((cut (· == '.') name).map markWords).map (List.map Char.toLower))) := by
        rw [snake, String.toList_ofList, snakeWith, List.map_congr_left hlower, List.map_map]
        rfl
    _ = String.ofList ((['.'].intercalate ((cut (· == '.') name).map markWords)).map
          Char.toLower) := by
        rw [Text.map_intercalate]
        rfl
    _ = String.ofList ((markWords name).map Char.toLower) := by
        rw [← markWords_intercalate, hcut]

/-- Snake case adds no characters but dots, underscores and small letters. -/
theorem mem_of_mem_snake {name : String} {d : Char} (h : d ∈ (snake name).toList)
    (hd : d.toNat < 97) (hdot : d ≠ '.') (hline : d ≠ '_') : d ∈ name.toList := by
  rw [snake, String.toList_ofList] at h
  rcases Text.mem_intercalate h with hsep | ⟨part, hpart, hin⟩
  · exact absurd (List.mem_singleton.1 hsep) hdot
  · obtain ⟨source, hsource, rfl⟩ := List.mem_map.1 hpart
    rcases mem_markWords (Text.mem_of_mem_lowerFrom hin hd) with hname | rfl
    · exact mem_of_mem_cut hsource hname
    · exact absurd rfl hline

theorem dollarFree_snake {name : String} (h : DollarFree name) : DollarFree (snake name) :=
  fun hmem => h (mem_of_mem_snake hmem (by decide) (by decide) (by decide))

end Identifier

/-! ## Plain names -/

namespace Identifier

/-- Whether the character is a letter or a digit of ASCII, an underscore or a dot. -/
def isNameChar (c : Char) : Bool :=
  c.isAlphanum || c == '_' || c == '.'

/-- The name is not empty and has no other characters than those of plain names. -/
structure Plain (name : String) : Prop where
  nonempty : name.toList ≠ []
  chars : ∀ c ∈ name.toList, isNameChar c = true

def isPlain (name : String) : Bool :=
  !name.toList.isEmpty && name.toList.all isNameChar

theorem Plain.of_isPlain {name : String} (h : isPlain name = true) : Plain name := by
  rw [isPlain, Bool.and_eq_true, List.all_eq_true] at h
  exact ⟨by simpa using h.1, h.2⟩

theorem toNat_lt_of_isNameChar {c : Char} (h : isNameChar c = true) : c.toNat < 128 := by
  delta isNameChar Char.isAlphanum Char.isAlpha Char.isUpper Char.isLower Char.isDigit at h
  simp only [Bool.or_eq_true, Bool.and_eq_true, decide_eq_true_eq, beq_iff_eq,
    UInt32.le_iff_toNat_le] at h
  rcases h with (((h | h) | h) | rfl) | rfl
  · exact Nat.lt_of_le_of_lt h.2 (by decide)
  · exact Nat.lt_of_le_of_lt h.2 (by decide)
  · exact Nat.lt_of_le_of_lt h.2 (by decide)
  · decide
  · decide

theorem isNameChar_toLower {c : Char} (h : isNameChar c = true) : isNameChar c.toLower = true := by
  have htable : ∀ n < 128,
      isNameChar (Char.ofNat n) = true → isNameChar (Char.ofNat n).toLower = true := by
    decide +kernel
  have hc := htable c.toNat (toNat_lt_of_isNameChar h)
  rw [Char.ofNat_toNat] at hc
  exact hc h

/-- A part of a plain name stays plain in lower case, and is lost only if it is empty. -/
theorem lowerFrom_isNameChar {cs : List Char} (inWord : Bool) (h : ∀ c ∈ cs, isNameChar c = true) :
    (Text.lowerFrom inWord cs = [] → cs = []) ∧
      ∀ d ∈ Text.lowerFrom inWord cs, isNameChar d = true := by
  rw [Text.lowerFrom_ascii inWord fun c hc => toNat_lt_of_isNameChar (h c hc)]
  refine ⟨List.map_eq_nil_iff.1, fun d hd => ?_⟩
  obtain ⟨c, hc, rfl⟩ := List.mem_map.1 hd
  exact isNameChar_toLower (h c hc)

theorem eq_nil_of_cut {sep : Char → Bool} {cs : List Char} (h : cut sep cs = [[]]) : cs = [] := by
  cases cs with
  | nil => rfl
  | cons c rest =>
    rw [cut] at h
    split at h
    · exact absurd (List.cons.inj h).2 (cut_ne_nil sep rest)
    · split at h <;> cases h

theorem eq_nil_of_markWords {cs : List Char} (h : markWords cs = []) : cs = [] := by
  cases cs with
  | nil => rfl
  | cons c rest =>
    rw [markWords] at h
    split at h <;> cases h

theorem intercalate_eq_nil {sep : Char} {parts : List (List Char)}
    (h : [sep].intercalate parts = []) : parts = [] ∨ parts = [[]] := by
  cases parts with
  | nil => exact .inl rfl
  | cons part rest =>
    cases rest with
    | nil =>
      rw [List.intercalate_singleton] at h
      exact .inr (congrArg (fun p => [p]) h)
    | cons next rest =>
      rw [List.intercalate_cons_cons] at h
      simp at h

theorem Plain.snake {name : String} (h : Plain name) : Plain (snake name) := by
  have hpart : ∀ part ∈ cut (· == '.') name.toList, ∀ c ∈ markWords part, isNameChar c = true := by
    intro part hpart c hc
    rcases mem_markWords hc with hname | rfl
    · exact h.chars c (mem_of_mem_cut hpart hname)
    · rfl
  constructor
  · -- A text without characters has one part without characters, and so had the name.
    rw [Identifier.snake, String.toList_ofList]
    intro hnil
    rcases intercalate_eq_nil hnil with hnone | hone
    · exact cut_ne_nil _ _ (List.map_eq_nil_iff.1 hnone)
    · obtain ⟨part, hcut, hlower⟩ := List.map_eq_singleton_iff.1 hone
      have hmem : part ∈ cut (· == '.') name.toList := by
        rw [hcut]
        exact List.mem_singleton_self part
      have hmarked := (lowerFrom_isNameChar false (hpart part hmem)).1 hlower
      rw [eq_nil_of_markWords hmarked] at hcut
      exact h.nonempty (eq_nil_of_cut hcut)
  · intro c hc
    rw [Identifier.snake, String.toList_ofList] at hc
    rcases Text.mem_intercalate hc with hsep | ⟨part, hmem, hin⟩
    · rw [List.mem_singleton.1 hsep]
      rfl
    · obtain ⟨source, hsource, rfl⟩ := List.mem_map.1 hmem
      exact (lowerFrom_isNameChar false (hpart source hsource)).2 c hin

end Identifier

/-! ## Constants -/

theorem SortDirection.dollarFree_text (d : SortDirection) : DollarFree d.text := by
  cases d <;> decide

theorem JoinType.dollarFree_text (t : JoinType) : DollarFree t.text := by
  cases t <;> decide

end ParamSql
