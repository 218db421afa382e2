import ParamSql.Proofs.Identifier.RoundTrip

/-!
Snake case as a normal form of names.

Of the lowering of a text no more is used than `Lowering` says: it does nothing twice, leaves no
capital of ASCII, and neither adds nor removes dots. Then a part of a name in snake case has no
capital that could end a word, so snake case leaves it as it is; and as a dot cuts a name into parts
that are treated by themselves, snake case acts on the two sides of a dot apart.

In ASCII, snake case is the lowered name with one underscore behind every character that ends a word
(`underscored`, `endsWordAt`).
-/

namespace ParamSql.Identifier

/-! ## Lowering a text -/

/-- A way to lower texts that does nothing twice, leaves no capital of ASCII, and neither adds nor
removes dots. -/
structure Lowering (lowering : List Char → List Char) : Prop where
  idempotent : ∀ cs, lowering (lowering cs) = lowering cs
  not_capital : ∀ cs, ∀ c ∈ lowering cs, isCapital c = false
  count_dot : ∀ cs, (lowering cs).count '.' = cs.count '.'

/-- A capital is not in lower case. -/
theorem not_capital_of_lowerChar {c : Char} (h : Text.lowerChar c = [c]) : isCapital c = false := by
  rw [← Bool.not_eq_true]
  intro hcapital
  have hlower := lowerChar_latin (isLatin_of_isCapital hcapital)
  rw [h, List.singleton_inj] at hlower
  exact (capital_cases hcapital).2.1 hlower.symm

theorem count_dot_lowerChar (c : Char) : (Text.lowerChar c).count '.' = [c].count '.' := by
  by_cases hc : c = '.'
  · rw [hc, Text.lowerChar_eq_toLower (by decide)]
    rfl
  · have hdot : '.' ∉ Text.lowerChar c := by
      intro h
      rcases Text.le_of_mem_lowerChar h with rfl | hle
      · exact hc rfl
      · exact absurd hle (by decide)
    rw [List.count_eq_zero_of_not_mem hdot, List.count_singleton, beq_false_of_ne hc,
      if_neg Bool.false_ne_true]

theorem count_dot_lowerFrom (inWord : Bool) (cs : List Char) :
    (Text.lowerFrom inWord cs).count '.' = cs.count '.' := by
  induction cs generalizing inWord with
  | nil => rfl
  | cons c rest ih =>
    rw [Text.lowerFrom]
    split
    · next hfinal =>
      have hsigma : c = 'Σ' := by
        rw [Bool.and_eq_true, Bool.and_eq_true, beq_iff_eq] at hfinal
        exact hfinal.1.1
      rw [hsigma, List.count_cons_of_ne (by decide), List.count_cons_of_ne (by decide), ih]
    · rw [List.count_append, count_dot_lowerChar, ih, ← List.count_append, List.singleton_append]

/-- The lower case of Unicode is such a lowering. -/
theorem lowering_lower : Lowering Text.lower where
  idempotent := Text.lower_lower
  not_capital _ _ hc := not_capital_of_lowerChar (Text.lowerChar_of_mem_lowerFrom hc)
  count_dot := count_dot_lowerFrom false

/-! ## Parts of a name -/

/-- Snake case acts on the two sides of a dot apart. -/
theorem snakeWith_append_dot (lowering : List Char → List Char) (cs rest : List Char) :
    snakeWith lowering (cs ++ '.' :: rest) =
      snakeWith lowering cs ++ '.' :: snakeWith lowering rest := by
  rw [snakeWith, cut_append rfl, List.map_append, Text.intercalate_append]
  · rw [List.append_assoc, List.singleton_append]
    rfl
  · exact fun h => cut_ne_nil _ cs (List.map_eq_nil_iff.1 h)
  · exact fun h => cut_ne_nil _ rest (List.map_eq_nil_iff.1 h)

/-- Without capitals no word ends. -/
theorem markWords_of_not_capital {cs : List Char} (h : ∀ c ∈ cs, isCapital c = false) :
    markWords cs = cs := by
  induction cs with
  | nil => rfl
  | cons c rest ih =>
    obtain ⟨-, hrest⟩ := List.forall_mem_cons.1 h
    have hends : endsWord c rest = false := by
      cases rest with
      | nil => rfl
      | cons d rest => exact endsWord_of_not_capital (hrest d List.mem_cons_self) c rest
    rw [markWords, hends, if_neg Bool.false_ne_true, ih hrest]

namespace Lowering

variable {lowering : List Char → List Char}

/-- The parts of a name are found again in snake case. -/
theorem cut_snakeWith (h : Lowering lowering) (name : List Char) :
    cut (· == '.') (snakeWith lowering name) =
      (cut (· == '.') name).map fun part => lowering (markWords part) := by
  apply cut_intercalate rfl
  · exact fun hnil => cut_ne_nil _ name (List.map_eq_nil_iff.1 hnil)
  · intro part hpart c hc
    obtain ⟨source, hsource, rfl⟩ := List.mem_map.1 hpart
    -- The part came without dots, and neither the marks nor the lowering added one.
    have hmarked : '.' ∉ markWords source := by
      intro hdot
      rcases mem_markWords hdot with hin | hmark
      · exact absurd (not_sep_of_mem_cut hsource _ hin) (by decide)
      · exact absurd hmark (by decide)
    have hcount := h.count_dot (markWords source)
    rw [List.count_eq_zero_of_not_mem hmarked, List.count_eq_zero] at hcount
    exact beq_false_of_ne fun heq => hcount (heq ▸ hc)

/-- Snake case does nothing to what is in snake case. -/
theorem snakeWith_snakeWith (h : Lowering lowering) (name : List Char) :
    snakeWith lowering (snakeWith lowering name) = snakeWith lowering name := by
  have hpart : ∀ part ∈ cut (· == '.') name,
      lowering (markWords (lowering (markWords part))) = lowering (markWords part) := by
    intro part _
    rw [markWords_of_not_capital (h.not_capital _), h.idempotent]
  calc snakeWith lowering (snakeWith lowering name)
      = ['.'].intercalate ((cut (· == '.') name).map fun part =>
          lowering (markWords (lowering (markWords part)))) := by
        rw [snakeWith, h.cut_snakeWith, List.map_map]
        rfl
    _ = snakeWith lowering name := by
        rw [List.map_congr_left hpart]
        rfl

end Lowering

/-! ## Words in ASCII -/

/-- Whether a word ends with the character at place `i`: a capital follows a small letter or
a digit, or a capital follows a capital and a small letter follows both. None of these is a dot, so
all of them stand in one part of the name. -/
def endsWordAt (cs : List Char) (i : Nat) : Bool :=
  match cs[i]?, cs[i + 1]? with
  | some a, some b =>
    (isLow a && isCapital b) || (isCapital a && isCapital b && cs[i + 2]?.any isSmall)
  | _, _ => false

/-- The characters with an underscore behind each of those at the places that `p` accepts. -/
def underscored (cs : List Char) (p : Nat → Bool) : List Char :=
  cs.zipIdx.flatMap fun (c, i) => if p i then [c, '_'] else [c]

section

variable {p : Nat → Bool}

theorem underscored_cons (c : Char) (rest : List Char) :
    underscored (c :: rest) p =
      (if p 0 then [c, '_'] else [c]) ++ underscored rest fun i => p (i + 1) := by
  rw [underscored, List.zipIdx_cons', List.flatMap_cons, List.flatMap_map]
  rfl

theorem map_underscored {f : Char → Char} (hf : f '_' = '_') (cs : List Char) :
    (underscored cs p).map f = underscored (cs.map f) p := by
  induction cs generalizing p with
  | nil => rfl
  | cons c rest ih =>
    rw [underscored_cons, List.map_append, ih, List.map_cons, underscored_cons]
    split
    · rw [List.map_cons, List.map_singleton, hf]
    · rfl

/-- Without underscores nothing is seen of those that were put in. -/
theorem filter_underscored (cs : List Char) :
    (underscored cs p).filter (· != '_') = cs.filter (· != '_') := by
  induction cs generalizing p with
  | nil => rfl
  | cons c rest ih =>
    have hfirst : (if p 0 then [c, '_'] else [c]).filter (· != '_') = [c].filter (· != '_') := by
      split
      · simp [List.filter_cons]
      · rfl
    rw [underscored_cons, List.filter_append, hfirst, ih, ← List.filter_append,
      List.singleton_append]

end

/-- At the first place of a text this is `endsWord`. -/
theorem endsWordAt_zero (c : Char) (rest : List Char) :
    endsWordAt (c :: rest) 0 = endsWord c rest := by
  cases rest with
  | nil => rfl
  | cons d rest =>
    have hnext : rest[0]?.any isSmall = (rest.head?.map isSmall).getD false := by
      cases rest <;> rfl
    show (isLow c && isCapital d || (isCapital c && isCapital d && rest[0]?.any isSmall)) = _
    rw [hnext, endsWord, isLow]
    grind

/-- Marking the words puts an underscore behind every character that ends one. -/
theorem markWords_eq_underscored (cs : List Char) :
    markWords cs = underscored cs (endsWordAt cs) := by
  induction cs with
  | nil => rfl
  | cons c rest ih =>
    have hrest : underscored rest (fun i => endsWordAt (c :: rest) (i + 1)) =
        underscored rest (endsWordAt rest) := rfl
    rw [underscored_cons, hrest, ← ih, endsWordAt_zero, markWords]
    split <;> rfl

/-- In ASCII, snake case is the lowered name with its words marked. -/
theorem toList_snake_ascii {name : String} (h : ∀ c ∈ name.toList, c.toNat < 128) :
    (snake name).toList = underscored (Text.lower name.toList) (endsWordAt name.toList) := by
  have hsnake := snake_ascii h
  rw [String.ofList_toList] at hsnake
  rw [hsnake, String.toList_ofList, markWords_eq_underscored, map_underscored (by decide),
    Text.lower, Text.lowerFrom_ascii false h]

/-! ## The normal form -/

/-- Whatever the lowering of a text does beyond `Lowering`, snake case does nothing to what is in
snake case, and acts on the two sides of a dot apart. The lower case of Unicode is such a lowering.
And a name in ASCII becomes the lowered name with one underscore behind every character that ends
a word, so that it is the lowered name when underscores are left out. -/
theorem snake_normalises :
    (∀ lowering, Lowering lowering →
      (∀ name, snakeWith lowering (snakeWith lowering name) = snakeWith lowering name) ∧
        ∀ cs rest, snakeWith lowering (cs ++ '.' :: rest) =
          snakeWith lowering cs ++ '.' :: snakeWith lowering rest) ∧
      Lowering Text.lower ∧
      (∀ name, snake (snake name) = snake name) ∧
      (∀ a b, snake (a ++ "." ++ b) = snake a ++ "." ++ snake b) ∧
      ∀ name : String, (∀ c ∈ name.toList, c.toNat < 128) →
        (snake name).toList.filter (· != '_') = (Text.lower name.toList).filter (· != '_') ∧
          (snake name).toList =
            underscored (Text.lower name.toList) (endsWordAt name.toList) := by
  refine ⟨fun lowering h => ⟨h.snakeWith_snakeWith, snakeWith_append_dot lowering⟩, lowering_lower,
    fun name => ?_, fun a b => ?_, fun name h => ⟨?_, toList_snake_ascii h⟩⟩
  · rw [snake, snake, String.toList_ofList, lowering_lower.snakeWith_snakeWith]
  · rw [← String.toList_inj]
    simp only [snake, String.toList_ofList, String.toList_append, List.append_assoc]
    exact snakeWith_append_dot Text.lower a.toList b.toList
  · rw [toList_snake_ascii h, filter_underscored]

/-- Capitals that end a word and capitals that end none. -/
theorem snake_normalises_acronym :
    Lowering Text.lower ∧ (∀ c ∈ "word.HTTPRequestId".toList, c.toNat < 128) ∧
      snakeWith Text.lower "word.http_request_id".toList = "word.http_request_id".toList ∧
      (snake "word.HTTPRequestId").toList = "word.http_request_id".toList := by
  obtain ⟨hwith, hlower, -, -, hascii⟩ := snake_normalises
  have hname : ∀ c ∈ "word.HTTPRequestId".toList, c.toNat < 128 := by
    have hall : "word.HTTPRequestId".toList.all (fun c => c.toNat < 128) = true := by decide
    intro c hc
    exact of_decide_eq_true (List.all_eq_true.1 hall c hc)
  have hsnake : snakeWith Text.lower "word.HTTPRequestId".toList =
      "word.http_request_id".toList := by decide +kernel
  refine ⟨hlower, hname, ?_, ?_⟩
  · rw [← hsnake]
    exact (hwith Text.lower hlower).1 _
  · rw [(hascii _ hname).2]
    decide +kernel

end ParamSql.Identifier
