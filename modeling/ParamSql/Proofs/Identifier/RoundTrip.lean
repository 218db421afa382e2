import Mathlib.Data.List.Chain
import ParamSql.Proofs.Identifier

/-!
Which names survive the way from snake case to camel case and back, and from camel case to snake
case and back.

Both ways are followed from left to right. What snake case makes of the characters behind `c` hangs
on `c` and on what comes next (`behind`); camel case keeps the characters behind the first one, but
for underscores, which raise the character behind them (`raised`). So each way back is an induction
over the words of the name or over its characters.
-/

namespace ParamSql.Identifier

/-! ## Letters and digits of ASCII -/

/-- Whether the character is a small letter or a digit. -/
def isLow (c : Char) : Bool :=
  isSmall c || c.isDigit

/-- Whether the character is a letter or a digit. -/
def isLatin (c : Char) : Bool :=
  isLow c || isCapital c

theorem toNat_lt_of_isLatin {c : Char} (h : isLatin c = true) : c.toNat < 128 := by
  delta isLatin isLow isSmall isCapital Char.isDigit at h
  simp only [Bool.or_eq_true, Bool.and_eq_true, decide_eq_true_eq] at h
  rcases h with (h | h) | h
  · exact Nat.lt_of_le_of_lt (UInt32.le_iff_toNat_le.1 h.2) (by decide)
  · exact Nat.lt_of_le_of_lt (UInt32.le_iff_toNat_le.1 h.2) (by decide)
  · exact Nat.lt_of_le_of_lt (UInt32.le_iff_toNat_le.1 h.2) (by decide)

variable {c d : Char}

theorem isLatin_of_isLow (h : isLow c = true) : isLatin c = true := by
  rw [isLatin, h, Bool.true_or]

theorem isLatin_of_isCapital (h : isCapital c = true) : isLatin c = true := by
  rw [isLatin, h, Bool.or_true]

/-- What a look at the table of ASCII shows of its letters and digits. -/
def Tabulated (c : Char) : Prop :=
  Text.mapCase [(0x41, 0x5A, 1, 32)] [] c = [c.toLower] ∧
  Text.mapCase [(0x61, 0x7A, 1, -32)] [] c = [c.toUpper] ∧
  (separatesWords c = false ∧ c ≠ '.' ∧ c ≠ 'Σ') ∧ c.toLower ≠ '_' ∧
  isLatin c.toLower = true ∧ isLatin c.toUpper = true ∧
  (isLow c = true → (isCapital c = false ∧ c.toLower = c ∧ c.toUpper.toLower = c) ∧
    isCapital c.toUpper = isSmall c ∧ isSmall c.toUpper = false) ∧
  (isCapital c = true → isLow c = false ∧ c.toLower ≠ c ∧ c.toLower.toUpper = c)

instance (c : Char) : Decidable (Tabulated c) :=
  inferInstanceAs (Decidable (_ ∧ _))

theorem tabulated (h : isLatin c = true) : Tabulated c := by
  have htable : ∀ n < 128, isLatin (Char.ofNat n) = true → Tabulated (Char.ofNat n) := by
    decide +kernel
  have hc := htable c.toNat (toNat_lt_of_isLatin h)
  rw [Char.ofNat_toNat] at hc
  exact hc h

theorem lowerChar_latin (h : isLatin c = true) : Text.lowerChar c = [c.toLower] := by
  obtain ⟨hlower, -⟩ := tabulated h
  rw [Text.lowerChar_ascii (toNat_lt_of_isLatin h), hlower]

theorem upperChar_latin (h : isLatin c = true) : Text.upperChar c = [c.toUpper] := by
  obtain ⟨-, hupper, -⟩ := tabulated h
  rw [Text.upperChar_ascii (toNat_lt_of_isLatin h), hupper]

/-- A letter or a digit neither separates words nor parts of a name, and none of them is a sigma. -/
theorem plain_latin (h : isLatin c = true) : separatesWords c = false ∧ c ≠ '.' ∧ c ≠ 'Σ' := by
  obtain ⟨-, -, hplain, -⟩ := tabulated h
  exact hplain

theorem toLower_ne_underscore (h : isLatin c = true) : c.toLower ≠ '_' := by
  obtain ⟨-, -, -, hunderscore, -⟩ := tabulated h
  exact hunderscore

theorem isLatin_toLower (h : isLatin c = true) : isLatin c.toLower = true := by
  obtain ⟨-, -, -, -, hlower, -⟩ := tabulated h
  exact hlower

theorem isLatin_toUpper (h : isLatin c = true) : isLatin c.toUpper = true := by
  obtain ⟨-, -, -, -, -, hupper, -⟩ := tabulated h
  exact hupper

/-- A small letter or a digit is no capital, and is got back from the upper case. -/
theorem low_cases (h : isLow c = true) :
    isCapital c = false ∧ c.toLower = c ∧ c.toUpper.toLower = c := by
  obtain ⟨-, -, -, -, -, -, hlow, -⟩ := tabulated (isLatin_of_isLow h)
  exact (hlow h).1

/-- The upper case of a small letter is a capital, that of a digit is not, and neither is small. -/
theorem toUpper_low (h : isLow c = true) :
    isCapital c.toUpper = isSmall c ∧ isSmall c.toUpper = false := by
  obtain ⟨-, -, -, -, -, -, hlow, -⟩ := tabulated (isLatin_of_isLow h)
  exact (hlow h).2

/-- A capital is another character in lower case, and is got back from there. -/
theorem capital_cases (h : isCapital c = true) :
    isLow c = false ∧ c.toLower ≠ c ∧ c.toLower.toUpper = c := by
  obtain ⟨-, -, -, -, -, -, -, hcapital⟩ := tabulated (isLatin_of_isCapital h)
  exact hcapital h

/-! ## From left to right -/

/-- What the snake case of a name has behind `c`, if these characters come behind it. -/
def behind (c : Char) (rest : List Char) : List Char :=
  (if endsWord c rest then '_' :: markWords rest else markWords rest).map Char.toLower

theorem map_toLower_markWords (c : Char) (rest : List Char) :
    (markWords (c :: rest)).map Char.toLower = c.toLower :: behind c rest := by
  rw [markWords, behind]
  split <;> rfl

theorem behind_nil (c : Char) : behind c [] = [] := rfl

theorem behind_cons (c d : Char) (rest : List Char) :
    behind c (d :: rest) =
      if endsWord c (d :: rest) then '_' :: d.toLower :: behind d rest
      else d.toLower :: behind d rest := by
  rw [behind]
  split
  · rw [List.map_cons, map_toLower_markWords]
    rfl
  · rw [map_toLower_markWords]

/-- A word ends before a capital, unless that follows a capital and no small letter follows it. -/
theorem endsWord_cons_iff (hc : isLatin c = true) (d : Char) (rest : List Char) :
    endsWord c (d :: rest) = true ↔
      isCapital d = true ∧ (isCapital c = true → ∃ e ∈ rest.head?, isSmall e = true) := by
  rw [endsWord, Bool.and_eq_true]
  refine and_congr_right fun _ => ?_
  cases hcapital : isCapital c with
  | true =>
    have hlow : isSmall c = false ∧ c.isDigit = false := by
      simpa [isLow] using (capital_cases hcapital).1
    rw [hlow.1, hlow.2]
    cases rest <;> simp
  | false =>
    have hlow : isLow c = true := by simpa [isLatin, hcapital] using hc
    rw [isLow] at hlow
    simp [hlow]

theorem endsWord_of_not_capital (h : isCapital d = false) (c : Char) (rest : List Char) :
    endsWord c (d :: rest) = false := by
  rw [endsWord, h, Bool.false_and]

/-- Small letters and digits end no word, so they stay as they are. -/
theorem behind_low (c : Char) {cs : List Char} (h : ∀ d ∈ cs, isLow d = true) (rest : List Char) :
    behind c (cs ++ rest) = cs ++ behind (cs.getLast?.getD c) rest := by
  induction cs generalizing c with
  | nil => rfl
  | cons d cs ih =>
    obtain ⟨hd, hcs⟩ := List.forall_mem_cons.1 h
    obtain ⟨hcapital, hlower, -⟩ := low_cases hd
    rw [List.cons_append, behind_cons, endsWord_of_not_capital hcapital,
      if_neg Bool.false_ne_true, hlower, ih d hcs, List.getLast?_cons, Option.getD_some,
      List.cons_append]

/-- What the camel case of a key has behind its first character, if these come behind it. -/
def raised (cs : List Char) : List Char :=
  match cut separatesWords cs with
  | [] => []
  | part :: parts => part ++ parts.flatMap (mapFirst Text.upperChar)

theorem raised_cons (hc : separatesWords c = false) (cs : List Char) :
    raised (c :: cs) = c :: raised cs := by
  obtain ⟨part, parts, hcut, hcons⟩ := cut_cons hc cs
  rw [raised, raised, hcut, hcons]
  rfl

theorem raised_underscore (hc : isLatin c = true) (cs : List Char) :
    raised ('_' :: c :: cs) = c.toUpper :: raised cs := by
  obtain ⟨part, parts, hcut, hcons⟩ := cut_cons (plain_latin hc).1 cs
  have hunderscore : separatesWords '_' = true := by decide
  rw [raised, raised, hcut, cut, if_pos hunderscore, hcons]
  dsimp only
  rw [List.flatMap_cons, mapFirst, upperChar_latin hc]
  rfl

/-- Words without characters add nothing. -/
theorem flatMap_mapFirst_filter (f : Char → List Char) (parts : List (List Char)) :
    (parts.filter fun w => !w.isEmpty).flatMap (mapFirst f) = parts.flatMap (mapFirst f) := by
  induction parts with
  | nil => rfl
  | cons part rest ih =>
    cases part with
    | nil =>
      rw [List.filter_cons_of_neg (by simp), ih, List.flatMap_cons, mapFirst, List.nil_append]
    | cons c cs => rw [List.filter_cons_of_pos rfl, List.flatMap_cons, List.flatMap_cons, ih]

theorem camel_latin (hc : isLatin c = true) (cs : List Char) :
    camel (String.ofList (c :: cs)) = String.ofList (c.toLower :: raised cs) := by
  obtain ⟨part, parts, hcut, hcons⟩ := cut_cons (plain_latin hc).1 cs
  rw [camel, String.toList_ofList, words, hcons, List.filter_cons_of_pos rfl, raised, hcut]
  dsimp only
  rw [flatMap_mapFirst_filter, mapFirst, lowerChar_latin hc, List.cons_append, List.nil_append,
    List.cons_append]

/-! ## From snake case and back -/

/-- A word of a name in snake case: small letters and digits. -/
structure Word where
  first : Char
  rest : List Char
  first_low : isLow first = true
  rest_low : ∀ c ∈ rest, isLow c = true

namespace Word

def text (w : Word) : List Char :=
  w.first :: w.rest

/-- The word with a capital in front, if it starts with a letter. -/
def hump (w : Word) : List Char :=
  w.first.toUpper :: w.rest

def StartsWithLetter (w : Word) : Prop :=
  isSmall w.first = true

def IsLetter (w : Word) : Prop :=
  isSmall w.first = true ∧ w.rest = []

/-- The word has a second character, and that is a letter. -/
def SecondIsLetter (w : Word) : Prop :=
  ∃ c ∈ w.rest.head?, isSmall c = true

end Word

/-- The name that is made of words with underscores between them. -/
def joinedWords (first : Word) (others : List Word) : String :=
  "_".intercalate ((first :: others).map fun w => String.ofList w.text)

theorem joinedWords_eq (first : Word) (others : List Word) :
    joinedWords first others =
      String.ofList (first.text ++ others.flatMap fun w => '_' :: w.text) := by
  induction others generalizing first with
  | nil =>
    rw [joinedWords, List.flatMap_nil, List.append_nil]
    exact String.intercalate_singleton
  | cons w rest ih =>
    have hrest := ih w
    rw [joinedWords, List.map_cons] at hrest ⊢
    rw [List.map_cons, String.intercalate_cons_cons, hrest, ← String.toList_inj]
    simp [String.toList_append]

theorem raised_low {cs : List Char} (h : ∀ c ∈ cs, isLow c = true) (rest : List Char) :
    raised (cs ++ rest) = cs ++ raised rest := by
  induction cs with
  | nil => rfl
  | cons c cs ih =>
    obtain ⟨hc, hcs⟩ := List.forall_mem_cons.1 h
    rw [List.cons_append, raised_cons (plain_latin (isLatin_of_isLow hc)).1, ih hcs,
      List.cons_append]

theorem raised_words (others : List Word) :
    raised (others.flatMap fun w => '_' :: w.text) = others.flatMap Word.hump := by
  induction others with
  | nil => rfl
  | cons w rest ih =>
    rw [List.flatMap_cons, List.flatMap_cons, List.cons_append, Word.text, List.cons_append,
      raised_underscore (isLatin_of_isLow w.first_low), raised_low w.rest_low, ih, Word.hump,
      List.cons_append]

theorem camel_joinedWords (first : Word) (others : List Word) :
    camel (joinedWords first others) =
      String.ofList (first.text ++ others.flatMap Word.hump) := by
  rw [joinedWords_eq, Word.text, List.cons_append, camel_latin (isLatin_of_isLow first.first_low),
    raised_low first.rest_low, raised_words, (low_cases first.first_low).2.1, List.cons_append]

theorem isLatin_of_mem_humps {others : List Word} (h : c ∈ others.flatMap Word.hump) :
    isLatin c = true := by
  obtain ⟨w, -, hc⟩ := List.mem_flatMap.1 h
  rcases List.mem_cons.1 hc with rfl | hc
  · exact isLatin_toUpper (isLatin_of_isLow w.first_low)
  · exact isLatin_of_isLow (w.rest_low c hc)

/-- Behind the first character of a word a small letter comes next only if it is in the word. -/
theorem secondIsLetter_iff (w : Word) (others : List Word) :
    (∃ c ∈ (w.rest ++ others.flatMap Word.hump).head?, isSmall c = true) ↔ w.SecondIsLetter := by
  rw [Word.SecondIsLetter]
  cases hrest : w.rest with
  | cons d ds => simp
  | nil =>
    cases others with
    | nil => simp
    | cons v rest => simp [Word.hump, (toUpper_low v.first_low).2]

theorem endsWord_hump_iff (hc : isLatin c = true) (w : Word) (others : List Word) :
    endsWord c (w.first.toUpper :: (w.rest ++ others.flatMap Word.hump)) = true ↔
      w.StartsWithLetter ∧ (isCapital c = true → w.SecondIsLetter) := by
  rw [endsWord_cons_iff hc, secondIsLetter_iff, (toUpper_low w.first_low).1, Word.StartsWithLetter]

theorem isCapital_last_hump_iff (w : Word) :
    isCapital (w.rest.getLast?.getD w.first.toUpper) = true ↔ w.IsLetter := by
  rw [Word.IsLetter]
  cases hlast : w.rest.getLast? with
  | none =>
    rw [Option.getD_none, (toUpper_low w.first_low).1]
    exact and_iff_left (List.getLast?_eq_none_iff.1 hlast) |>.symm
  | some d =>
    have hmem : d ∈ w.rest := List.mem_of_getLast? hlast
    rw [Option.getD_some, (low_cases (w.rest_low d hmem)).1]
    refine iff_of_false Bool.false_ne_true fun hletter => ?_
    rw [hletter.2] at hmem
    exact List.not_mem_nil hmem

theorem isLatin_last_hump (w : Word) :
    isLatin (w.rest.getLast?.getD w.first.toUpper) = true := by
  cases hlast : w.rest.getLast? with
  | none => exact isLatin_toUpper (isLatin_of_isLow w.first_low)
  | some d => exact isLatin_of_isLow (w.rest_low d (List.mem_of_getLast? hlast))

/-- Behind a letter or a digit, snake case makes the words again under these conditions only. -/
theorem behind_humps_iff (hc : isLatin c = true) (others : List Word) :
    behind c (others.flatMap Word.hump) = (others.flatMap fun w => '_' :: w.text) ↔
      (∀ w ∈ others, w.StartsWithLetter) ∧
        (isCapital c = true → ∀ w ∈ others.head?, w.SecondIsLetter) ∧
        others.IsChain fun v w => v.IsLetter → w.SecondIsLetter := by
  induction others generalizing c with
  | nil =>
    rw [List.flatMap_nil, behind_nil]
    simp
  | cons w rest ih =>
    have hends := endsWord_hump_iff hc w rest
    obtain ⟨-, hlower, hback⟩ := low_cases w.first_low
    rw [List.flatMap_cons, List.flatMap_cons]
    rw [Word.hump, List.cons_append, behind_cons, hback, List.forall_mem_cons, List.head?_cons,
      List.isChain_cons]
    cases hword : endsWord c (w.first.toUpper :: (w.rest ++ rest.flatMap Word.hump)) with
    | true =>
      -- The word is found again, and what becomes of the next ones hangs on its last character.
      obtain ⟨hletter, hsecond⟩ := hends.1 hword
      have hrest := ih (isLatin_last_hump w)
      rw [isCapital_last_hump_iff] at hrest
      rw [if_pos rfl, behind_low _ w.rest_low, Word.text, List.cons_append, List.cons_append,
        List.cons_inj_right, List.cons_inj_right, List.append_cancel_left_eq, hrest]
      grind
    | false =>
      have hother : w.first ≠ '_' := by
        have hne := toLower_ne_underscore (isLatin_of_isLow w.first_low)
        rwa [hlower] at hne
      have hnot : ¬(w.StartsWithLetter ∧ (isCapital c = true → w.SecondIsLetter)) := by
        rw [← hends, hword]
        exact Bool.false_ne_true
      rw [if_neg Bool.false_ne_true, List.cons_append]
      grind

/-- When a name of words is got back from its camel case. -/
theorem snake_camel_joinedWords_iff (first : Word) (others : List Word) :
    snake (camel (joinedWords first others)) = joinedWords first others ↔
      (∀ w ∈ others, w.StartsWithLetter) ∧
        others.IsChain fun v w => v.IsLetter → w.SecondIsLetter := by
  have hfirst : isLatin first.first = true := isLatin_of_isLow first.first_low
  have hlast : isLow (first.rest.getLast?.getD first.first) = true := by
    cases hlast : first.rest.getLast? with
    | none => exact first.first_low
    | some d => exact first.rest_low d (List.mem_of_getLast? hlast)
  have hlatin : ∀ c ∈ first.text ++ others.flatMap Word.hump, isLatin c = true := by
    intro c hc
    rcases List.mem_append.1 hc with hc | hc
    · rcases List.mem_cons.1 hc with rfl | hc
      · exact hfirst
      · exact isLatin_of_isLow (first.rest_low c hc)
    · exact isLatin_of_mem_humps hc
  have hascii := fun c hc => toNat_lt_of_isLatin (hlatin c hc)
  have hbehind := behind_humps_iff (isLatin_of_isLow hlast) others
  rw [(low_cases hlast).1] at hbehind
  rw [camel_joinedWords, snake_ascii hascii, joinedWords_eq, String.ofList_inj, Word.text,
    List.cons_append, List.cons_append, map_toLower_markWords, behind_low _ first.rest_low,
    (low_cases first.first_low).2.1, List.cons_inj_right, List.append_cancel_left_eq, hbehind]
  simp

/-! ## From camel case and back -/

/-- A capital with small letters and digits behind it. -/
structure Hump where
  capital : Char
  rest : List Char
  isCapital : Identifier.isCapital capital = true
  rest_low : ∀ c ∈ rest, isLow c = true

/-- A name in camel case, `[a-z][a-z0-9]*([A-Z][a-z0-9]*)*`. -/
structure CamelName where
  first : Char
  rest : List Char
  humps : List Hump
  first_small : isSmall first = true
  rest_low : ∀ c ∈ rest, isLow c = true

namespace CamelName

def tail (f : CamelName) : List Char :=
  f.rest ++ f.humps.flatMap fun h => h.capital :: h.rest

def text (f : CamelName) : String :=
  String.ofList (f.first :: f.tail)

theorem first_low (f : CamelName) : isLow f.first = true := by
  rw [isLow, f.first_small, Bool.true_or]

theorem isLatin_tail (f : CamelName) : ∀ c ∈ f.tail, isLatin c = true := by
  intro c hc
  rcases List.mem_append.1 hc with hc | hc
  · exact isLatin_of_isLow (f.rest_low c hc)
  · obtain ⟨h, -, hc⟩ := List.mem_flatMap.1 hc
    rcases List.mem_cons.1 hc with rfl | hc
    · exact isLatin_of_isCapital h.isCapital
    · exact isLatin_of_isLow (h.rest_low c hc)

end CamelName

/-- Every capital that directly follows another capital is directly followed by a small letter. -/
def CapitalsApart (cs : List Char) : Prop :=
  ∀ a b rest, a :: b :: rest <:+ cs → isCapital a = true → isCapital b = true →
    ∃ c ∈ rest.head?, isSmall c = true

theorem capitalsApart_cons_iff (c d : Char) (rest : List Char) :
    CapitalsApart (c :: d :: rest) ↔
      (isCapital c = true → isCapital d = true → ∃ e ∈ rest.head?, isSmall e = true) ∧
        CapitalsApart (d :: rest) := by
  constructor
  · intro h
    exact ⟨h c d rest (List.suffix_refl _), fun a b r hr =>
      h a b r (hr.trans (List.suffix_cons c _))⟩
  · rintro ⟨hhere, hrest⟩ a b r hr
    rcases List.suffix_cons_iff.1 hr with heq | hr
    · simp only [List.cons.injEq] at heq
      obtain ⟨rfl, rfl, rfl⟩ := heq
      exact hhere
    · exact hrest a b r hr

theorem capitalsApart_singleton (c : Char) : CapitalsApart [c] := by
  intro a b rest h
  have hlength := h.length_le
  simp at hlength

/-- Camel case makes again what stands behind a letter or a digit under this condition only. -/
theorem raised_behind_iff (hc : isLatin c = true) {cs : List Char}
    (hcs : ∀ d ∈ cs, isLatin d = true) :
    raised (behind c cs) = cs ↔ CapitalsApart (c :: cs) := by
  induction cs generalizing c with
  | nil => exact iff_of_true rfl (capitalsApart_singleton c)
  | cons d rest ih =>
    obtain ⟨hd, hrest⟩ := List.forall_mem_cons.1 hcs
    have hplain := (plain_latin (isLatin_toLower hd)).1
    rw [behind_cons, capitalsApart_cons_iff, ← ih hd hrest]
    cases hcapital : isCapital d with
    | false =>
      have hlow : isLow d = true := by simpa [isLatin, hcapital] using hd
      rw [endsWord_of_not_capital hcapital, if_neg Bool.false_ne_true, raised_cons hplain,
        (low_cases hlow).2.1, List.cons_inj_right]
      simp
    | true =>
      obtain ⟨-, hne, hback⟩ := capital_cases hcapital
      have hends := endsWord_cons_iff hc d rest
      cases hword : endsWord c (d :: rest) with
      | true =>
        rw [if_pos rfl, raised_underscore (isLatin_toLower hd), hback, List.cons_inj_right]
        exact (and_iff_right fun hc _ => (hends.1 hword).2 hc).symm
      | false =>
        -- A capital that ends no word is lost.
        rw [if_neg Bool.false_ne_true, raised_cons hplain]
        refine iff_of_false (fun heq => hne (List.cons.inj heq).1) fun h => ?_
        exact Bool.false_ne_true (hword.symm.trans (hends.2 ⟨hcapital, fun hc => h.1 hc rfl⟩))

/-- When a name in camel case is got back from its snake case. -/
theorem camel_snake_text_iff (f : CamelName) :
    camel (snake f.text) = f.text ↔ CapitalsApart f.text.toList := by
  have hfirst := isLatin_of_isLow f.first_low
  have hlatin : ∀ c ∈ f.first :: f.tail, isLatin c = true :=
    List.forall_mem_cons.2 ⟨hfirst, f.isLatin_tail⟩
  have hascii := fun c hc => toNat_lt_of_isLatin (hlatin c hc)
  have hlower := (low_cases f.first_low).2.1
  rw [CamelName.text, snake_ascii hascii, map_toLower_markWords, hlower, camel_latin hfirst, hlower,
    String.ofList_inj, List.cons_inj_right, raised_behind_iff hfirst f.isLatin_tail,
    String.toList_ofList]

/-! ## Both ways -/

/-- A name of small letters and digits, with single underscores between its words, is got back from
its camel case if and only if every word but the first starts with a letter, and of two words behind
the first one the second has a letter in second place if the first is a single letter. A name in
camel case is got back from its snake case if and only if every capital right behind a capital
stands right before a small letter. -/
theorem round_trip_iff :
    (∀ (first : Word) (others : List Word),
      snake (camel (joinedWords first others)) = joinedWords first others ↔
        (∀ w ∈ others, w.StartsWithLetter) ∧
          others.IsChain fun v w => v.IsLetter → w.SecondIsLetter) ∧
      ∀ f : CamelName, camel (snake f.text) = f.text ↔ CapitalsApart f.text.toList :=
  ⟨snake_camel_joinedWords_iff, camel_snake_text_iff⟩

/-- A single letter between two words is taken for the start of the second one. -/
example : snake (camel "created_b_y") = "created_by" := by decide

end ParamSql.Identifier
