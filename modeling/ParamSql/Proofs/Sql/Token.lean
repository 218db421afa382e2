import ParamSql.Proofs.Text.Collapse
import ParamSql.Sql.Token

/-!
Reading tokens back from the text they spell.

A list of tokens is readable if it holds no lone dollar sign, if its placeholders are numbered in
plain digits, and if no digit stands right behind a placeholder. The tokens of the text that such a
list spells are the list itself (`tokens_text`), and collapsing the text is collapsing the list
(`tokens_collapse`). So a text keeps its placeholders when it is collapsed, and it may be collapsed
before or after they are renumbered.
-/

namespace ParamSql.Token

/-! ## Scanning -/

theorem tokens_eq (cs : List Char) : tokens cs = (scan cs).1.map char ++ (scan cs).2 := rfl

theorem tokens_char {c : Char} (hc : c ≠ '$') (cs : List Char) :
    tokens (c :: cs) = char c :: tokens cs := by
  rw [tokens_eq, tokens_eq, scan]
  by_cases hd : Text.isDecimalDigit c = true
  · simp [hd]
  · simp [hd, hc]

theorem scan_digits {ds : List Char} (hds : ∀ d ∈ ds, Text.isDecimalDigit d = true)
    (cs : List Char) : scan (ds ++ cs) = (ds ++ (scan cs).1, (scan cs).2) := by
  induction ds with
  | nil => rfl
  | cons d rest ih =>
    have hrest := ih fun e he => hds e (List.mem_cons_of_mem d he)
    rw [List.cons_append, scan, hrest, if_pos (hds d List.mem_cons_self), List.cons_append]

theorem scan_fst_of_head {cs : List Char} (h : ∀ c ∈ cs.head?, Text.isDecimalDigit c = false) :
    (scan cs).1 = [] := by
  cases cs with
  | nil => rfl
  | cons c rest =>
    rw [scan, h c rfl, if_neg Bool.false_ne_true]
    split <;> rfl

theorem tokens_parameter {ds cs : List Char} (hne : ds ≠ [])
    (hds : ∀ d ∈ ds, Text.isDecimalDigit d = true)
    (hcs : ∀ c ∈ cs.head?, Text.isDecimalDigit c = false) :
    tokens ('$' :: (ds ++ cs)) = parameter ds :: tokens cs := by
  have hdollar : Text.isDecimalDigit '$' = false := by decide
  have hstart : (scan cs).1 = [] := scan_fst_of_head hcs
  rw [tokens_eq, tokens_eq, scan, scan_digits hds, hstart]
  simp [hdollar, hne]

/-! ## Readable tokens -/

/-- The token is no dollar sign, and a placeholder is numbered in plain digits. -/
def Legible : Token → Prop
  | char c => c ≠ '$'
  | parameter ds => ds ≠ [] ∧ ∀ d ∈ ds, d.isDigit = true

/-- The second token does not add a digit to the first. -/
def Separate : Token → Token → Prop
  | parameter _, char c => Text.isDecimalDigit c = false
  | _, _ => True

/-- Tokens that can be read back from the text they spell. -/
structure Readable (ts : List Token) : Prop where
  legible : ∀ t ∈ ts, t.Legible
  separate : ts.IsChain Separate

theorem Legible.isDecimalDigit {ds : List Char} (h : (parameter ds).Legible) :
    ∀ d ∈ ds, Text.isDecimalDigit d = true :=
  fun d hd => Text.isDecimalDigit_of_isDigit (h.2 d hd)

theorem Readable.tail {t : Token} {ts : List Token} (h : Readable (t :: ts)) : Readable ts :=
  ⟨fun u hu => h.legible u (List.mem_cons_of_mem t hu), (List.isChain_cons.1 h.separate).2⟩

theorem Readable.of_isInfix {us ts : List Token} (h : Readable ts) (hu : us <:+: ts) :
    Readable us :=
  ⟨fun t ht => h.legible t (hu.subset ht), List.IsChain.infix h.separate hu⟩

theorem Readable.append {ts us : List Token} (ht : Readable ts) (hu : Readable us)
    (hbetween : ∀ t ∈ ts.getLast?, ∀ u ∈ us.head?, Separate t u) : Readable (ts ++ us) := by
  refine ⟨fun t h => ?_, List.isChain_append.2 ⟨ht.separate, hu.separate, hbetween⟩⟩
  rcases List.mem_append.1 h with h | h
  · exact ht.legible t h
  · exact hu.legible t h

theorem readable_nil : Readable [] := ⟨by simp, .nil⟩

theorem Readable.cons_char {c : Char} {ts : List Token} (hc : c ≠ '$') (h : Readable ts) :
    Readable (char c :: ts) := by
  refine ⟨fun t ht => ?_, List.isChain_cons.2 ⟨fun _ _ => trivial, h.separate⟩⟩
  rcases List.mem_cons.1 ht with rfl | ht
  · exact hc
  · exact h.legible t ht

/-- Characters without a dollar sign may stand before readable tokens. -/
theorem Readable.chars_append {cs : List Char} {ts : List Token} (hcs : '$' ∉ cs)
    (h : Readable ts) : Readable (cs.map char ++ ts) := by
  induction cs with
  | nil => exact h
  | cons c rest ih =>
    have hc : c ≠ '$' := fun e => hcs (by rw [e]; exact List.mem_cons_self)
    exact (ih fun hmem => hcs (List.mem_cons_of_mem c hmem)).cons_char hc

theorem Readable.cons_parameter {ds : List Char} {ts : List Token}
    (hds : (parameter ds).Legible) (hnext : ∀ t ∈ ts.head?, Separate (parameter ds) t)
    (h : Readable ts) : Readable (parameter ds :: ts) := by
  refine ⟨fun t ht => ?_, List.isChain_cons.2 ⟨hnext, h.separate⟩⟩
  rcases List.mem_cons.1 ht with rfl | ht
  · exact hds
  · exact h.legible t ht

/-- The text behind a readable placeholder does not start with a digit. -/
theorem Readable.head_text {ds : List Char} {ts : List Token} (h : Readable (parameter ds :: ts)) :
    ∀ c ∈ (ts.flatMap text).head?, Text.isDecimalDigit c = false := by
  intro c hc
  cases ts with
  | nil => simp at hc
  | cons t rest =>
    have hnext : Separate (parameter ds) t := (List.isChain_cons.1 h.separate).1 t rfl
    cases t with
    | char d =>
      obtain rfl : d = c := by simpa [text] using hc
      exact hnext
    | parameter es =>
      obtain rfl : '$' = c := by simpa [text] using hc
      decide

/-- Readable tokens are read back from their text. -/
theorem tokens_text {ts : List Token} (h : Readable ts) : tokens (ts.flatMap text) = ts := by
  induction ts with
  | nil => rfl
  | cons t rest ih =>
    have ht : t.Legible := h.legible t List.mem_cons_self
    cases t with
    | char c =>
      rw [List.flatMap_cons, text, List.singleton_append, tokens_char ht, ih h.tail]
    | parameter ds =>
      -- The scan takes all digits, so none of the text behind the placeholder may be one.
      rw [List.flatMap_cons, text, List.cons_append,
        tokens_parameter ht.1 ht.isDecimalDigit h.head_text, ih h.tail]

/-! ## Collapsing -/

def isSpace : Token → Bool
  | char c => c == ' '
  | parameter _ => false

def isBlank : Token → Bool
  | char c => Text.isBlankChar c
  | parameter _ => false

/-- The tokens with runs of spaces squeezed and blanks at the ends trimmed. -/
def collapse (ts : List Token) : List Token :=
  Text.trimBy isBlank (Text.squeezeBy isSpace ts)

theorem isBlankChar_of_isDigit {c : Char} (h : c.isDigit = true) :
    Text.isBlankChar c = false := by
  simp only [Char.isDigit, Bool.and_eq_true, decide_eq_true_eq] at h
  have hlow : 48 ≤ c.toNat := UInt32.le_iff_toNat_le.1 h.1
  have hhigh : c.toNat ≤ 57 := UInt32.le_iff_toNat_le.1 h.2
  -- No range of blanks reaches the digits.
  have hapart : ∀ r ∈ Text.blankRanges, r.2 < 48 ∨ 57 < r.1 := by decide
  refine Bool.eq_false_iff.2 fun hblank => ?_
  obtain ⟨r, hr, hin⟩ := List.any_eq_true.1 hblank
  simp only [Bool.and_eq_true, decide_eq_true_eq] at hin
  rcases hapart r hr with hbelow | habove <;> omega

/-- No character of a placeholder is blank. -/
theorem Legible.isBlankChar {ds : List Char} (h : (parameter ds).Legible) :
    ∀ c ∈ text (parameter ds), Text.isBlankChar c = false := by
  intro c hc
  rcases List.mem_cons.1 hc with rfl | hc
  · decide
  · exact isBlankChar_of_isDigit (h.2 c hc)

theorem Legible.spells_blank {t : Token} (h : t.Legible) :
    Text.Spells isBlank Text.isBlankChar text t := by
  cases t with
  | char c => exact .inl ⟨c, rfl, rfl⟩
  | parameter ds => exact .inr ⟨rfl, List.cons_ne_nil _ _, h.isBlankChar⟩

theorem Legible.spells_space {t : Token} (h : t.Legible) :
    Text.Spells isSpace (· == ' ') text t := by
  cases t with
  | char c => exact .inl ⟨c, rfl, rfl⟩
  | parameter ds =>
    refine .inr ⟨rfl, List.cons_ne_nil _ _, fun c hc => ?_⟩
    have hblank := h.isBlankChar c hc
    refine beq_eq_false_iff_ne.2 ?_
    rintro rfl
    exact absurd hblank (by decide)

theorem separate_of_isSpace (t u : Token) (h : isSpace u = true) : Separate t u := by
  cases t with
  | char c => trivial
  | parameter ds =>
    cases u with
    | parameter es => trivial
    | char c =>
      obtain rfl : c = ' ' := by simpa [isSpace] using h
      show Text.isDecimalDigit ' ' = false
      decide

theorem Readable.squeeze {ts : List Token} (h : Readable ts) :
    Readable (Text.squeezeBy isSpace ts) :=
  ⟨fun t ht => h.legible t (Text.mem_of_mem_squeezeBy ht),
    Text.isChain_of_squeezeBy separate_of_isSpace h.separate⟩

theorem Readable.collapse {ts : List Token} (h : Readable ts) : Readable (collapse ts) :=
  h.squeeze.of_isInfix (Text.trimBy_isInfix _)

/-- Collapsing the text of readable tokens is collapsing the tokens. -/
theorem collapse_text {ts : List Token} (h : Readable ts) :
    Text.collapse (String.ofList (ts.flatMap text)) = String.ofList ((collapse ts).flatMap text) :=
  calc Text.collapse (String.ofList (ts.flatMap text))
      = String.ofList (Text.trimBy Text.isBlankChar
          (Text.squeezeBy (· == ' ') (ts.flatMap text))) := by
        rw [Text.collapse, String.toList_ofList, Text.squeezeSpaces]
    _ = String.ofList (Text.trimBy Text.isBlankChar
          ((Text.squeezeBy isSpace ts).flatMap text)) := by
        rw [Text.flatMap_squeezeBy fun t ht => (h.legible t ht).spells_space]
    _ = String.ofList ((collapse ts).flatMap text) := by
        rw [collapse, Text.flatMap_trimBy fun t ht => (h.squeeze.legible t ht).spells_blank]

theorem tokens_collapse {ts : List Token} (h : Readable ts) :
    tokens (Text.collapse (String.ofList (ts.flatMap text))).toList = collapse ts := by
  rw [collapse_text h, String.toList_ofList, tokens_text h.collapse]

/-! ## Placeholders -/

def placeholder? : Token → Option String
  | char _ => none
  | parameter ds => some (String.ofList ('$' :: ds))

/-- The placeholders of a text from left to right: each is a dollar sign with all the digits that
stand behind it. -/
def placeholders (query : String) : List String :=
  (tokens query.toList).filterMap placeholder?

theorem placeholder?_of_isBlank (t : Token) (h : t.isBlank = true) : placeholder? t = none := by
  cases t with
  | char c => rfl
  | parameter ds => exact absurd h Bool.false_ne_true

theorem placeholder?_of_isSpace (t : Token) (h : t.isSpace = true) : placeholder? t = none := by
  cases t with
  | char c => rfl
  | parameter ds => exact absurd h Bool.false_ne_true

theorem filterMap_placeholder?_collapse (ts : List Token) :
    (collapse ts).filterMap placeholder? = ts.filterMap placeholder? := by
  rw [collapse, Text.filterMap_trimBy placeholder?_of_isBlank,
    Text.filterMap_squeezeBy placeholder?_of_isSpace]

/-! ## Texts with semicolons between them -/

/-- The tokens of the text can be told from any text around it that holds no digit. -/
def Clear (query : String) : Prop :=
  Readable (tokens query.toList)

theorem Clear.readable_append {a b : String} (ha : Clear a) (hb : Clear b) :
    Readable (tokens a.toList ++ char ';' :: tokens b.toList) := by
  have hrest : Readable (char ';' :: tokens b.toList) := Readable.cons_char (by decide) hb
  refine Readable.append ha hrest fun t _ u hu => ?_
  obtain rfl : char ';' = u := Option.some.inj hu
  cases t with
  | char c => trivial
  | parameter ds =>
    show Text.isDecimalDigit ';' = false
    decide

theorem tokens_append {a b : String} (ha : Clear a) (hb : Clear b) :
    tokens (a ++ ";" ++ b).toList = tokens a.toList ++ char ';' :: tokens b.toList := by
  have htext : (a ++ ";" ++ b).toList =
      (tokens a.toList ++ char ';' :: tokens b.toList).flatMap text := by
    rw [List.flatMap_append, List.flatMap_cons, text_tokens, text_tokens, String.toList_append,
      String.toList_append, List.append_assoc]
    rfl
  rw [htext, tokens_text (ha.readable_append hb)]

theorem Clear.intercalate {texts : List String} (h : ∀ t ∈ texts, Clear t) :
    Clear (";".intercalate texts) := by
  induction texts with
  | nil => exact readable_nil
  | cons t rest ih =>
    have ht := h t List.mem_cons_self
    have hrest := ih fun u hu => h u (List.mem_cons_of_mem t hu)
    cases rest with
    | nil =>
      rw [String.intercalate_singleton]
      exact ht
    | cons u rest =>
      rw [String.intercalate_cons_cons, Clear, tokens_append ht hrest]
      exact ht.readable_append hrest

/-- The placeholders of texts with semicolons between them are those of the texts. -/
theorem placeholders_intercalate {texts : List String} (h : ∀ t ∈ texts, Clear t) :
    placeholders (";".intercalate texts) = texts.flatMap placeholders := by
  induction texts with
  | nil => rfl
  | cons t rest ih =>
    have ht := h t List.mem_cons_self
    have hrest := fun u hu => h u (List.mem_cons_of_mem t hu)
    cases rest with
    | nil =>
      rw [String.intercalate_singleton, List.flatMap_cons, List.flatMap_nil, List.append_nil]
    | cons u rest =>
      rw [String.intercalate_cons_cons, List.flatMap_cons, ← ih hrest, placeholders,
        tokens_append ht (Clear.intercalate hrest), List.filterMap_append]
      rfl

/-! ## Renumbering -/

def shift (k : Nat) : Token → Token
  | char c => char c
  | parameter ds => parameter (Nat.toDigits 10 (Nat.ofDigitChars 10 ds 0 + k))

/-- The text with the number of every placeholder raised by `k`. -/
def renumber (k : Nat) (query : String) : String :=
  String.ofList (((tokens query.toList).map (shift k)).flatMap text)

@[simp] theorem isSpace_shift (k : Nat) (t : Token) : (t.shift k).isSpace = t.isSpace := by
  cases t <;> rfl

@[simp] theorem isBlank_shift (k : Nat) (t : Token) : (t.shift k).isBlank = t.isBlank := by
  cases t <;> rfl

/-- Tokens may be collapsed before or after they are renumbered. -/
theorem map_shift_collapse (k : Nat) (ts : List Token) :
    (collapse ts).map (shift k) = collapse (ts.map (shift k)) := by
  -- Every token becomes one of its kind, so this too is a way of spelling tokens out.
  have hspace : ∀ t ∈ ts, Text.Spells isSpace isSpace (fun t => [t.shift k]) t := fun t _ =>
    .inl ⟨t.shift k, rfl, isSpace_shift k t⟩
  have hblank : ∀ t ∈ Text.squeezeBy isSpace ts,
      Text.Spells isBlank isBlank (fun t => [t.shift k]) t := fun t _ =>
    .inl ⟨t.shift k, rfl, isBlank_shift k t⟩
  rw [List.map_eq_flatMap, List.map_eq_flatMap, collapse, collapse, Text.flatMap_trimBy hblank,
    Text.flatMap_squeezeBy hspace]

end ParamSql.Token
