import Mathlib.Data.List.Chain
import ParamSql.Proofs.Clause.Formula

/-!
A condition can be read in one way only.

A text is cut into symbols in one way, because a symbol shows by its first characters which one it
is and where it ends (`spell_injective`). The symbols are put together in one way, the one that the
reader `operand` finds (`Parses.unique`).
-/

namespace ParamSql

/-! ## Symbols are put together in one way -/

/-- The formulas to the left that wait for an operand, of an `OR` and of an `AND`. -/
structure Pending where
  disjuncts : Option Formula
  factors : Option Formula

def joinLeft (j : Joiner) : Option Formula → Formula → Formula
  | none, ψ => ψ
  | some φ, ψ => .join j φ ψ

mutual

/-- Reads on where an operand is expected; `stack` is what waits around the parentheses. -/
def operand : List Symbol → List Pending → Pending → Option Formula
  | .atom p :: rest, stack, ⟨os, as⟩ => joint rest stack os (joinLeft .and as (.atom p))
  | .opening :: rest, stack, pending => operand rest (pending :: stack) ⟨none, none⟩
  | _, _, _ => none

/-- Reads on behind an operand `φ`. -/
def joint : List Symbol → List Pending → Option Formula → Formula → Option Formula
  | [], [], os, φ => some (joinLeft .or os φ)
  | .joiner .and :: rest, stack, os, φ => operand rest stack ⟨os, some φ⟩
  | .joiner .or :: rest, stack, os, φ => operand rest stack ⟨some (joinLeft .or os φ), none⟩
  | .closing :: rest, ⟨os', as⟩ :: stack, os, φ =>
    joint rest stack os' (joinLeft .and as (joinLeft .or os φ))
  | _, _, _, _ => none

end

/-- The reader gets over the symbols with the formula as operand, whatever stands around them. -/
def Found (symbols : List Symbol) (φ : Formula) : Binding → Prop
  | .factor => ∀ rest stack os as,
      operand (symbols ++ rest) stack ⟨os, as⟩ = joint rest stack os (joinLeft .and as φ)
  | .conjunction => ∀ rest stack os,
      operand (symbols ++ rest) stack ⟨os, none⟩ = joint rest stack os φ
  | .disjunction => ∃ os ψ, joinLeft .or os ψ = φ ∧ ∀ rest stack,
      operand (symbols ++ rest) stack ⟨none, none⟩ = joint rest stack os ψ

theorem Parses.found {binding : Binding} {symbols : List Symbol} {φ : Formula}
    (h : Parses binding symbols φ) : Found symbols φ binding := by
  induction h with
  | atom =>
    intro rest stack os as
    rfl
  | @parens symbols φ _ ih =>
    obtain ⟨os', ψ, hφ, hread⟩ := ih
    intro rest stack os as
    rw [List.append_assoc, List.cons_append]
    show operand (symbols ++ _) (⟨os, as⟩ :: stack) ⟨none, none⟩ = _
    rw [hread, List.singleton_append, joint, hφ]
  | rise j _ ih =>
    cases j with
    | and => exact fun rest stack os => ih rest stack os none
    | or => exact ⟨none, _, rfl, fun rest stack => ih rest stack none⟩
  | join j _ _ ihleft ihright =>
    cases j with
    | and =>
      intro rest stack os
      rw [List.append_assoc, ihleft, List.cons_append, joint, ihright]
      rfl
    | or =>
      obtain ⟨os', ψ', rfl, hread⟩ := ihleft
      refine ⟨some (joinLeft .or os' ψ'), _, rfl, fun rest stack => ?_⟩
      rw [List.append_assoc, hread, List.cons_append, joint, ihright]

/-- Symbols are one formula at most. -/
theorem Parses.unique {symbols : List Symbol} {φ ψ : Formula} (h : Parses .disjunction symbols φ)
    (h' : Parses .disjunction symbols ψ) : φ = ψ := by
  have hread : ∀ {χ}, Parses .disjunction symbols χ → operand symbols [] ⟨none, none⟩ = some χ := by
    intro χ hχ
    obtain ⟨os, ψ, rfl, hread⟩ := hχ.found
    have h := hread [] []
    rwa [List.append_nil, joint] at h
  exact Option.some.inj ((hread h).symm.trans (hread h'))

/-! ## A text is cut into symbols in one way -/

/-- Where a run of accepted characters ends can be told from what follows it. -/
theorem run_injective {p : Char → Bool} {as bs ss ts : List Char} (ha : ∀ c ∈ as, p c = true)
    (hb : ∀ c ∈ bs, p c = true) (hs : ∀ c ∈ ss.head?, p c = false)
    (ht : ∀ c ∈ ts.head?, p c = false) (h : as ++ ss = bs ++ ts) : as = bs ∧ ss = ts := by
  induction as generalizing bs with
  | nil =>
    cases bs with
    | nil => exact ⟨rfl, h⟩
    | cons b bs =>
      obtain rfl : ss = b :: (bs ++ ts) := h
      exact absurd ((hb b List.mem_cons_self).symm.trans (hs b rfl)) (by decide)
  | cons a as ih =>
    cases bs with
    | nil =>
      obtain rfl : a :: (as ++ ss) = ts := h
      exact absurd ((ha a List.mem_cons_self).symm.trans (ht a rfl)) (by decide)
    | cons b bs =>
      obtain ⟨rfl, hrest⟩ := List.cons.inj h
      obtain ⟨rfl, rfl⟩ := ih (List.forall_mem_cons.1 ha).2 (List.forall_mem_cons.1 hb).2 hrest
      exact ⟨rfl, rfl⟩

/-- What may stand behind a predicate: nothing, or else a closing parenthesis or a blank. -/
def Ends (cs : List Char) : Prop :=
  ∀ c ∈ cs.head?, c = ')' ∨ c = ' '

/-- The digits of a placeholder end where something else than a digit follows. -/
theorem digits_injective {n m : Nat} {ss ts : List Char} (hs : ∀ c ∈ ss.head?, c.isDigit = false)
    (ht : ∀ c ∈ ts.head?, c.isDigit = false)
    (h : Nat.toDigits 10 n ++ ss = Nat.toDigits 10 m ++ ts) : n = m ∧ ss = ts := by
  have hdigits : ∀ k, ∀ c ∈ Nat.toDigits 10 k, c.isDigit = true := fun k c hc =>
    Nat.isDigit_of_mem_toDigits (by decide) (by decide) hc
  obtain ⟨heq, hrest⟩ := run_injective (hdigits n) (hdigits m) hs ht h
  have hvalue := congrArg (fun ds => Nat.ofDigitChars 10 ds 0) heq
  simp only [Nat.ofDigitChars_ten_toDigits] at hvalue
  exact ⟨hvalue, hrest⟩

namespace Test

/-- The text of a test before its placeholder. -/
def keyword : Test → String
  | equals _ => " = "
  | among _ => "::TEXT = ANY(STRING_TO_ARRAY("
  | contains _ => " ILIKE '%' || "
  | null => " IS NULL"
  | notNull => " IS NOT NULL"

/-- The text of a test from its placeholder on. -/
def argument : Test → String
  | equals n => Sql.placeholder n
  | among n => Sql.placeholder n ++ ", ',')::TEXT[])"
  | contains n => Sql.placeholder n ++ "::text || '%'"
  | null => ""
  | notNull => ""

theorem text_eq (t : Test) : t.text = t.keyword ++ t.argument := by
  cases t with
  | equals n => rfl
  | among n => exact String.append_assoc
  | contains n => exact String.append_assoc
  | null => exact String.append_empty.symm
  | notNull => exact String.append_empty.symm

def keywords : List String :=
  [" = ", "::TEXT = ANY(STRING_TO_ARRAY(", " ILIKE '%' || ", " IS NULL", " IS NOT NULL"]

theorem keyword_mem (t : Test) : t.keyword ∈ keywords := by
  cases t <;> simp [keyword, keywords]

/-- No test starts like another one. -/
theorem keywords_apart :
    ∀ s ∈ keywords, ∀ t ∈ keywords, s.toList <+: t.toList → s = t := by
  decide

theorem keyword_injective {t u : Test} {as bs : List Char}
    (h : t.keyword.toList ++ as = u.keyword.toList ++ bs) : t.keyword = u.keyword := by
  rcases List.prefix_or_prefix_of_prefix ⟨as, h⟩ ⟨bs, rfl⟩ with hprefix | hprefix
  · exact keywords_apart _ t.keyword_mem _ u.keyword_mem hprefix
  · exact (keywords_apart _ u.keyword_mem _ t.keyword_mem hprefix).symm

/-- A placeholder ends where the rest of its test, or what follows the test, begins. -/
theorem placeholder_injective {n m : Nat} {s : String} {ss ts : List Char}
    (hs : ∀ c ∈ (s.toList ++ ss).head?, c.isDigit = false)
    (ht : ∀ c ∈ (s.toList ++ ts).head?, c.isDigit = false)
    (h : (Sql.placeholder n ++ s).toList ++ ss = (Sql.placeholder m ++ s).toList ++ ts) :
    n = m ∧ ss = ts := by
  simp only [Sql.placeholder, String.toList_append, String.toList_ofList, List.append_assoc] at h
  obtain ⟨rfl, hrest⟩ := digits_injective hs ht (List.append_cancel_left h)
  exact ⟨rfl, List.append_cancel_left hrest⟩

theorem argument_injective {t u : Test} {ss ts : List Char} (hkey : t.keyword = u.keyword)
    (hs : Ends ss) (ht : Ends ts) (h : t.argument.toList ++ ss = u.argument.toList ++ ts) :
    t = u ∧ ss = ts := by
  have hdigit : ∀ {cs}, Ends cs → ∀ c ∈ cs.head?, c.isDigit = false := by
    intro cs hcs c hc
    rcases hcs c hc with rfl | rfl <;> rfl
  have hrest : ∀ {s : String} {cs : List Char}, s.toList.head?.any (!·.isDigit) = true →
      ∀ c ∈ (s.toList ++ cs).head?, c.isDigit = false := by
    intro s cs hs c hc
    obtain ⟨d, hd, hdigit⟩ := Option.any_eq_true _ _ |>.1 hs
    rw [List.head?_append, hd] at hc
    obtain rfl : d = c := Option.some.inj hc
    simpa using hdigit
  -- Tests of different kinds differ in their keywords.
  cases t <;> cases u <;> first
    | (dsimp only [keyword] at hkey
       exact absurd hkey (by decide))
    | skip
  case equals.equals n m =>
    have hplaceholder : (Sql.placeholder n ++ "").toList ++ ss =
        (Sql.placeholder m ++ "").toList ++ ts := by
      rw [String.append_empty, String.append_empty]
      exact h
    exact (placeholder_injective (s := "") (hdigit hs) (hdigit ht) hplaceholder).imp
      (congrArg equals) id
  case among.among n m =>
    exact (placeholder_injective (hrest rfl) (hrest rfl) h).imp (congrArg among) id
  case contains.contains n m =>
    exact (placeholder_injective (hrest rfl) (hrest rfl) h).imp (congrArg contains) id
  case null.null => exact ⟨rfl, h⟩
  case notNull.notNull => exact ⟨rfl, h⟩

theorem text_injective {t u : Test} {ss ts : List Char} (hs : Ends ss) (ht : Ends ts)
    (h : t.text.toList ++ ss = u.text.toList ++ ts) : t = u ∧ ss = ts := by
  rw [text_eq, text_eq, String.toList_append, String.toList_append, List.append_assoc,
    List.append_assoc] at h
  have hkey := keyword_injective h
  rw [hkey] at h
  exact argument_injective hkey hs ht (List.append_cancel_left h)

/-- A test starts with a character that no plain name has. -/
theorem head_text (t : Test) (cs : List Char) :
    ∀ c ∈ (t.text.toList ++ cs).head?, Identifier.isNameChar c = false := by
  have hkeywords : ∀ s ∈ keywords, s.toList.head?.any (!Identifier.isNameChar ·) = true := by decide
  intro c hc
  obtain ⟨d, hd, hname⟩ := Option.any_eq_true _ _ |>.1 (hkeywords _ t.keyword_mem)
  rw [text_eq, String.toList_append, List.append_assoc, List.head?_append, hd] at hc
  obtain rfl : d = c := Option.some.inj hc
  simpa using hname

end Test

theorem Predicate.text_injective {p q : Predicate} {ss ts : List Char}
    (hp : Identifier.Plain p.column) (hq : Identifier.Plain q.column) (hs : Ends ss) (ht : Ends ts)
    (h : p.text.toList ++ ss = q.text.toList ++ ts) : p = q ∧ ss = ts := by
  obtain ⟨column, test⟩ := p
  obtain ⟨column', test'⟩ := q
  simp only [Predicate.text, String.toList_append, List.append_assoc] at h
  obtain ⟨hcolumn, hrest⟩ := run_injective hp.chars hq.chars (test.head_text ss)
    (test'.head_text ts) h
  obtain ⟨rfl, rfl⟩ := Test.text_injective hs ht hrest
  obtain rfl : column = column' := String.toList_injective hcolumn
  exact ⟨rfl, rfl⟩

/-! ### Symbols -/

/-- A predicate is followed by a joiner or a closing parenthesis. -/
def Symbol.Before : Symbol → Symbol → Prop
  | .atom _, .atom _ => False
  | .atom _, .opening => False
  | _, _ => True

/-- The columns have plain names, and behind a predicate comes nothing that could belong to it. -/
structure Legible (symbols : List Symbol) : Prop where
  plain : ∀ p, Symbol.atom p ∈ symbols → Identifier.Plain p.column
  apart : symbols.IsChain Symbol.Before

theorem Parses.legible {binding : Binding} {symbols : List Symbol} {φ : Formula}
    (h : Parses binding symbols φ) : Legible symbols := by
  -- A closing parenthesis and a joiner may stand behind any symbol, and before any.
  induction h with
  | @atom p hp =>
    refine ⟨fun q hq => ?_, .singleton _⟩
    obtain rfl := Symbol.atom.inj (List.mem_singleton.1 hq)
    exact hp
  | @parens symbols φ _ ih =>
    refine ⟨fun q hq => ih.plain q ?_, List.isChain_append.2 ⟨?_, .singleton _, ?_⟩⟩
    · simpa using hq
    · exact List.isChain_cons.2 ⟨fun _ _ => trivial, ih.apart⟩
    · intro s _ r hr
      obtain rfl : Symbol.closing = r := Option.some.inj hr
      cases s <;> trivial
  | rise _ _ ih => exact ih
  | join j _ _ ihleft ihright =>
    refine ⟨fun q hq => ?_, List.isChain_append.2 ⟨ihleft.apart, ?_, ?_⟩⟩
    · rcases List.mem_append.1 hq with hq | hq
      · exact ihleft.plain q hq
      · exact ihright.plain q (by simpa using hq)
    · exact List.isChain_cons.2 ⟨fun _ _ => trivial, ihright.apart⟩
    · intro s _ r hr
      obtain rfl : Symbol.joiner j = r := Option.some.inj hr
      cases s <;> trivial

theorem Legible.tail {s : Symbol} {symbols : List Symbol} (h : Legible (s :: symbols)) :
    Legible symbols :=
  ⟨fun p hp => h.plain p (List.mem_cons_of_mem s hp), (List.isChain_cons.1 h.apart).2⟩

theorem Legible.ends {p : Predicate} {symbols : List Symbol}
    (h : Legible (.atom p :: symbols)) : Ends (spell symbols) := by
  cases symbols with
  | nil => exact fun c hc => nomatch hc
  | cons s rest =>
    have hbefore : (Symbol.atom p).Before s := (List.isChain_cons.1 h.apart).1 s rfl
    intro c hc
    cases s with
    | atom q => cases hbefore
    | opening => cases hbefore
    | closing => exact .inl (Option.some.inj hc).symm
    | joiner j => cases j <;> exact .inr (Option.some.inj hc).symm

namespace Symbol

/-- The symbols that are no predicates. -/
def marks : List Symbol :=
  [.opening, .closing, .joiner .and, .joiner .or]

theorem atom_or_mem_marks (s : Symbol) : (∃ p, s = .atom p) ∨ s ∈ marks := by
  cases s with
  | atom p => exact .inl ⟨p, rfl⟩
  | opening => exact .inr (by decide)
  | closing => exact .inr (by decide)
  | joiner j => cases j <;> exact .inr (by decide)

/-- No mark starts like another one. -/
theorem marks_apart : ∀ s ∈ marks, ∀ r ∈ marks, s.text.toList <+: r.text.toList → s = r := by
  decide

/-- A mark starts with a character that no plain name has. -/
theorem marks_head : ∀ s ∈ marks, s.text.toList.head?.any (!Identifier.isNameChar ·) = true := by
  decide

theorem mark_ne_atom {s : Symbol} {p : Predicate} {as bs : List Char} (hs : s ∈ marks)
    (hp : Identifier.Plain p.column) : s.text.toList ++ as ≠ (atom p).text.toList ++ bs := by
  intro h
  obtain ⟨c, hc, hname⟩ := Option.any_eq_true _ _ |>.1 (marks_head s hs)
  obtain ⟨d, rest, hcolumn⟩ := List.exists_cons_of_ne_nil hp.nonempty
  have hhead := congrArg List.head? h
  rw [List.head?_append, hc, text, Predicate.text, String.toList_append, hcolumn] at hhead
  obtain rfl : c = d := Option.some.inj hhead
  have hplain := hp.chars c (by rw [hcolumn]; exact List.mem_cons_self)
  rw [hplain] at hname
  cases hname

end Symbol

/-- The first symbol can be told from the characters. -/
theorem spell_cons_injective {l r : Symbol} {ls rs : List Symbol} (hl : Legible (l :: ls))
    (hr : Legible (r :: rs)) (h : spell (l :: ls) = spell (r :: rs)) :
    l = r ∧ spell ls = spell rs := by
  rw [spell_cons, spell_cons] at h
  rcases l.atom_or_mem_marks with ⟨p, rfl⟩ | hmark <;>
    rcases r.atom_or_mem_marks with ⟨q, rfl⟩ | hmark'
  · have hp := hl.plain p List.mem_cons_self
    have hq := hr.plain q List.mem_cons_self
    exact (Predicate.text_injective hp hq hl.ends hr.ends h).imp (congrArg Symbol.atom) id
  · exact absurd h.symm (Symbol.mark_ne_atom hmark' (hl.plain p List.mem_cons_self))
  · exact absurd h (Symbol.mark_ne_atom hmark (hr.plain q List.mem_cons_self))
  · obtain rfl : l = r := by
      rcases List.prefix_or_prefix_of_prefix ⟨spell ls, h⟩ ⟨spell rs, rfl⟩ with hlr | hrl
      · exact Symbol.marks_apart l hmark r hmark' hlr
      · exact (Symbol.marks_apart r hmark' l hmark hrl).symm
    exact ⟨rfl, List.append_cancel_left h⟩

theorem spell_ne_nil {s : Symbol} {symbols : List Symbol} (h : Legible (s :: symbols)) :
    spell (s :: symbols) ≠ [] := by
  rw [spell_cons]
  intro hnil
  have htext := (List.append_eq_nil_iff.1 hnil).1
  rcases s.atom_or_mem_marks with ⟨p, rfl⟩ | hmark
  · rw [Symbol.text, Predicate.text, String.toList_append] at htext
    exact (h.plain p List.mem_cons_self).nonempty (List.append_eq_nil_iff.1 htext).1
  · have hhead := Symbol.marks_head s hmark
    rw [htext] at hhead
    cases hhead

theorem spell_injective {ls rs : List Symbol} (hl : Legible ls) (hr : Legible rs)
    (h : spell ls = spell rs) : ls = rs := by
  induction ls generalizing rs with
  | nil =>
    cases rs with
    | nil => rfl
    | cons r rs => exact absurd h.symm (spell_ne_nil hr)
  | cons l ls ih =>
    cases rs with
    | nil => exact absurd h (spell_ne_nil hl)
    | cons r rs =>
      obtain ⟨rfl, hrest⟩ := spell_cons_injective hl hr h
      rw [ih hl.tail hr.tail hrest]

/-- A text can be read as one formula at most. -/
theorem Reads.unique {text : String} {φ ψ : Formula} (h : Reads .disjunction text φ)
    (h' : Reads .disjunction text ψ) : φ = ψ := by
  obtain ⟨ls, hls, hφ⟩ := h
  obtain ⟨rs, hrs, hψ⟩ := h'
  obtain rfl := spell_injective hφ.legible hψ.legible (hls.trans hrs.symm)
  exact hφ.unique hψ

end ParamSql
