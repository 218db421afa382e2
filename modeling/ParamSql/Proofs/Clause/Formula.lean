import Mathlib.Data.List.Forall2
import ParamSql.Proofs.Identifier
import ParamSql.Sql

/-!
The formulas that conditions are written in.

A formula joins predicates by `AND` and `OR`. It is read from a text as SQL reads it: the text is
cut into symbols, `AND` binds tighter than `OR`, both join from left to right, and parentheses make
a factor of anything (`Parses`). Texts that can be read may be joined and put in parentheses
(`Reads.intercalate`, `Reads.parens`).
-/

namespace ParamSql

/-! ## Formulas -/

/-- What a predicate says of a column; `position` is the number of a parameter. -/
inductive Test where
  | equals (position : Nat)
  | among (position : Nat)
  | contains (position : Nat)
  | null
  | notNull
  deriving DecidableEq, Repr

def Test.text : Test → String
  | equals n => " = " ++ Sql.placeholder n
  | among n => "::TEXT = ANY(STRING_TO_ARRAY(" ++ Sql.placeholder n ++ ", ',')::TEXT[])"
  | contains n => " ILIKE '%' || " ++ Sql.placeholder n ++ "::text || '%'"
  | null => " IS NULL"
  | notNull => " IS NOT NULL"

structure Predicate where
  column : String
  test : Test
  deriving DecidableEq, Repr

def Predicate.text (p : Predicate) : String :=
  p.column ++ p.test.text

/-- The words that join formulas. -/
inductive Joiner where
  | and
  | or
  deriving DecidableEq, Repr

def Joiner.word : Joiner → String
  | and => " AND "
  | or => " OR "

inductive Formula where
  | atom (p : Predicate)
  | join (j : Joiner) (left right : Formula)
  deriving DecidableEq, Repr

/-- The truth of a formula when `ν` tells that of the predicates. -/
def Formula.eval (ν : Predicate → Bool) : Formula → Bool
  | atom p => ν p
  | join .and φ ψ => φ.eval ν && ψ.eval ν
  | join .or φ ψ => φ.eval ν || ψ.eval ν

/-! ## The grammar -/

/-- A smallest part of a condition. -/
inductive Symbol where
  | opening
  | closing
  | joiner (j : Joiner)
  | atom (p : Predicate)
  deriving DecidableEq, Repr

def Symbol.text : Symbol → String
  | opening => "("
  | closing => ")"
  | joiner j => j.word
  | atom p => p.text

def spell (symbols : List Symbol) : List Char :=
  symbols.flatMap fun s => s.text.toList

/-- How tightly a formula holds together. -/
inductive Binding where
  | factor
  | conjunction
  | disjunction
  deriving DecidableEq, Repr

/-- What a joiner makes of what it joins. -/
def Joiner.outer : Joiner → Binding
  | and => .conjunction
  | or => .disjunction

/-- What a joiner joins: `AND` binds tighter than `OR`. -/
def Joiner.inner : Joiner → Binding
  | and => .factor
  | or => .conjunction

/-- The symbols are a formula. -/
inductive Parses : Binding → List Symbol → Formula → Prop where
  | atom {p : Predicate} (h : Identifier.Plain p.column) : Parses .factor [.atom p] (.atom p)
  | parens {symbols : List Symbol} {φ : Formula} (h : Parses .disjunction symbols φ) :
    Parses .factor (.opening :: symbols ++ [.closing]) φ
  | rise (j : Joiner) {symbols : List Symbol} {φ : Formula} (h : Parses j.inner symbols φ) :
    Parses j.outer symbols φ
  | join (j : Joiner) {ls rs : List Symbol} {φ ψ : Formula} (hleft : Parses j.outer ls φ)
    (hright : Parses j.inner rs ψ) : Parses j.outer (ls ++ .joiner j :: rs) (.join j φ ψ)

/-- The text can be read as the formula. -/
def Reads (binding : Binding) (text : String) (φ : Formula) : Prop :=
  ∃ symbols, spell symbols = text.toList ∧ Parses binding symbols φ

/-! ## Texts that can be read -/

theorem spell_append (ls rs : List Symbol) : spell (ls ++ rs) = spell ls ++ spell rs :=
  List.flatMap_append

theorem spell_cons (s : Symbol) (rest : List Symbol) :
    spell (s :: rest) = s.text.toList ++ spell rest := rfl

namespace Reads

variable {binding : Binding} {s t : String} {φ ψ : Formula} {j : Joiner}

theorem atom {p : Predicate} (h : Identifier.Plain p.column) : Reads .factor p.text (.atom p) :=
  ⟨[.atom p], List.flatMap_singleton _ _, .atom h⟩

theorem parens (h : Reads .disjunction t φ) : Reads .factor ("(" ++ t ++ ")") φ := by
  obtain ⟨symbols, hspell, hparses⟩ := h
  refine ⟨.opening :: symbols ++ [.closing], ?_, .parens hparses⟩
  rw [spell_append, spell_cons, hspell, String.toList_append, String.toList_append]
  rfl

theorem rise (h : Reads j.inner t φ) : Reads j.outer t φ := by
  obtain ⟨symbols, hspell, hparses⟩ := h
  exact ⟨symbols, hspell, .rise j hparses⟩

theorem join (hs : Reads j.outer s φ) (ht : Reads j.inner t ψ) :
    Reads j.outer (s ++ j.word ++ t) (.join j φ ψ) := by
  obtain ⟨ls, hls, hleft⟩ := hs
  obtain ⟨rs, hrs, hright⟩ := ht
  refine ⟨ls ++ .joiner j :: rs, ?_, .join j hleft hright⟩
  rw [spell_append, spell_cons, hls, hrs, String.toList_append, String.toList_append,
    List.append_assoc]
  rfl

/-- What a joiner joins may be a factor. -/
theorem inner (h : Reads .factor t φ) : Reads j.inner t φ := by
  cases j with
  | and => exact h
  | or => exact h.rise (j := .and)

/-- What a joiner makes may stand on its own. -/
theorem disjunction (h : Reads j.outer t φ) : Reads .disjunction t φ := by
  cases j with
  | and => exact h.rise (j := .or)
  | or => exact h

end Reads

def Joiner.truth : Joiner → List Bool → Bool
  | and, bs => bs.all id
  | or, bs => bs.any id

theorem Formula.eval_join (ν : Predicate → Bool) (j : Joiner) (φ ψ : Formula) (bs : List Bool) :
    j.truth ((join j φ ψ).eval ν :: bs) = j.truth (φ.eval ν :: ψ.eval ν :: bs) := by
  cases j <;> simp [Joiner.truth, eval, Bool.and_assoc, Bool.or_assoc]

/-- Factors with a joiner between them are a formula, which is as true as they are. -/
theorem Reads.intercalate (j : Joiner) {texts : List String} {φs : List Formula} {s : String}
    {φ : Formula} (hs : Reads j.outer s φ) (h : List.Forall₂ (Reads .factor) texts φs) :
    ∃ χ, Reads j.outer (j.word.intercalate (s :: texts)) χ ∧
      ∀ ν, χ.eval ν = j.truth (φ.eval ν :: φs.map (Formula.eval ν)) := by
  -- The texts are joined from left to right, so the induction takes the first of them to what has
  -- been joined before.
  induction h generalizing s φ with
  | nil =>
    refine ⟨φ, by rwa [String.intercalate_singleton], fun ν => ?_⟩
    cases j <;> simp [Joiner.truth]
  | @cons t ψ rest ψs ht _ ih =>
    obtain ⟨χ, hχ, heval⟩ := ih (hs.join ht.inner)
    refine ⟨χ, ?_, fun ν => ?_⟩
    · have htexts : j.word.intercalate (s :: t :: rest) =
          j.word.intercalate ((s ++ j.word ++ t) :: rest) := by
        cases rest with
        | nil => simp [String.intercalate_cons_cons]
        | cons u rest => simp [String.intercalate_cons_cons, String.append_assoc]
      rwa [htexts]
    · rw [heval, Formula.eval_join, List.map_cons]

end ParamSql
