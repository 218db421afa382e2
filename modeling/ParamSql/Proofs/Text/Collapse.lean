import Mathlib.Data.List.Chain
import ParamSql.Text.Blank

/-!
The normal form of a statement's text.

A text is collapsed if no two spaces stand side by side and neither end is blank. `collapse` gives
a collapsed text (`collapsed_collapse`) and leaves one alone (`collapse_of_collapsed`); collapsed
texts with semicolons between them are collapsed as they stand (`Collapsed.intercalate`).

Squeezing and trimming act on any list, so that they can be followed from the tokens of a text to
its characters: `flatMap_squeezeBy` and `flatMap_trimBy` say that a list may be spelled out before
or after.
-/

namespace ParamSql.Text

section Lists

variable {α β γ : Type} {p : α → Bool} {q : β → Bool}

/-! ## Squeezing -/

/-- Not both of two neighbours are accepted. -/
def Apart (p : α → Bool) (a b : α) : Prop :=
  p a = true → p b = false

/-- What comes first after the squeezing came first before, or is accepted. -/
theorem head?_squeezeBy {xs : List α} {y : α} (hy : y ∈ (squeezeBy p xs).head?) :
    y ∈ xs.head? ∨ p y = true := by
  induction xs with
  | nil => exact .inl hy
  | cons x rest ih =>
    rw [squeezeBy] at hy
    split at hy
    · next h =>
      rw [Bool.and_eq_true] at h
      rcases ih hy with hrest | hp
      · rw [Option.mem_def.1 hrest] at h
        exact .inr h.2
      · exact .inr hp
    · exact .inl hy

theorem isChain_squeezeBy (xs : List α) : (squeezeBy p xs).IsChain (Apart p) := by
  induction xs with
  | nil => exact .nil
  | cons x rest ih =>
    rw [squeezeBy]
    split
    · exact ih
    · next h =>
      refine List.isChain_cons.2 ⟨fun y hy hx => ?_, ih⟩
      -- An accepted `x` is kept only if its neighbour is not accepted, which is then kept as well.
      cases rest with
      | nil => simp [squeezeBy] at hy
      | cons z rest =>
        have hz : p z = false := by simpa [hx] using h
        rw [squeezeBy, hz, Bool.false_and, if_neg Bool.false_ne_true] at hy
        obtain rfl : z = y := by simpa using hy
        exact hz

theorem squeezeBy_of_isChain {xs : List α} (h : xs.IsChain (Apart p)) : squeezeBy p xs = xs := by
  induction xs with
  | nil => rfl
  | cons x rest ih =>
    obtain ⟨hx, hrest⟩ := List.isChain_cons.1 h
    rw [squeezeBy, ih hrest]
    split
    · next hboth =>
      cases rest with
      | nil => simp at hboth
      | cons y rest =>
        rw [Bool.and_eq_true] at hboth
        have hy := hx y rfl hboth.1
        simp [hy] at hboth
    · rfl

theorem mem_of_mem_squeezeBy {xs : List α} {a : α} (h : a ∈ squeezeBy p xs) : a ∈ xs := by
  induction xs with
  | nil => exact h
  | cons x rest ih =>
    rw [squeezeBy] at h
    split at h
    · exact List.mem_cons_of_mem x (ih h)
    · rcases List.mem_cons.1 h with rfl | h
      · exact List.mem_cons_self
      · exact List.mem_cons_of_mem x (ih h)

/-- A relation between neighbours survives the squeezing if every item may precede an accepted
one. -/
theorem isChain_of_squeezeBy {R : α → α → Prop} (hR : ∀ a b, p b = true → R a b) {xs : List α}
    (h : xs.IsChain R) : (squeezeBy p xs).IsChain R := by
  induction xs with
  | nil => exact h
  | cons x rest ih =>
    obtain ⟨hx, hrest⟩ := List.isChain_cons.1 h
    rw [squeezeBy]
    split
    · exact ih hrest
    · refine List.isChain_cons.2 ⟨fun y hy => ?_, ih hrest⟩
      rcases head?_squeezeBy hy with hhead | hp
      · exact hx y hhead
      · exact hR x y hp

/-- The squeezing loses nothing but accepted items. -/
theorem filterMap_squeezeBy {f : α → Option γ} (hf : ∀ a, p a = true → f a = none) (xs : List α) :
    (squeezeBy p xs).filterMap f = xs.filterMap f := by
  induction xs with
  | nil => rfl
  | cons x rest ih =>
    rw [squeezeBy]
    split
    · next h =>
      rw [Bool.and_eq_true] at h
      rw [ih, List.filterMap_cons_none (hf x h.1)]
    · rw [List.filterMap_cons, List.filterMap_cons, ih]

/-! ## Trimming -/

theorem trimBy_isPrefix (xs : List α) : trimBy p xs <+: xs.dropWhile p := by
  have h := List.reverse_prefix.2 (List.dropWhile_suffix (l := (xs.dropWhile p).reverse) p)
  rwa [List.reverse_reverse] at h

theorem trimBy_isInfix (xs : List α) : trimBy p xs <:+: xs :=
  (trimBy_isPrefix xs).isInfix.trans (List.dropWhile_suffix p).isInfix

theorem dropWhile_of_head {xs : List α} (h : ∀ x ∈ xs.head?, p x = false) :
    xs.dropWhile p = xs := by
  cases xs with
  | nil => rfl
  | cons x rest => rw [List.dropWhile_cons_of_neg (by simp [h x rfl])]

theorem head?_dropWhile_not (xs : List α) : ∀ x ∈ (xs.dropWhile p).head?, p x = false := by
  intro x hx
  have h := List.head?_dropWhile_not p xs
  rwa [Option.mem_def.1 hx] at h

theorem trimBy_of_ends {xs : List α} (hfirst : ∀ x ∈ xs.head?, p x = false)
    (hlast : ∀ x ∈ xs.getLast?, p x = false) : trimBy p xs = xs := by
  rw [trimBy, dropWhile_of_head hfirst, dropWhile_of_head (by rwa [List.head?_reverse]),
    List.reverse_reverse]

theorem getLast?_trimBy_not (xs : List α) : ∀ x ∈ (trimBy p xs).getLast?, p x = false := by
  rw [trimBy, List.getLast?_reverse]
  exact head?_dropWhile_not _

theorem head?_trimBy_not (xs : List α) : ∀ x ∈ (trimBy p xs).head?, p x = false := by
  intro x hx
  obtain ⟨rest, hrest⟩ := trimBy_isPrefix (p := p) xs
  refine head?_dropWhile_not (p := p) xs x ?_
  rw [← hrest, List.head?_append, Option.mem_def.1 hx]
  rfl

theorem filterMap_dropWhile {f : α → Option γ} (hf : ∀ a, p a = true → f a = none)
    (xs : List α) : (xs.dropWhile p).filterMap f = xs.filterMap f := by
  induction xs with
  | nil => rfl
  | cons x rest ih =>
    rw [List.dropWhile_cons]
    split
    · next hx => rw [ih, List.filterMap_cons_none (hf x hx)]
    · rfl

/-- The trimming loses nothing but accepted items. -/
theorem filterMap_trimBy {f : α → Option γ} (hf : ∀ a, p a = true → f a = none) (xs : List α) :
    (trimBy p xs).filterMap f = xs.filterMap f := by
  rw [trimBy, List.filterMap_reverse, filterMap_dropWhile hf, ← List.filterMap_reverse,
    List.reverse_reverse, filterMap_dropWhile hf]

/-! ## Spelling out -/

/-- An item is spelled by a single one of its kind, or by items none of which is accepted. -/
def Spells (p : α → Bool) (q : β → Bool) (f : α → List β) (a : α) : Prop :=
  (∃ b, f a = [b] ∧ q b = p a) ∨ (p a = false ∧ f a ≠ [] ∧ ∀ b ∈ f a, q b = false)

variable {f : α → List β}

theorem Spells.reverse {a : α} (h : Spells p q f a) : Spells p q (List.reverse ∘ f) a := by
  rcases h with ⟨b, hb, hq⟩ | ⟨hp, hne, hq⟩
  · exact .inl ⟨b, by rw [Function.comp_apply, hb]; rfl, hq⟩
  · refine .inr ⟨hp, by simpa using hne, fun b hb => hq b ?_⟩
    exact List.mem_reverse.1 hb

/-- What an item is spelled by starts with something of its kind. -/
theorem Spells.head {a : α} (h : Spells p q f a) : ∃ b rest, f a = b :: rest ∧ q b = p a := by
  rcases h with ⟨b, hb, hq⟩ | ⟨hp, hne, hq⟩
  · exact ⟨b, [], hb, hq⟩
  · obtain ⟨b, rest, hb⟩ := List.exists_cons_of_ne_nil hne
    exact ⟨b, rest, hb, by rw [hp]; exact hq b (by rw [hb]; exact List.mem_cons_self)⟩

theorem head?_flatMap_any {xs : List α} (h : ∀ a ∈ xs, Spells p q f a) :
    (xs.flatMap f).head?.any q = xs.head?.any p := by
  cases xs with
  | nil => rfl
  | cons x rest =>
    obtain ⟨b, more, hb, hq⟩ := (h x List.mem_cons_self).head
    rw [List.flatMap_cons, hb]
    exact hq

theorem squeezeBy_append {ys zs : List β} (h : ∀ b ∈ ys, q b = false) :
    squeezeBy q (ys ++ zs) = ys ++ squeezeBy q zs := by
  induction ys with
  | nil => rfl
  | cons y rest ih =>
    rw [List.cons_append, squeezeBy, h y List.mem_cons_self, Bool.false_and,
      if_neg Bool.false_ne_true, ih fun b hb => h b (List.mem_cons_of_mem y hb), List.cons_append]

/-- A list may be spelled out before or after it is squeezed. -/
theorem flatMap_squeezeBy {xs : List α} (h : ∀ a ∈ xs, Spells p q f a) :
    (squeezeBy p xs).flatMap f = squeezeBy q (xs.flatMap f) := by
  induction xs with
  | nil => rfl
  | cons x rest ih =>
    have hrest : ∀ a ∈ rest, Spells p q f a := fun a ha => h a (List.mem_cons_of_mem x ha)
    have hnext := head?_flatMap_any hrest
    rw [List.flatMap_cons, squeezeBy]
    rcases h x List.mem_cons_self with ⟨b, hb, hq⟩ | ⟨hp, -, hq⟩
    -- One item for one: what comes next decides in the same way on both sides.
    · rw [hb, List.singleton_append, squeezeBy, hq, hnext]
      split
      · exact ih hrest
      · rw [List.flatMap_cons, hb, ih hrest, List.singleton_append]
    -- Nothing of what spells `x` is accepted, so all of it is kept, as `x` is.
    · rw [hp, Bool.false_and, if_neg Bool.false_ne_true, List.flatMap_cons, ih hrest,
        squeezeBy_append hq]

theorem flatMap_dropWhile {xs : List α} (h : ∀ a ∈ xs, Spells p q f a) :
    (xs.dropWhile p).flatMap f = (xs.flatMap f).dropWhile q := by
  induction xs with
  | nil => rfl
  | cons x rest ih =>
    rw [List.dropWhile_cons, List.flatMap_cons]
    split
    · next hx =>
      rcases h x List.mem_cons_self with ⟨b, hb, hq⟩ | ⟨hp, -, -⟩
      · rw [hb, List.singleton_append, List.dropWhile_cons_of_pos (by rw [hq, hx])]
        exact ih fun a ha => h a (List.mem_cons_of_mem x ha)
      · rw [hp] at hx
        exact absurd hx Bool.false_ne_true
    · next hx =>
      obtain ⟨b, more, hb, hq⟩ := (h x List.mem_cons_self).head
      rw [hb, List.cons_append, List.dropWhile_cons_of_neg (by rwa [hq]), List.flatMap_cons, hb,
        List.cons_append]

/-- A list may be spelled out before or after it is trimmed. -/
theorem flatMap_trimBy {xs : List α} (h : ∀ a ∈ xs, Spells p q f a) :
    (trimBy p xs).flatMap f = trimBy q (xs.flatMap f) := by
  -- The far end is trimmed in reverse, and there every spelling is read in reverse.
  have hback : ∀ a ∈ (xs.dropWhile p).reverse, Spells p q (List.reverse ∘ f) a := by
    intro a ha
    have hmem : a ∈ xs := (List.dropWhile_suffix p).subset (List.mem_reverse.1 ha)
    exact (h a hmem).reverse
  calc (trimBy p xs).flatMap f
      = (((xs.dropWhile p).reverse.dropWhile p).flatMap (List.reverse ∘ f)).reverse := by
        rw [trimBy, List.flatMap_reverse]
    _ = (((xs.dropWhile p).reverse.flatMap (List.reverse ∘ f)).dropWhile q).reverse := by
        rw [flatMap_dropWhile hback]
    _ = (((xs.dropWhile p).flatMap f).reverse.dropWhile q).reverse := by
        rw [List.reverse_flatMap]
    _ = trimBy q (xs.flatMap f) := by
        rw [flatMap_dropWhile h, trimBy]

end Lists

/-! ## Collapsed texts -/

/-- No two spaces side by side, and no blank at either end. -/
structure Collapsed (cs : List Char) : Prop where
  apart : cs.IsChain (Apart (· == ' '))
  first : ∀ c ∈ cs.head?, isBlankChar c = false
  last : ∀ c ∈ cs.getLast?, isBlankChar c = false

theorem collapsed_collapse (s : String) : Collapsed (collapse s).toList := by
  rw [collapse, String.toList_ofList]
  refine ⟨?_, head?_trimBy_not _, getLast?_trimBy_not _⟩
  exact List.IsChain.infix (isChain_squeezeBy s.toList) (trimBy_isInfix _)

theorem collapse_of_collapsed {s : String} (h : Collapsed s.toList) : collapse s = s := by
  rw [collapse, squeezeSpaces, squeezeBy_of_isChain h.apart, trimBy_of_ends h.first h.last,
    String.ofList_toList]

/-- Collapsing loses nothing but blanks. -/
theorem filter_collapse (s : String) :
    (collapse s).toList.filter (fun c => !isBlankChar c) =
      s.toList.filter fun c => !isBlankChar c := by
  rw [collapse, String.toList_ofList, squeezeSpaces, ← List.filterMap_eq_filter,
    filterMap_trimBy fun c hc => by simp [Option.guard, hc], filterMap_squeezeBy fun c hc => ?_]
  obtain rfl : c = ' ' := eq_of_beq hc
  rfl

/-- Text that is not blank is still seen behind another one after collapsing. -/
theorem collapse_append_ne {s t : String} (h : isBlank t = false) :
    collapse (s ++ t) ≠ collapse s := by
  intro heq
  -- Collapsing keeps the number of characters that are not blank.
  have hcount := congrArg (fun u => (u.toList.filter fun c => !isBlankChar c).length) heq
  simp only [filter_collapse, String.toList_append, List.filter_append, List.length_append]
    at hcount
  rw [isBlank, List.all_eq_false] at h
  obtain ⟨c, hmem, hc⟩ := h
  have hkept : c ∈ t.toList.filter fun c => !isBlankChar c :=
    List.mem_filter.2 ⟨hmem, by simpa using hc⟩
  have hpos := List.length_pos_of_mem hkept
  omega

/-- Collapsed texts are collapsed with semicolons between them. -/
theorem Collapsed.append_semicolon {as bs : List Char} (ha : Collapsed as) (hb : Collapsed bs) :
    Collapsed (as ++ ';' :: bs) := by
  -- The semicolon is neither a space nor blank, so nothing changes where the texts meet.
  refine ⟨List.isChain_append.2 ⟨ha.apart, List.isChain_cons.2 ⟨?_, hb.apart⟩, ?_⟩, ?_, ?_⟩
  · intro c _ h
    exact absurd h (by decide)
  · intro a _ c hc _
    obtain rfl : ';' = c := by simpa using hc
    rfl
  · intro c hc
    cases as with
    | nil =>
      obtain rfl : ';' = c := by simpa using hc
      rfl
    | cons a rest => exact ha.first c (by simpa using hc)
  · intro c hc
    cases hlast : bs.getLast? with
    | none =>
      rw [List.getLast?_eq_none_iff.1 hlast, List.getLast?_append] at hc
      obtain rfl : ';' = c := by simpa using hc
      rfl
    | some b =>
      rw [List.getLast?_append, List.getLast?_cons, hlast] at hc
      obtain rfl : b = c := by simpa using hc
      exact hb.last b hlast

theorem Collapsed.intercalate {texts : List String} (h : ∀ t ∈ texts, Collapsed t.toList) :
    Collapsed (";".intercalate texts).toList := by
  induction texts with
  | nil => exact ⟨.nil, by simp, by simp⟩
  | cons t rest ih =>
    cases rest with
    | nil =>
      rw [String.intercalate_singleton]
      exact h t List.mem_cons_self
    | cons u rest =>
      rw [String.intercalate_cons_cons, String.toList_append, String.toList_append,
        List.append_assoc]
      exact (h t List.mem_cons_self).append_semicolon
        (ih fun s hs => h s (List.mem_cons_of_mem t hs))

end ParamSql.Text
