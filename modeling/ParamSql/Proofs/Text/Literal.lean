import ParamSql.Proofs.Text.Collapse

/-!
Quoted literals, and what collapsing a text leaves of them.

`literals` reads the complete literals in single quotes out of a text; two quotes side by side stand
for one inside a literal. A literal has no blank at its ends (`Firm`), so wherever it stands in a
text, its squeezed form stands in the collapsed text (`Firm.squeeze_isInfix`).
-/

namespace ParamSql.Text

/-! ## Literals -/

def quote : Char := '\''

/-- What is being read: text outside of literals, a literal, or a literal with a quote that ends it
unless another quote follows. -/
inductive Reading where
  | outside
  | inside (read : List Char)
  | closed (read : List Char)

namespace Reading

def read : Reading → List Char
  | outside => []
  | inside read | closed read => read

/-- A literal begins with a quote, and ends with one when it is closed. -/
def Sound : Reading → Prop
  | outside => True
  | inside read => read.head? = some quote
  | closed read => read.head? = some quote ∧ read.getLast? = some quote

/-- The complete literals of the characters to come. -/
def literals : Reading → List Char → List (List Char)
  | outside, [] => []
  | inside _, [] => []
  | closed read, [] => [read]
  | outside, c :: rest => literals (if c = quote then inside [c] else outside) rest
  | inside read, c :: rest =>
    literals (if c = quote then closed (read ++ [c]) else inside (read ++ [c])) rest
  | closed read, c :: rest =>
    if c = quote then literals (inside (read ++ [c])) rest else read :: literals outside rest

/-- What is read on leaves the first quote in its place. -/
theorem head?_append_singleton {read : List Char} (h : read.head? = some quote) (c : Char) :
    (read ++ [c]).head? = some quote := by
  rw [List.head?_append, h]
  rfl

/-- A literal is a part of the text, with a quote at either end. -/
theorem mem_literals {r : Reading} (h : r.Sound) {cs l : List Char} (hl : l ∈ r.literals cs) :
    l <:+: r.read ++ cs ∧ l.head? = some quote ∧ l.getLast? = some quote := by
  induction cs generalizing r with
  | nil =>
    cases r with
    | outside => cases hl
    | inside read => cases hl
    | closed read =>
      obtain rfl := List.mem_singleton.1 hl
      exact ⟨(List.prefix_append l []).isInfix, h⟩
  | cons c rest ih =>
    cases r with
    | outside =>
      rw [literals] at hl
      split at hl
      · next hc => exact ih (by simp [Sound, hc]) hl
      · obtain ⟨hpart, hends⟩ := ih (r := .outside) trivial hl
        exact ⟨List.infix_cons hpart, hends⟩
    | inside read =>
      rw [literals] at hl
      show l <:+: read ++ c :: rest ∧ _
      rw [List.append_cons]
      split at hl
      · next hc =>
        exact ih (r := .closed (read ++ [c])) ⟨head?_append_singleton h c, by simp [hc]⟩ hl
      · exact ih (r := .inside (read ++ [c])) (head?_append_singleton h c) hl
    | closed read =>
      rw [literals] at hl
      show l <:+: read ++ c :: rest ∧ _
      rw [List.append_cons]
      split at hl
      · exact ih (r := .inside (read ++ [c])) (head?_append_singleton h.1 c) hl
      · rcases List.mem_cons.1 hl with rfl | hl
        · rw [List.append_assoc]
          exact ⟨(List.prefix_append l _).isInfix, h⟩
        · obtain ⟨hpart, hends⟩ := ih (r := .outside) trivial hl
          exact ⟨hpart.trans (List.suffix_append _ rest).isInfix, hends⟩

end Reading

/-- The complete literals of a text, with their quotes. -/
def literals (s : String) : List (List Char) :=
  Reading.outside.literals s.toList

example : literals "a 'b  c' 'it''s' 'd" = ["'b  c'".toList, "'it''s'".toList] := by decide

/-! ## Parts of a text -/

/-- The characters do not begin or end with a blank. -/
structure Firm (cs : List Char) : Prop where
  first : ∃ c, cs.head? = some c ∧ isBlankChar c = false
  last : ∃ c, cs.getLast? = some c ∧ isBlankChar c = false

theorem firm_of_mem_literals {s : String} {l : List Char} (h : l ∈ literals s) :
    Firm l ∧ l <:+: s.toList := by
  obtain ⟨hpart, hfirst, hlast⟩ := Reading.mem_literals (r := .outside) trivial h
  exact ⟨⟨⟨quote, hfirst, rfl⟩, quote, hlast, rfl⟩, hpart⟩

section Lists

variable {α : Type} {p : α → Bool}

/-- Lists that do not meet in two accepted items can be squeezed one by one. -/
theorem squeezeBy_append_of_apart {xs ys : List α}
    (h : ∀ x ∈ xs.getLast?, ∀ y ∈ ys.head?, Apart p x y) :
    squeezeBy p (xs ++ ys) = squeezeBy p xs ++ squeezeBy p ys := by
  induction xs with
  | nil => rfl
  | cons x rest ih =>
    cases rest with
    | nil =>
      rw [List.singleton_append, squeezeBy, squeezeBy]
      cases ys with
      | nil => simp [squeezeBy]
      | cons y more =>
        have hxy : Apart p x y := h x rfl y rfl
        cases hx : p x with
        | false => simp [squeezeBy]
        | true => simp [squeezeBy, hxy hx]
    | cons z more =>
      have hrest := ih (by simpa [List.getLast?_cons_cons] using h)
      have hhead : (z :: more ++ ys).head? = (z :: more).head? := rfl
      rw [List.cons_append, squeezeBy, squeezeBy, hrest, hhead]
      by_cases hboth : (p x && (z :: more).head?.any p) = true
      · rw [if_pos hboth, if_pos hboth]
      · rw [if_neg hboth, if_neg hboth, List.cons_append]

/-- The last item of a run stays, so the last of all does. -/
theorem getLast?_squeezeBy (xs : List α) : (squeezeBy p xs).getLast? = xs.getLast? := by
  induction xs with
  | nil => rfl
  | cons x rest ih =>
    rw [squeezeBy]
    cases rest with
    | nil => simp [squeezeBy]
    | cons y more =>
      split
      · rw [ih, List.getLast?_cons_cons]
      · rw [List.getLast?_cons, ih, ← List.getLast?_cons]

theorem head?_squeezeBy_of_not {xs : List α} {x : α} (hx : xs.head? = some x) (h : p x = false) :
    (squeezeBy p xs).head? = some x := by
  cases xs with
  | nil => cases hx
  | cons y rest =>
    obtain rfl := Option.some.inj hx
    rw [squeezeBy, h, Bool.false_and, if_neg Bool.false_ne_true, List.head?_cons]

/-- What begins with an item that is not accepted stays whole when the front is dropped. -/
theorem isInfix_dropWhile {m xs : List α} (hfirst : ∃ x, m.head? = some x ∧ p x = false)
    (h : m <:+: xs) : m <:+: xs.dropWhile p := by
  obtain ⟨before, after, rfl⟩ := h
  induction before with
  | nil =>
    obtain ⟨x, hx, hp⟩ := hfirst
    cases m with
    | nil => cases hx
    | cons y rest =>
      obtain rfl := Option.some.inj hx
      rw [List.nil_append, List.cons_append, List.dropWhile_cons_of_neg (by simp [hp])]
      exact (List.prefix_append _ after).isInfix
  | cons b rest ih =>
    rw [List.cons_append, List.cons_append, List.dropWhile_cons]
    split
    · exact ih
    · exact ⟨b :: rest, after, rfl⟩

theorem isInfix_trimBy {m xs : List α} (hfirst : ∃ x, m.head? = some x ∧ p x = false)
    (hlast : ∃ x, m.getLast? = some x ∧ p x = false) (h : m <:+: xs) : m <:+: trimBy p xs := by
  have hback : m.reverse <:+: (xs.dropWhile p).reverse.dropWhile p := by
    refine isInfix_dropWhile ?_ (List.reverse_infix.2 (isInfix_dropWhile hfirst h))
    rwa [List.head?_reverse]
  rw [trimBy, ← List.reverse_infix, List.reverse_reverse]
  exact hback

end Lists

/-! ## Collapsing -/

theorem not_space_of_not_blank {c : Char} (h : isBlankChar c = false) : (c == ' ') = false := by
  rw [beq_eq_false_iff_ne]
  rintro rfl
  exact absurd h (by decide)

namespace Firm

variable {l : List Char} {s : String}

/-- What is no blank at its ends is squeezed apart from what stands around it. -/
theorem squeezeSpaces_append (h : Firm l) (before after : List Char) :
    squeezeSpaces (before ++ l ++ after) =
      squeezeSpaces before ++ squeezeSpaces l ++ squeezeSpaces after := by
  obtain ⟨⟨first, hfirst, hfirst'⟩, last, hlast, hlast'⟩ := h
  have hback : ∀ x ∈ (before ++ l).getLast?, ∀ y ∈ after.head?, Apart (· == ' ') x y := by
    intro x hx y _ hspace
    rw [List.getLast?_append, hlast] at hx
    obtain rfl := Option.some.inj hx
    exact absurd (not_space_of_not_blank hlast') (by simp [hspace])
  have hfront : ∀ x ∈ before.getLast?, ∀ y ∈ l.head?, Apart (· == ' ') x y := by
    intro x _ y hy _
    rw [hfirst] at hy
    obtain rfl := Option.some.inj hy
    exact not_space_of_not_blank hfirst'
  rw [squeezeSpaces, squeezeBy_append_of_apart hback, squeezeBy_append_of_apart hfront]
  rfl

theorem first_not_blank (h : Firm l) : ∀ c ∈ l.head?, isBlankChar c = false := by
  obtain ⟨first, hfirst, hfirst'⟩ := h.first
  intro c hc
  rw [hfirst] at hc
  rwa [← Option.some.inj hc]

theorem last_not_blank (h : Firm l) : ∀ c ∈ l.getLast?, isBlankChar c = false := by
  obtain ⟨last, hlast, hlast'⟩ := h.last
  intro c hc
  rw [hlast] at hc
  rwa [← Option.some.inj hc]

/-- Squeezing changes nothing at the ends. -/
theorem squeezed (h : Firm l) : Firm (squeezeSpaces l) := by
  obtain ⟨⟨first, hfirst, hfirst'⟩, last, hlast, hlast'⟩ := h
  refine ⟨⟨first, ?_, hfirst'⟩, last, ?_, hlast'⟩
  · exact head?_squeezeBy_of_not hfirst (not_space_of_not_blank hfirst')
  · rw [squeezeSpaces, getLast?_squeezeBy, hlast]

theorem squeeze_isInfix (h : Firm l) (hl : l <:+: s.toList) :
    squeezeSpaces l <:+: (collapse s).toList := by
  obtain ⟨before, after, hs⟩ := hl
  rw [collapse, String.toList_ofList, ← hs, h.squeezeSpaces_append]
  exact isInfix_trimBy h.squeezed.first h.squeezed.last ⟨_, _, rfl⟩

end Firm

end ParamSql.Text
