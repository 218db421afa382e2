import ParamSql.Proofs.Text.Literal

/-!
Runs of spaces in a text, and what collapsing makes of them.

A text may be trimmed before its spaces are squeezed (`toList_collapse`). What is left of it is read
as words with runs of spaces between them (`Spaced`, `exists_spaced`), and squeezing keeps the words
and puts one space for every run (`squeezeSpaces_text`).
-/

namespace ParamSql.Text

/-! ## Trimming first -/

section Lists

variable {α : Type} {p : α → Bool} {before after : List α}

/-- A list is what trimming leaves of it, between items that are accepted. -/
theorem exists_trimBy (p : α → Bool) (xs : List α) :
    ∃ before after, xs = before ++ trimBy p xs ++ after ∧ (∀ x ∈ before, p x = true) ∧
      ∀ x ∈ after, p x = true := by
  have hback : xs.dropWhile p =
      trimBy p xs ++ ((xs.dropWhile p).reverse.takeWhile p).reverse := by
    rw [trimBy, ← List.reverse_append, List.takeWhile_append_dropWhile, List.reverse_reverse]
  refine ⟨xs.takeWhile p, ((xs.dropWhile p).reverse.takeWhile p).reverse, ?_, ?_, ?_⟩
  · rw [List.append_assoc, ← hback, List.takeWhile_append_dropWhile]
  · exact List.all_eq_true.1 List.all_takeWhile
  · exact fun x hx => List.all_eq_true.1 List.all_takeWhile x (List.mem_reverse.1 hx)

theorem trimBy_append_before (h : ∀ x ∈ before, p x = true) (xs : List α) :
    trimBy p (before ++ xs) = trimBy p xs := by
  rw [trimBy, List.dropWhile_append_of_pos h, trimBy]

theorem trimBy_append_after (h : ∀ x ∈ after, p x = true) (xs : List α) :
    trimBy p (xs ++ after) = trimBy p xs := by
  have hafter : after.dropWhile p = [] := by
    have hall : (after ++ []).dropWhile p = [] := List.dropWhile_append_of_pos h
    rwa [List.append_nil] at hall
  rw [trimBy, trimBy, List.dropWhile_append]
  split
  · next hnil => rw [hafter, List.isEmpty_iff.1 hnil]
  · have hback : ∀ x ∈ after.reverse, p x = true := fun x hx => h x (List.mem_reverse.1 hx)
    rw [List.reverse_append, List.dropWhile_append_of_pos hback]

end Lists

theorem trimBy_blank {cs : List Char} (h : ∀ c ∈ cs, isBlankChar c = true) :
    trimBy isBlankChar cs = [] :=
  trimBy_append_after h []

/-- What trimming leaves of a text, if anything, is no blank at its ends. -/
theorem firm_trimBy {cs : List Char} (h : trimBy isBlankChar cs ≠ []) :
    Firm (trimBy isBlankChar cs) where
  first := by
    obtain ⟨c, rest, hcs⟩ := List.exists_cons_of_ne_nil h
    have hhead : (trimBy isBlankChar cs).head? = some c := by rw [hcs, List.head?_cons]
    exact ⟨c, hhead, head?_trimBy_not cs c hhead⟩
  last := by
    have hlast := List.getLast?_eq_some_getLast h
    exact ⟨_, hlast, getLast?_trimBy_not cs _ hlast⟩

theorem Firm.trimmed {l : List Char} (h : Firm l) : trimBy isBlankChar l = l :=
  trimBy_of_ends h.first_not_blank h.last_not_blank

/-- A text may be trimmed before its spaces are squeezed. -/
theorem toList_collapse (s : String) : (collapse s).toList = squeezeSpaces (strip s).toList := by
  obtain ⟨before, after, hs, hbefore, hafter⟩ := exists_trimBy isBlankChar s.toList
  have hblank : ∀ {ends : List Char}, (∀ c ∈ ends, isBlankChar c = true) →
      ∀ c ∈ squeezeSpaces ends, isBlankChar c = true := by
    intro ends h c hc
    exact h c (mem_of_mem_squeezeBy hc)
  rw [collapse, String.toList_ofList, strip, String.toList_ofList]
  by_cases hcore : trimBy isBlankChar s.toList = []
  · have hall : ∀ c ∈ s.toList, isBlankChar c = true := by
      intro c hc
      rw [hs, hcore, List.append_nil] at hc
      exact (List.mem_append.1 hc).elim (hbefore c) (hafter c)
    rw [hcore, trimBy_blank (hblank hall)]
    rfl
  · -- What is left has no blank at its ends, so the blanks around it are squeezed by themselves.
    have hfirm := firm_trimBy hcore
    calc trimBy isBlankChar (squeezeSpaces s.toList)
        = trimBy isBlankChar (squeezeSpaces before ++
            squeezeSpaces (trimBy isBlankChar s.toList) ++ squeezeSpaces after) := by
          rw [← hfirm.squeezeSpaces_append, ← hs]
      _ = trimBy isBlankChar (squeezeSpaces (trimBy isBlankChar s.toList)) := by
          rw [trimBy_append_after (hblank hafter), trimBy_append_before (hblank hbefore)]
      _ = squeezeSpaces (trimBy isBlankChar s.toList) := hfirm.squeezed.trimmed

/-- Collapsing takes away no character that is not a space, except at the ends of the text. -/
theorem filter_not_space_collapse (s : String) :
    (collapse s).toList.filter (· != ' ') = (strip s).toList.filter (· != ' ') := by
  rw [toList_collapse, squeezeSpaces, ← List.filterMap_eq_filter,
    filterMap_squeezeBy fun c hc => ?_]
  rw [eq_of_beq hc]
  rfl

/-! ## Words and spaces -/

/-- A word: characters other than the space, at least one. -/
structure Word where
  chars : List Char
  nonempty : chars ≠ []
  unspaced : ' ' ∉ chars

/-- A text of words with runs of spaces between them. Each word but the first one comes with the
number of the spaces before it beyond the first of them. -/
structure Spaced where
  first : Word
  others : List (Nat × Word)

namespace Spaced

def text (t : Spaced) : List Char :=
  t.first.chars ++ t.others.flatMap fun (more, w) => List.replicate (more + 1) ' ' ++ w.chars

/-- The characters of the text with a single space for every run. -/
def single (t : Spaced) : List Char :=
  t.first.chars ++ t.others.flatMap fun (_, w) => ' ' :: w.chars

end Spaced

theorem Word.not_space (w : Word) : ∀ c ∈ w.chars, (c == ' ') = false :=
  fun _ hc => beq_false_of_ne fun heq => w.unspaced (heq ▸ hc)

/-- A run of spaces before a word becomes one space. -/
theorem squeezeSpaces_run (more : Nat) (w : Word) (rest : List Char) :
    squeezeSpaces (List.replicate (more + 1) ' ' ++ w.chars ++ rest) =
      ' ' :: w.chars ++ squeezeSpaces rest := by
  induction more with
  | zero =>
    obtain ⟨c, cs, hchars⟩ := List.exists_cons_of_ne_nil w.nonempty
    have hc : (c == ' ') = false := w.not_space c (by rw [hchars]; exact List.mem_cons_self)
    have hhead : ((w.chars ++ rest).head?.any (· == ' ')) = false := by
      rw [hchars, List.cons_append, List.head?_cons]
      exact hc
    show squeezeBy _ (' ' :: (w.chars ++ rest)) = _
    rw [squeezeBy, hhead, Bool.and_false, if_neg Bool.false_ne_true,
      squeezeBy_append w.not_space]
    rfl
  | succ more ih =>
    -- The first of two spaces goes.
    show squeezeSpaces (List.replicate (more + 1) ' ' ++ w.chars ++ rest) = _
    exact ih

theorem squeezeSpaces_runs (others : List (Nat × Word)) :
    squeezeSpaces (others.flatMap fun (more, w) => List.replicate (more + 1) ' ' ++ w.chars) =
      others.flatMap fun (_, w) => ' ' :: w.chars := by
  induction others with
  | nil => rfl
  | cons other rest ih => rw [List.flatMap_cons, List.flatMap_cons, squeezeSpaces_run, ih]

/-- Squeezing keeps the words and puts one space for every run. -/
theorem squeezeSpaces_text (t : Spaced) : squeezeSpaces t.text = t.single := by
  rw [Spaced.text, squeezeSpaces, squeezeBy_append t.first.not_space]
  exact congrArg (t.first.chars ++ ·) (squeezeSpaces_runs t.others)

/-- A text that does not end with a space is read as words behind a run of spaces. -/
theorem exists_spaces_text {cs : List Char} (hne : cs ≠ []) (hlast : ∀ c ∈ cs.getLast?, c ≠ ' ') :
    ∃ n, ∃ t : Spaced, cs = List.replicate n ' ' ++ t.text := by
  induction cs with
  | nil => exact absurd rfl hne
  | cons c rest ih =>
    cases rest with
    | nil =>
      have hc : ' ' ≠ c := (hlast c rfl).symm
      exact ⟨0, ⟨⟨[c], List.cons_ne_nil c [], by simpa using hc⟩, []⟩, rfl⟩
    | cons d rest =>
      rw [List.getLast?_cons_cons] at hlast
      obtain ⟨n, t, hrest⟩ := ih (List.cons_ne_nil d rest) hlast
      rw [hrest]
      by_cases hc : c = ' '
      · exact ⟨n + 1, t, by rw [hc]; rfl⟩
      · have hword : ' ' ∉ [c] := by simpa using Ne.symm hc
        cases n with
        -- The character goes on with the first word.
        | zero =>
          have hlonger : ' ' ∉ c :: t.first.chars := by
            rw [List.mem_cons, not_or]
            exact ⟨Ne.symm hc, t.first.unspaced⟩
          exact ⟨0, ⟨⟨c :: t.first.chars, List.cons_ne_nil c _, hlonger⟩, t.others⟩, rfl⟩
        -- The character is a word of its own before the run.
        | succ more =>
          refine ⟨0, ⟨⟨[c], List.cons_ne_nil c [], hword⟩, (more, t.first) :: t.others⟩, ?_⟩
          simp [Spaced.text]

/-- A stripped text, if it is not empty, is read as words with runs of spaces between them. -/
theorem exists_spaced {s : String} (h : strip s ≠ "") :
    ∃ t : Spaced, (strip s).toList = t.text := by
  have hs : (strip s).toList = trimBy isBlankChar s.toList := by rw [strip, String.toList_ofList]
  have hne : (strip s).toList ≠ [] := by rwa [ne_eq, String.toList_eq_nil_iff]
  have hfirm : Firm (strip s).toList := by
    rw [hs] at hne ⊢
    exact firm_trimBy hne
  have hlast : ∀ c ∈ (strip s).toList.getLast?, c ≠ ' ' := by
    intro c hc
    exact ne_of_beq_false (not_space_of_not_blank (hfirm.last_not_blank c hc))
  obtain ⟨n, t, ht⟩ := exists_spaces_text hne hlast
  cases n with
  | zero => exact ⟨t, ht⟩
  | succ n =>
    -- The text would begin with a space.
    have hspace : isBlankChar ' ' = false := hfirm.first_not_blank ' ' (by rw [ht]; rfl)
    exact absurd hspace (by decide)

end ParamSql.Text
