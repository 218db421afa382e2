import Mathlib.Data.Nat.Bitwise
import ParamSql.Text.Case

/-!
Where the case mappings lead.

A character that a case table moves becomes one of the table's targets (`mem_mapCase`), and one
that the table does not list stays as it is (`mapCase_of_not_mem`). No target of the lower case is
listed itself, so the lower case of a letter in lower case is the letter (`lowerChar_of_mem`), and a
text in lower case stays as it is (`lower_lower`).

The tables hold some fourteen hundred code points each. To see that two sets of code points have
nothing in common, they are read as the bits of two numbers, which the kernel intersects at once.
-/

namespace ParamSql.Text

/-! ## Sets of numbers as bits -/

/-- The number whose bits are at the given places. -/
def mask : List Nat → Nat
  | [] => 0
  | n :: rest => mask rest ||| 2 ^ n

theorem testBit_mask (ns : List Nat) (n : Nat) : (mask ns).testBit n = true ↔ n ∈ ns := by
  induction ns with
  | nil => simp [mask]
  | cons m rest ih =>
    rw [mask, Nat.testBit_or, Bool.or_eq_true, ih, Nat.testBit_two_pow, decide_eq_true_eq,
      List.mem_cons, or_comm, eq_comm]

/-- Lists whose masks share no bit share no number. -/
theorem not_mem_of_mask {ns ms : List Nat} (h : mask ns &&& mask ms = 0) {n : Nat} (hn : n ∈ ns) :
    n ∉ ms := by
  intro hm
  have hbit : (mask ns &&& mask ms).testBit n = true := by
    rw [Nat.testBit_and, (testBit_mask ns n).2 hn, (testBit_mask ms n).2 hm]
    rfl
  rw [h, Nat.zero_testBit] at hbit
  exact absurd hbit Bool.false_ne_true

/-! ## Points and targets of a case table -/

def runPoints (run : Nat × Nat × Nat × Int) : List Nat :=
  (List.range' run.1 (run.2.1 + 1 - run.1)).filter fun n => (n - run.1) % run.2.2.1 == 0

/-- The code points that a case table lists. -/
def casePoints (runs : List (Nat × Nat × Nat × Int)) (expansions : List (Nat × List Nat)) :
    List Nat :=
  runs.flatMap runPoints ++ expansions.map Prod.fst

/-- The code points that a case table leads to. -/
def caseTargets (runs : List (Nat × Nat × Nat × Int)) (expansions : List (Nat × List Nat)) :
    List Nat :=
  (runs.flatMap fun run => (runPoints run).map fun (n : Nat) => ((n : Int) + run.2.2.2).toNat) ++
    expansions.flatMap Prod.snd

section

variable {runs : List (Nat × Nat × Nat × Int)} {expansions : List (Nat × List Nat)} {c d : Char}

/-- A code point that is moved is a point of the run that moves it. -/
theorem mem_runPoints_of_shifted? {n m : Nat} (h : shifted? runs n = some m) :
    ∃ run ∈ runs, n ∈ runPoints run ∧ ((n : Int) + run.2.2.2).toNat = m := by
  obtain ⟨⟨first, last, step, shift⟩, hrun, hmoved⟩ := List.exists_of_findSome?_eq_some h
  dsimp only at hmoved
  split at hmoved
  · next hin =>
    rw [Bool.and_eq_true, Bool.and_eq_true, decide_eq_true_eq, decide_eq_true_eq] at hin
    obtain ⟨⟨hfirst, hlast⟩, hstep⟩ := hin
    refine ⟨_, hrun, List.mem_filter.2 ⟨?_, hstep⟩, Option.some.inj hmoved⟩
    show n ∈ List.range' first (last + 1 - first)
    rw [List.mem_range'_1]
    omega
  · exact absurd hmoved (by simp)

theorem mem_of_lookup_eq_some {ns : List Nat} (h : expansions.lookup c.toNat = some ns) :
    (c.toNat, ns) ∈ expansions := by
  obtain ⟨before, after, htable, -⟩ := List.lookup_eq_some_iff.1 h
  rw [htable]
  exact List.mem_append_right before List.mem_cons_self

theorem lookup_eq_none_of_not_mem (h : c.toNat ∉ expansions.map Prod.fst) :
    expansions.lookup c.toNat = none := by
  refine List.lookup_eq_none_iff.2 fun e he => bne_iff_ne.2 fun heq => h ?_
  rw [heq]
  exact List.mem_map_of_mem he

/-- A character that the table does not list stays as it is. -/
theorem mapCase_of_not_mem (h : c.toNat ∉ casePoints runs expansions) :
    mapCase runs expansions c = [c] := by
  rw [casePoints, List.mem_append, not_or] at h
  obtain ⟨hruns, hexpansions⟩ := h
  have hshifted : shifted? runs c.toNat = none := by
    cases hmoved : shifted? runs c.toNat with
    | none => rfl
    | some m =>
      obtain ⟨run, hrun, hpoint, -⟩ := mem_runPoints_of_shifted? hmoved
      exact absurd (List.mem_flatMap.2 ⟨run, hrun, hpoint⟩) hruns
  rw [mapCase, lookup_eq_none_of_not_mem hexpansions, hshifted]

/-- What a character becomes is the character, which then stays, or a target of the table. -/
theorem mem_mapCase (h : d ∈ mapCase runs expansions c) :
    d = c ∧ mapCase runs expansions c = [c] ∨
      ∃ n ∈ caseTargets runs expansions, d = Char.ofNat n := by
  have hcase := h
  rw [mapCase] at hcase
  split at hcase
  -- The letter becomes several.
  · next ns hns =>
    obtain ⟨n, hn, rfl⟩ := List.mem_map.1 hcase
    have hlisted := mem_of_lookup_eq_some hns
    exact .inr ⟨n, List.mem_append_right _ (List.mem_flatMap.2 ⟨_, hlisted, hn⟩), rfl⟩
  · next hlookup =>
    split at hcase
    -- The letter is moved with a run of letters.
    · next n hn =>
      obtain rfl := List.mem_singleton.1 hcase
      obtain ⟨run, hrun, hpoint, rfl⟩ := mem_runPoints_of_shifted? hn
      refine .inr ⟨_, List.mem_append_left _ (List.mem_flatMap.2 ⟨run, hrun, ?_⟩), rfl⟩
      exact List.mem_map.2 ⟨_, hpoint, rfl⟩
    -- The character has no other case.
    · next hnone =>
      refine .inl ⟨List.mem_singleton.1 hcase, ?_⟩
      rw [mapCase, hlookup, hnone]

theorem toNat_ofNat {n : Nat} (h : n.isValidChar) : (Char.ofNat n).toNat = n := by
  rw [Char.ofNat, dif_pos h]
  rfl

/-- If no target is one of some code points, a character that is none of them becomes none. -/
theorem not_mem_of_mem_mapCase {points : List Nat}
    (hvalid : ∀ n ∈ caseTargets runs expansions, n.isValidChar)
    (hmask : mask (caseTargets runs expansions) &&& mask points = 0) (hc : c.toNat ∉ points)
    (hd : d ∈ mapCase runs expansions c) : d.toNat ∉ points := by
  rcases mem_mapCase hd with ⟨rfl, -⟩ | ⟨n, hn, rfl⟩
  · exact hc
  · rw [toNat_ofNat (hvalid n hn)]
    exact not_mem_of_mask hmask hn

/-- No character is lost if no letter becomes none. -/
theorem mapCase_ne_nil (h : ∀ e ∈ expansions, e.2 ≠ []) : mapCase runs expansions c ≠ [] := by
  rw [mapCase]
  split
  · next ns hns =>
    have hne : ns ≠ [] := h (c.toNat, ns) (mem_of_lookup_eq_some hns)
    simpa using hne
  · split <;> simp

end

/-! ## Lower and upper case -/

/-- Every target is the code point of a character. -/
theorem isValidChar_of_mem_caseTargets :
    (∀ n ∈ caseTargets lowerRuns lowerExpansions, n.isValidChar) ∧
      ∀ n ∈ caseTargets upperRuns upperExpansions, n.isValidChar := by
  decide +kernel

/-- No target of the lower case has another lower case. -/
theorem mask_lower_disjoint :
    mask (caseTargets lowerRuns lowerExpansions) &&&
      mask (casePoints lowerRuns lowerExpansions) = 0 := by
  decide +kernel

theorem lowerChar_ne_nil (c : Char) : lowerChar c ≠ [] :=
  mapCase_ne_nil (by decide +kernel)

/-- The lower case of a letter in lower case is the letter. -/
theorem lowerChar_of_mem {c d : Char} (h : d ∈ lowerChar c) : lowerChar d = [d] := by
  rcases mem_mapCase h with ⟨rfl, hstays⟩ | ⟨n, hn, rfl⟩
  · exact hstays
  · apply mapCase_of_not_mem
    rw [toNat_ofNat (isValidChar_of_mem_caseTargets.1 n hn)]
    exact not_mem_of_mask mask_lower_disjoint hn

/-- No letter of a lowered text has another lower case, whatever stands before it. -/
theorem lowerChar_of_mem_lowerFrom {cs : List Char} {inWord : Bool} {d : Char}
    (h : d ∈ lowerFrom inWord cs) : lowerChar d = [d] := by
  induction cs generalizing inWord with
  | nil => cases h
  | cons c rest ih =>
    rw [lowerFrom] at h
    split at h
    · rcases List.mem_cons.1 h with rfl | h
      · decide +kernel
      · exact ih h
    · rcases List.mem_append.1 h with h | h
      · exact lowerChar_of_mem h
      · exact ih h

/-- A text without letters that have another lower case stays as it is. -/
theorem lowerFrom_of_lowered {cs : List Char} (inWord : Bool) (h : ∀ c ∈ cs, lowerChar c = [c]) :
    lowerFrom inWord cs = cs := by
  induction cs generalizing inWord with
  | nil => rfl
  | cons c rest ih =>
    obtain ⟨hc, hrest⟩ := List.forall_mem_cons.1 h
    have hsigma : c ≠ 'Σ' := by
      rintro rfl
      exact absurd hc (by decide +kernel)
    rw [lowerFrom, beq_false_of_ne hsigma, Bool.false_and, Bool.false_and,
      if_neg Bool.false_ne_true, hc, ih _ hrest, List.singleton_append]

/-- Lower case does nothing to a text in lower case. -/
theorem lower_lower (cs : List Char) : lower (lower cs) = lower cs :=
  lowerFrom_of_lowered false fun _ h => lowerChar_of_mem_lowerFrom h

end ParamSql.Text
