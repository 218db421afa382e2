import Mathlib.Data.List.Nodup
import ParamSql.Clause.Registry

/-!
Registries as tables in which the last writer wins.

A registration gives a handler to a keyword or sets the fallback; one with a value that is no
keyword of the clause is refused and changes nothing. One registration changes the answer for its
own key only (`handler?_perform`), so a run of them leaves for each key what its last registration
gave (`handler?_performAll`). From that all answers of the registry are read off the registrations
(`answers_performAll`).
-/

namespace ParamSql

/-- Keywords with different texts, all of them declared. -/
class LawfulKeyword (κ : Type) [Keyword κ] : Prop extends LawfulBEq κ where
  eq_of_text : ∀ {j k : κ}, Keyword.text j = Keyword.text k → j = k
  mem_all : ∀ k : κ, k ∈ (Keyword.all : List κ)

instance : LawfulKeyword WhereKeyword where
  eq_of_text {j k} h := by
    cases j <;> cases k <;> first | rfl | exact absurd h (by decide)
  mem_all k := by
    cases k <;> decide

instance : LawfulKeyword OrderKeyword where
  eq_of_text {j k} h := by
    cases j <;> cases k <;> first | rfl | exact absurd h (by decide)
  mem_all k := by
    cases k <;> decide

/-- The keyword that a value is; a text that spells one is none. -/
def Value.member? (κ : Type) [Keyword κ] : Value → Option κ
  | .constant c => Keyword.ofConstant? c
  | _ => none

namespace Registry

/-- A registration: of a handler for the keyword that a value should be, or of the fallback. -/
inductive Registration (η : Type) where
  | keyword (value : Value) (handler : η)
  | fallback (handler : η)

variable {κ η α β : Type}

/-! ## The table that registrations write -/

section Table

variable (κ) [Keyword κ]

/-- The handler that a registration gives to a key, if it gives it one. -/
def Registration.given? (key : String) : Registration η → Option η
  | .keyword value handler =>
    match value.member? κ with
    | some k => if Keyword.text k = key then some handler else none
    | none => none
  | .fallback _ => none

def Registration.fallback? : Registration η → Option η
  | .keyword _ _ => none
  | .fallback handler => some handler

def lastHandler? (key : String) (steps : List (Registration η)) : Option η :=
  (steps.filterMap (Registration.given? κ key)).getLast?

def lastFallback? (steps : List (Registration η)) : Option η :=
  (steps.filterMap Registration.fallback?).getLast?

def registered (key : String) (steps : List (Registration η)) : Bool :=
  steps.any fun step => (step.given? κ key).isSome

/-- The texts of the keywords that no registration gave a handler to, in declaration order. -/
def unregistered (steps : List (Registration η)) : List String :=
  (Keyword.all.filter fun k : κ => !registered κ (Keyword.text k) steps).map Keyword.text

/-- What an incomplete registry lacks: keywords, or only the fallback. -/
def lacking (steps : List (Registration η)) : List String :=
  if unregistered κ steps = [] then ["default"] else unregistered κ steps

end Table

/-- The refusal of an incomplete registry names what is missing, in quotes. -/
theorem message_incomplete (clause : String) (names : List String) :
    (RegistryError.incomplete clause names).message =
      clause ++ " registry incomplete: missing " ++
        ("[" ++ ", ".intercalate (names.map Text.quoted) ++ "]") ++ "." := by
  have hitems : Value.shownItems (names.map Value.text) = names.map Text.quoted := by
    induction names with
    | nil => rw [List.map_nil, Value.shownItems, List.map_nil]
    | cons name rest ih => rw [List.map_cons, Value.shownItems, Value.shown, ih, List.map_cons]
  have hshown : (Value.list (names.map Value.text)).shown =
      "[" ++ ", ".intercalate (names.map Text.quoted) ++ "]" := by
    rw [Value.shown, hitems]
  rw [← hshown]
  rfl

/-! ## Registrations one after another -/

section Run

variable [Keyword κ]

def perform (r : Registry κ η) : Registration η → Registry κ η
  | .keyword value handler =>
    match r.registerValue value handler with
    | .ok registry => registry
    | .error _ => r
  | .fallback handler => r.registerFallback handler

def performAll (r : Registry κ η) (steps : List (Registration η)) : Registry κ η :=
  steps.foldl perform r

theorem registerValue_eq (r : Registry κ η) (value : Value) (handler : η) :
    r.registerValue value handler =
      match value.member? κ with
      | some k => .ok (r.register k handler)
      | none => .error (.notKeyword value (Keyword.family κ)) := by
  cases value <;> rfl

theorem perform_keyword (r : Registry κ η) (value : Value) (handler : η) :
    r.perform (.keyword value handler) =
      match value.member? κ with
      | some k => r.register k handler
      | none => r := by
  rw [perform, registerValue_eq]
  cases value.member? κ <;> rfl

theorem performAll_append (r : Registry κ η) (before after : List (Registration η)) :
    r.performAll (before ++ after) = (r.performAll before).performAll after :=
  List.foldl_append

/-- A refused registration may be left out of a run. -/
theorem performAll_refused {value : Value} (h : value.member? κ = none) (r : Registry κ η)
    (handler : η) (before after : List (Registration η)) :
    r.performAll (before ++ .keyword value handler :: after) = r.performAll (before ++ after) := by
  have hstep : (r.performAll before).perform (.keyword value handler) = r.performAll before := by
    rw [perform_keyword, h]
  calc r.performAll (before ++ .keyword value handler :: after)
      = ((r.performAll before).perform (.keyword value handler)).performAll after := by
        rw [performAll_append]
        rfl
    _ = r.performAll (before ++ after) := by rw [hstep, performAll_append]

theorem clause_perform (r : Registry κ η) (step : Registration η) :
    (r.perform step).clause = r.clause := by
  cases step with
  | keyword value handler =>
    rw [perform_keyword]
    cases value.member? κ <;> rfl
  | fallback handler => rfl

theorem clause_performAll (steps : List (Registration η)) (r : Registry κ η) :
    (r.performAll steps).clause = r.clause := by
  induction steps generalizing r with
  | nil => rfl
  | cons step rest ih =>
    show ((r.perform step).performAll rest).clause = r.clause
    rw [ih, clause_perform]

/-- What the last of some items gave, if any of them gave something. -/
theorem getLast?_filterMap_cons (f : α → Option β) (a : α) (rest : List α) :
    ((a :: rest).filterMap f).getLast? = ((rest.filterMap f).getLast?).or (f a) := by
  cases h : f a with
  | none => simp [h]
  | some b =>
    rw [List.filterMap_cons_some h, ← List.singleton_append, List.getLast?_append]
    rfl

theorem fallback_perform (r : Registry κ η) (step : Registration η) :
    (r.perform step).fallback = step.fallback?.or r.fallback := by
  cases step with
  | keyword value handler =>
    rw [perform_keyword]
    cases value.member? κ <;> rfl
  | fallback handler => rfl

theorem fallback_performAll (steps : List (Registration η)) (r : Registry κ η) :
    (r.performAll steps).fallback = (lastFallback? steps).or r.fallback := by
  induction steps generalizing r with
  | nil => rfl
  | cons step rest ih =>
    show ((r.perform step).performAll rest).fallback = _
    rw [ih, fallback_perform, lastFallback?, lastFallback?, getLast?_filterMap_cons,
      Option.or_assoc]

/-! ## Answers by handler -/

theorem isSome_lastHandler? (key : String) (steps : List (Registration η)) :
    (lastHandler? κ key steps).isSome = registered κ key steps := by
  induction steps with
  | nil => rfl
  | cons step rest ih =>
    rw [lastHandler?, getLast?_filterMap_cons, Option.isSome_or, ← lastHandler?, ih, registered,
      registered, List.any_cons, Bool.or_comm]

theorem mem_keywords (r : Registry κ η) (key : String) :
    key ∈ r.keywords ↔ r.isKeyword key = true := by
  rw [keywords, (List.mergeSort_perm _ _).mem_iff, isKeyword, handler?, Option.isSome_map,
    List.find?_isSome]
  simp

theorem missing_eq (r : Registry κ η) (steps : List (Registration η))
    (h : ∀ key, r.isKeyword key = registered κ key steps) : r.missing = unregistered κ steps := by
  simp only [missing, unregistered, h]

theorem ensureComplete_eq (r : Registry κ η) :
    r.ensureComplete =
      if r.missing = [] ∧ r.fallback.isSome = true then .ok ()
      else .error (.incomplete r.clause (if r.missing = [] then ["default"] else r.missing)) := by
  rw [ensureComplete]
  cases r.missing <;> cases r.fallback <;> simp

theorem ensureComplete_eq_ok_iff (r : Registry κ η) :
    r.ensureComplete = .ok () ↔ r.missing = [] ∧ r.fallback.isSome = true := by
  rw [ensureComplete_eq]
  by_cases h : r.missing = [] ∧ r.fallback.isSome = true
  · rw [if_pos h]
    exact iff_of_true rfl h
  · rw [if_neg h]
    exact iff_of_false nofun h

theorem eq_of_ensureComplete_error {r : Registry κ η} {e : RegistryError}
    (h : r.ensureComplete = .error e) :
    e = .incomplete r.clause (if r.missing = [] then ["default"] else r.missing) := by
  rw [ensureComplete_eq] at h
  split at h
  · cases h
  · exact (Except.error.inj h).symm

end Run

/-! ## Handlers by key -/

section Handlers

variable [Keyword κ] [LawfulKeyword κ]

/-- The keys of handlers with one more: a new one goes to the end. -/
theorem keys_put (keyword : κ) (handler : η) (entries : List (κ × η)) :
    (put keyword handler entries).map Prod.fst =
      if keyword ∈ entries.map Prod.fst then entries.map Prod.fst
      else entries.map Prod.fst ++ [keyword] := by
  induction entries with
  | nil => rfl
  | cons e rest ih =>
    obtain ⟨k, h⟩ := e
    by_cases hk : k = keyword
    · simp [put, hk]
    · have hother : ¬ keyword = k := fun heq => hk heq.symm
      by_cases hmem : keyword ∈ rest.map Prod.fst <;>
        simp_all [put]

theorem find?_put (keyword : κ) (handler : η) (entries : List (κ × η)) (key : String) :
    ((put keyword handler entries).find? fun e => Keyword.text e.1 == key).map Prod.snd =
      if Keyword.text keyword = key then some handler
      else (entries.find? fun e => Keyword.text e.1 == key).map Prod.snd := by
  induction entries with
  | nil => by_cases hkey : Keyword.text keyword = key <;> simp [put, hkey]
  | cons e rest ih =>
    obtain ⟨k, h⟩ := e
    by_cases hk : k = keyword
    · subst hk
      by_cases hkey : Keyword.text k = key <;> simp [put, hkey]
    · by_cases hkey : Keyword.text k = key
      · -- Only one keyword has the text of the key.
        have hother : ¬ Keyword.text keyword = key := fun heq =>
          hk (LawfulKeyword.eq_of_text (hkey.trans heq.symm))
        simp [put, hk, hkey, hother]
      · simp [put, hk, hkey, ih]

theorem handler?_perform (r : Registry κ η) (step : Registration η) (key : String) :
    (r.perform step).handler? key = (step.given? κ key).or (r.handler? key) := by
  cases step with
  | keyword value handler =>
    rw [perform_keyword, Registration.given?]
    cases value.member? κ with
    | none => rfl
    | some k =>
      show ((put k handler r.handlers).find? fun e => Keyword.text e.1 == key).map Prod.snd = _
      rw [find?_put]
      by_cases hkey : Keyword.text k = key <;> simp [hkey, handler?]
  | fallback handler => rfl

/-- Each key has the handler that it was given last. -/
theorem handler?_performAll (steps : List (Registration η)) (r : Registry κ η) (key : String) :
    (r.performAll steps).handler? key = (lastHandler? κ key steps).or (r.handler? key) := by
  induction steps generalizing r with
  | nil => rfl
  | cons step rest ih =>
    show ((r.perform step).performAll rest).handler? key = _
    rw [ih, handler?_perform, lastHandler?, lastHandler?, getLast?_filterMap_cons,
      Option.or_assoc]

/-! ## The list of keywords -/

/-- No keyword has two handlers. -/
def KeysApart (r : Registry κ η) : Prop :=
  (r.handlers.map Prod.fst).Nodup

theorem KeysApart.perform {r : Registry κ η} (h : r.KeysApart) (step : Registration η) :
    (r.perform step).KeysApart := by
  cases step with
  | keyword value handler =>
    rw [perform_keyword]
    cases value.member? κ with
    | none => exact h
    | some k =>
      show ((put k handler r.handlers).map Prod.fst).Nodup
      rw [keys_put]
      by_cases hmem : k ∈ r.handlers.map Prod.fst
      · rw [if_pos hmem]
        exact h
      · rw [if_neg hmem]
        exact List.nodup_append.2 ⟨h, List.pairwise_singleton _ k, fun j hj l hl heq =>
          hmem (by rw [← List.mem_singleton.1 hl, ← heq]; exact hj)⟩
  | fallback handler => exact h

theorem KeysApart.performAll {r : Registry κ η} (h : r.KeysApart)
    (steps : List (Registration η)) : (r.performAll steps).KeysApart := by
  induction steps generalizing r with
  | nil => exact h
  | cons step rest ih => exact ih (h.perform step)

theorem not_decide_lt {a b : String} : (!decide (b < a)) = true ↔ a ≤ b := by
  rw [Bool.not_eq_true', decide_eq_false_iff_not, String.not_lt]

/-- Keywords are listed in ascending order, each of them once. -/
theorem KeysApart.pairwise_keywords {r : Registry κ η} (h : r.KeysApart) :
    r.keywords.Pairwise (· < ·) := by
  have hnodup : (r.handlers.map fun e => Keyword.text e.1).Nodup := by
    have htext : Function.Injective (Keyword.text : κ → String) :=
      fun _ _ => LawfulKeyword.eq_of_text
    have hmap := List.Nodup.map htext h
    rw [List.map_map] at hmap
    exact hmap
  have hdistinct : r.keywords.Nodup := (List.mergeSort_perm _ _).nodup_iff.2 hnodup
  have hsorted : r.keywords.Pairwise fun a b => (!decide (b < a)) = true := by
    apply List.pairwise_mergeSort
    · intro a b c hab hbc
      rw [not_decide_lt] at hab hbc ⊢
      exact String.le_trans hab hbc
    · intro a b
      rw [Bool.or_eq_true, not_decide_lt, not_decide_lt]
      exact String.le_total a b
  refine (hsorted.and hdistinct).imp fun {a b} hab => ?_
  obtain ⟨hle, hne⟩ := hab
  have hab : a ≤ b := not_decide_lt.1 hle
  apply Decidable.by_contra
  intro hlt
  exact hne (String.le_antisymm hab (String.not_lt.1 hlt))

theorem unregistered_eq_nil_iff (steps : List (Registration η)) :
    unregistered κ steps = [] ↔ ∀ k : κ, registered κ (Keyword.text k) steps = true := by
  rw [unregistered, List.map_eq_nil_iff, List.filter_eq_nil_iff]
  constructor
  · intro h k
    simpa using h k (LawfulKeyword.mem_all k)
  · intro h k _
    simp [h k]

/-- **A registry is a table in which the last writer wins.** After any registrations on a new
registry: a key is handled by what its keyword was given last, else by the last fallback, else not
at all; the keywords are those that were given a handler, in ascending order; and the registry is
complete if and only if each keyword was given a handler and a fallback was set, and else tells
which keywords were not, or that only the fallback is missing. A registration with a value that is
no keyword of the clause is refused, and the rest is as if it had not been made. -/
theorem answers_performAll (clause : String) (steps : List (Registration η)) :
    let r := (new clause : Registry κ η).performAll steps
    (∀ key, r.resolve key =
      match lastHandler? κ key steps, lastFallback? steps with
      | some handler, _ | none, some handler => .ok handler
      | none, none => .error (.noFallback clause)) ∧
    (∀ key, r.isKeyword key = registered κ key steps) ∧
    (r.keywords.Pairwise (· < ·) ∧ ∀ key, key ∈ r.keywords ↔ registered κ key steps = true) ∧
    (r.ensureComplete = .ok () ↔
      (∀ k : κ, registered κ (Keyword.text k) steps = true) ∧
        (lastFallback? steps).isSome = true) ∧
    (∀ e, r.ensureComplete = .error e →
      e = .incomplete clause (lacking κ steps) ∧
        e.message = clause ++ " registry incomplete: missing " ++
          ("[" ++ ", ".intercalate ((lacking κ steps).map Text.quoted) ++ "]") ++ ".") ∧
    ∀ value handler before after, value.member? κ = none → steps = before ++ after →
      ((new clause : Registry κ η).performAll before).registerValue value handler =
          .error (.notKeyword value (Keyword.family κ)) ∧
        (new clause).performAll (before ++ .keyword value handler :: after) = r := by
  intro r
  have hclause : r.clause = clause := clause_performAll steps _
  have hhandler : ∀ key, r.handler? key = lastHandler? κ key steps := fun key =>
    (handler?_performAll steps _ key).trans (Option.or_none ..)
  have hfallback : r.fallback = lastFallback? steps :=
    (fallback_performAll steps _).trans (Option.or_none ..)
  have hkeyword : ∀ key, r.isKeyword key = registered κ key steps := fun key => by
    rw [isKeyword, hhandler, isSome_lastHandler?]
  have hmissing : r.missing = unregistered κ steps := missing_eq r steps hkeyword
  refine ⟨fun key => ?_, hkeyword, ⟨?_, fun key => ?_⟩, ?_, fun e he => ?_, ?_⟩
  · rw [resolve, hhandler, hfallback, hclause]
    cases lastHandler? κ key steps <;> cases lastFallback? steps <;> rfl
  · have hnew : (new clause : Registry κ η).KeysApart := List.nodup_nil
    exact (hnew.performAll steps).pairwise_keywords
  · rw [mem_keywords, hkeyword]
  · rw [ensureComplete_eq_ok_iff, hmissing, hfallback, unregistered_eq_nil_iff]
  · have heq := eq_of_ensureComplete_error he
    rw [hclause, hmissing] at heq
    obtain rfl := heq
    exact ⟨rfl, message_incomplete _ _⟩
  · intro value handler before after hvalue hsteps
    constructor
    · rw [registerValue_eq, hvalue]
    · rw [performAll_refused hvalue, ← hsteps]

/-- Two handlers for one keyword, one for another, a keyword of another clause, a text, and a
fallback. -/
def contested : List (Registration String) :=
  [.keyword (.constant (.orderKeyword .expression)) "first",
    .keyword (.constant (.orderKeyword .ranking)) "ranking",
    .keyword (.constant (.whereKeyword .conjunction)) "foreign", .fallback "other",
    .keyword (.text "sort") "spelled", .keyword (.constant (.orderKeyword .expression)) "last"]

theorem answers_contested :
    let r := (new "ORDER BY" : Registry OrderKeyword String).performAll contested
    ((r.resolve "by").toOption = some "last" ∧ (r.resolve "and").toOption = some "other") ∧
    (r.keywords.Pairwise (· < ·) ∧ "in" ∈ r.keywords ∧ "sort" ∉ r.keywords) ∧
    (∀ e, r.ensureComplete = .error e →
      e.message = "ORDER BY registry incomplete: missing ['sort'].") ∧
    (Value.text "sort").member? OrderKeyword = none ∧
    (new "ORDER BY").performAll (.keyword (.text "sort") "refused" :: contested) = r := by
  obtain ⟨hresolve, -, ⟨hsorted, hmem⟩, -, hincomplete, hrefused⟩ :=
    answers_performAll (κ := OrderKeyword) "ORDER BY" contested
  refine ⟨⟨?_, ?_⟩, ⟨hsorted, (hmem "in").2 (by decide), fun h => ?_⟩, fun e he => ?_, rfl, ?_⟩
  · rw [hresolve]
    decide
  · rw [hresolve]
    decide
  · exact absurd ((hmem "sort").1 h) (by decide)
  · rw [(hincomplete e he).2]
    decide +kernel
  · exact (hrefused (.text "sort") "refused" [] contested rfl rfl).2

end Handlers

end Registry

end ParamSql
