import ParamSql.Clause.Stack
import ParamSql.Proofs.Clause.Order
import ParamSql.Proofs.Clause.Where

/-!
The stack of keys is restored.

A computation `Restores` the stack if it leaves it as it was, also when it fails. Going below a key
does, if what is done there does; so do conditions and orders (`Where.build_eq`, `Order.build_eq`),
which draft the fragments of their specification at the path that the stack gives.
-/

namespace ParamSql

/-- The computation leaves the stack as it was and drafts `f` of it. -/
def OnStack.Restores {α : Type} (x : OnStack α) (f : KeyPath → Draft α) : Prop :=
  ∀ stack, x stack = (stack, f stack)

namespace OnStack.Restores

variable {α β : Type} {x : OnStack α} {f : KeyPath → Draft α}

theorem congr {g : KeyPath → Draft α} (hx : Restores x f) (h : ∀ stack, g stack = f stack) :
    Restores x g :=
  fun stack => by rw [hx stack, h stack]

theorem pure' (a : α) : Restores (pure a) fun _ => pure a :=
  fun _ => rfl

theorem look (f : KeyPath → Draft α) : Restores (OnStack.look f) f :=
  fun _ => rfl

theorem bind' {y : α → OnStack β} {g : α → KeyPath → Draft β} (hx : Restores x f)
    (hy : ∀ a, Restores (y a) (g a)) :
    Restores (x >>= y) fun stack => f stack >>= fun a => g a stack := by
  intro stack
  have hleft : ∀ a, (y a stack).1 = stack := fun a => by rw [hy a stack]
  have hdraft : ∀ a, (y a stack).2 = g a stack := fun a => by rw [hy a stack]
  change andThen x y stack = _
  rw [andThen, hx stack]
  simp only [hleft, hdraft]
  split <;> rfl

theorem below {key : String} (h : Restores x f) :
    Restores (OnStack.below key x) fun stack => f (stack.descend key) := by
  intro stack
  rw [OnStack.below, h (stack.descend key)]
  exact Prod.ext (KeyPath.leave_descend stack key) rfl

end OnStack.Restores

/-! ## Walks -/

namespace Clause.Handlers

/-- The handlers do what a walk does. -/
structure Fits {κ : Type} [Keyword κ] (handlers : Handlers) (w : Walk κ) : Prop where
  clause : handlers.clause = w.clause
  inside {key : Value} {name : String} (hname : key.text? = some name) :
    handlers.inside? name =
      if w.nests (key.keyword? κ) then some (w.wrapped (key.keyword? κ)) else none
  operator {key : Value} {name : String} (hname : key.text? = some name) (path : KeyPath)
    (value : Value) :
    handlers.operator path name key value = w.operator path name key value (key.keyword? κ)

variable {κ : Type} [Keyword κ] {handlers : Handlers} {w : Walk κ} {key value : Value}
  {name : String} {es : List (Value × Value)}

theorem Fits.entry_nested (h : handlers.Fits w) (hname : key.text? = some name)
    (hnests : w.nests (key.keyword? κ) = true) :
    handlers.entry key (.mapping es) = .below name (handlers.entries es >>= fun fragments =>
      pure (w.wrapped (key.keyword? κ) fragments)) := by
  have hset : (Value.mapping es).isUnset = false := rfl
  rw [entry, hset, if_neg Bool.false_ne_true, hname]
  dsimp only
  rw [h.inside hname, hnests, if_pos rfl]

theorem Fits.entry_own (h : handlers.Fits w) (hname : key.text? = some name)
    (hown : Own w.nests key value) :
    handlers.entry key value =
      .below name (.look fun stack => w.operator stack name key value (key.keyword? κ)) := by
  obtain ⟨hset, hvalue⟩ := hown
  rw [entry, hset, if_neg Bool.false_ne_true, hname]
  simp only [h.operator hname]
  split
  · next wrapped es hinside =>
    rw [h.inside hname, hvalue es rfl, if_neg Bool.false_ne_true] at hinside
    cases hinside
  · rfl

theorem Fits.entry_restores (h : handlers.Fits w)
    (hes : ∀ es, value = .mapping es → (handlers.entries es).Restores fun path =>
      w.entries path es) :
    (handlers.entry key value).Restores fun path => w.entry path key value := by
  cases w.entryCase key value with
  | unset hset =>
    rw [entry, if_pos hset]
    exact (OnStack.Restores.pure' []).congr fun path => Walk.entry_unset hset
  | keyNotText hset hkey =>
    rw [entry, hset, if_neg Bool.false_ne_true, hkey, h.clause]
    exact (OnStack.Restores.look _).congr fun path => Walk.entry_keyNotText hset hkey
  | nested hname hnests hvalue =>
    subst hvalue
    rw [h.entry_nested hname hnests]
    exact ((hes _ rfl).bind' fun fragments => .pure' _).below.congr fun path =>
      Walk.entry_nested hname hnests
  | own hname hown =>
    rw [h.entry_own hname hown]
    exact (OnStack.Restores.look _).below.congr fun path => Walk.entry_own hname hown

theorem Fits.entries_restores (h : handlers.Fits w) (es : List (Value × Value)) :
    (handlers.entries es).Restores fun path => w.entries path es := by
  induction es using Value.entries_induction with
  | nil =>
    simp only [entries, Walk.entries]
    exact .pure' []
  | cons key value rest ihvalue ihrest =>
    simp only [entries, Walk.entries]
    exact (h.entry_restores ihvalue).bind' fun here => ihrest.bind' fun others => .pure' _

theorem Fits.build_restores (h : handlers.Fits w) (spec : Value) :
    (handlers.build spec).Restores fun path => ofSpec w.clause (w.entries path) path spec := by
  rw [build.eq_def]
  split
  · exact h.entries_restores _
  · next hmapping =>
    refine (OnStack.Restores.look _).congr fun path => ?_
    rw [h.clause]
    cases spec <;> first
      | rfl
      | exact (hmapping _ rfl).elim

end Clause.Handlers

/-! ## Conditions and orders -/

theorem Where.handlers_fits : handlers.Fits walk where
  clause := rfl
  inside := by
    intro key name hname
    simp only [handlers, rule_of_text hname]
    cases key.keyword? WhereKeyword with
    | none => rfl
    | some k => cases k <;> rfl
  operator := by
    intro key name hname path value
    simp only [handlers, rule_of_text hname]
    rfl

theorem Where.build_eq (spec : Value) (path : KeyPath) :
    build spec path = (path, fragments path spec) := by
  rw [build, handlers_fits.build_restores spec path, fragments, funext (entries_eq path)]
  rfl

theorem Order.handlers_fits : handlers.Fits walk where
  clause := rfl
  inside := by
    intro key name hname
    simp only [handlers, rule_of_text hname]
    cases key.keyword? OrderKeyword with
    | none => rfl
    | some k => cases k <;> rfl
  operator := by
    intro key name hname path value
    simp only [handlers, rule_of_text hname]
    rfl

theorem Order.build_eq (spec : Value) (path : KeyPath) :
    build spec path = (path, fragments path spec) := by
  rw [build, handlers_fits.build_restores spec path, fragments, funext (entries_eq path)]
  rfl

end ParamSql
