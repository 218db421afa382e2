import Mathlib.Data.List.Forall2
import ParamSql.Sql.Draft

/-!
What a successful draft gives, and what two successful drafts have in common.

`Yields x post` says of every success of `x` that `post` holds of the bound values and the result;
`Agree R x y` says of every success of both that `R` relates the results and that they bind equally
many values and log the same. Both follow the steps of a draft by the rules below, one for each way
of making a draft. A draft that fails satisfies both.
-/

namespace ParamSql.Draft

variable {α β γ δ : Type}

/-! ## One draft after another -/

section Bind

variable {x : Draft α} {f : α → Draft β}

/-- After a success the second draft goes on, behind what the first one has bound and logged. -/
theorem bind_of_ok {a : α} (h : x.result = .ok a) :
    (x >>= f).result = (f a).result ∧ (x >>= f).bound = x.bound ++ (f a).bound ∧
      (x >>= f).notes = x.notes ++ (f a).notes := by
  change (andThen x f).result = _ ∧ (andThen x f).bound = _ ∧ (andThen x f).notes = _
  induction x with
  | done b =>
    obtain rfl := Except.ok.inj h
    exact ⟨rfl, rfl, rfl⟩
  | fail e => cases h
  | noting note next ih =>
    obtain ⟨hresult, hbound, hnotes⟩ := ih h
    exact ⟨hresult, hbound, congrArg (note :: ·) hnotes⟩
  | binding v next ih =>
    obtain ⟨hresult, hbound, hnotes⟩ := ih .hole h
    exact ⟨hresult, congrArg (v :: ·) hbound, hnotes⟩
  | extending vs next ih =>
    obtain ⟨hresult, hbound, hnotes⟩ := ih (.room vs.length) h
    refine ⟨hresult, ?_, hnotes⟩
    rw [andThen, bound, bound, hbound, List.append_assoc]

/-- An error ends both drafts. -/
theorem bind_of_error {e : Error} (h : x.result = .error e) :
    (x >>= f).result = .error e ∧ (x >>= f).bound = x.bound ∧ (x >>= f).notes = x.notes := by
  change (andThen x f).result = _ ∧ (andThen x f).bound = _ ∧ (andThen x f).notes = _
  induction x with
  | done b => cases h
  | fail e =>
    obtain rfl := Except.error.inj h
    exact ⟨rfl, rfl, rfl⟩
  | noting note next ih =>
    obtain ⟨hresult, hbound, hnotes⟩ := ih h
    exact ⟨hresult, hbound, congrArg (note :: ·) hnotes⟩
  | binding v next ih =>
    obtain ⟨hresult, hbound, hnotes⟩ := ih .hole h
    exact ⟨hresult, congrArg (v :: ·) hbound, hnotes⟩
  | extending vs next ih =>
    obtain ⟨hresult, hbound, hnotes⟩ := ih (.room vs.length) h
    exact ⟨hresult, congrArg (vs ++ ·) hbound, hnotes⟩

theorem bind_result_ok {a : α} (hx : x.result = .ok a) : (x >>= f).result = (f a).result :=
  (bind_of_ok hx).1

theorem bind_result_error {e : Error} (hx : x.result = .error e) :
    (x >>= f).result = .error e :=
  (bind_of_error hx).1

theorem result_bind {b : β} (h : (x >>= f).result = .ok b) :
    ∃ a, x.result = .ok a ∧ (f a).result = .ok b ∧ (x >>= f).bound = x.bound ++ (f a).bound ∧
      (x >>= f).notes = x.notes ++ (f a).notes := by
  cases hx : x.result with
  | ok a =>
    obtain ⟨hresult, hbound, hnotes⟩ := bind_of_ok (f := f) hx
    exact ⟨a, rfl, hresult ▸ h, hbound, hnotes⟩
  | error e =>
    rw [bind_result_error hx] at h
    cases h

end Bind

/-! ## One draft -/

/-- Whenever the draft succeeds, `post` holds of the values it binds and of its result. -/
def Yields (x : Draft α) (post : List Value → α → Prop) : Prop :=
  ∀ a, x.result = .ok a → post x.bound a

/-- The draft succeeds with this result and binds these values. -/
def Gives (x : Draft α) (vs : List Value) (a : α) : Prop :=
  x.result = .ok a ∧ x.bound = vs

theorem gives_pure (a : α) : (pure a : Draft α).Gives [] a :=
  ⟨rfl, rfl⟩

theorem gives_param (v : Value) : (Draft.param v).Gives [v] .hole :=
  ⟨rfl, rfl⟩

theorem gives_params (vs : List Value) : (Draft.params vs).Gives vs (.room vs.length) :=
  ⟨rfl, List.append_nil vs⟩

theorem Gives.bind {x : Draft α} {f : α → Draft β} {vs ws : List Value} {a : α} {b : β}
    (hx : x.Gives vs a) (hf : (f a).Gives ws b) : (x >>= f).Gives (vs ++ ws) b := by
  obtain ⟨hresult, rfl⟩ := hx
  obtain ⟨hb, rfl⟩ := hf
  obtain ⟨hbind, hbound, -⟩ := bind_of_ok (f := f) hresult
  exact ⟨hbind.trans hb, hbound⟩

/-- A last step that only makes something of the result. -/
theorem Gives.bind_pure {x : Draft α} {f : α → β} {vs : List Value} {a : α}
    (hx : x.Gives vs a) : (x >>= fun a => pure (f a)).Gives vs (f a) := by
  have h := hx.bind (f := fun a => pure (f a)) (gives_pure (f a))
  rwa [List.append_nil] at h

theorem yields_gives (x : Draft α) : Yields x (Gives x) :=
  fun _ h => ⟨h, rfl⟩

theorem Yields.of_gives {x : Draft α} {post : List Value → α → Prop} {vs : List Value} {a : α}
    (h : Yields x post) (hx : Gives x vs a) : post vs a := by
  obtain ⟨ha, rfl⟩ := hx
  exact h a ha

/-- The values and results of drafts that each satisfy their own condition, put together. -/
inductive Joint (mid : α → List Value → β → Prop) : List α → List Value → List β → Prop where
  | nil : Joint mid [] [] []
  | cons {a : α} {as : List α} {vs ws : List Value} {b : β} {bs : List β} :
      mid a vs b → Joint mid as ws bs → Joint mid (a :: as) (vs ++ ws) (b :: bs)

namespace Yields

variable {x : Draft α} {post : List Value → α → Prop}

theorem ok {vs : List Value} {a : α} (hx : x.Gives vs a) (h : post vs a) : Yields x post := by
  obtain ⟨hresult, rfl⟩ := hx
  intro b hb
  obtain rfl := Except.ok.inj (hresult.symm.trans hb)
  exact h

theorem pure' {a : α} (h : post [] a) : Yields (pure a) post :=
  ok (gives_pure a) h

theorem mono {mid : List Value → α → Prop} (hx : Yields x mid)
    (h : ∀ vs a, mid vs a → post vs a) : Yields x post :=
  fun a ha => h _ a (hx a ha)

theorem bind' {f : α → Draft β} {mid : List Value → α → Prop} {post : List Value → β → Prop}
    (hx : Yields x mid) (hf : ∀ vs a, mid vs a → Yields (f a) fun ws b => post (vs ++ ws) b) :
    Yields (x >>= f) post := by
  intro b hb
  obtain ⟨a, ha, hfa, hbound, -⟩ := result_bind hb
  rw [hbound]
  exact hf x.bound a (hx a ha) b hfa

/-- A last step that only makes something of the result. -/
theorem bind_pure {f : α → β} {mid : List Value → α → Prop} {post : List Value → β → Prop}
    (hx : Yields x mid) (h : ∀ vs a, mid vs a → post vs (f a)) :
    Yields (x >>= fun a => pure (f a)) post := by
  refine bind' hx fun vs a ha => pure' ?_
  rw [List.append_nil]
  exact h vs a ha

/-- Bind after a draft that binds nothing. -/
theorem bind_nil {f : α → Draft β} {mid : α → Prop} {post : List Value → β → Prop}
    (hx : Yields x fun vs a => vs = [] ∧ mid a) (hf : ∀ a, mid a → Yields (f a) post) :
    Yields (x >>= f) post := by
  refine bind' hx ?_
  rintro vs a ⟨rfl, ha⟩
  exact hf a ha

theorem fail (e : Error) : Yields (Draft.fail e : Draft α) post := by
  intro a h
  cases h

theorem fault (clause : ClauseName) (cause : ClauseFault) (path : List String) :
    Yields (Draft.fault clause cause path : Draft α) post :=
  fail _

theorem fault_bind (clause : ClauseName) (cause : ClauseFault) (path : List String)
    {f : α → Draft β} {post : List Value → β → Prop} :
    Yields (Draft.fault clause cause path >>= f) post := by
  intro b h
  cases h

/-- Bind after the hole for a value. -/
theorem bind_param {v : Value} {f : Sql → Draft β} {post : List Value → β → Prop}
    (hf : Yields (f .hole) fun ws b => post (v :: ws) b) : Yields (Draft.param v >>= f) post := by
  have hx : Yields (Draft.param v) fun vs sql => vs = [v] ∧ sql = .hole :=
    ok (gives_param v) ⟨rfl, rfl⟩
  refine bind' hx ?_
  rintro vs sql ⟨rfl, rfl⟩
  exact hf

/-- Bind after room for values. -/
theorem bind_params {vs : List Value} {f : Sql → Draft β} {post : List Value → β → Prop}
    (hf : Yields (f (.room vs.length)) fun ws b => post (vs ++ ws) b) :
    Yields (Draft.params vs >>= f) post := by
  have hx : Yields (Draft.params vs) fun ws sql => ws = vs ∧ sql = .room vs.length :=
    ok (gives_params vs) ⟨rfl, rfl⟩
  refine bind' hx ?_
  rintro ws sql ⟨rfl, rfl⟩
  exact hf

/-- Bind after a log record. -/
theorem bind_log {note : Note} {f : Unit → Draft β} {post : List Value → β → Prop}
    (hf : Yields (f ()) post) : Yields (Draft.log note >>= f) post := by
  have hx : Yields (Draft.log note) fun vs _ => vs = [] ∧ True :=
    ok ⟨rfl, rfl⟩ ⟨rfl, trivial⟩
  exact bind_nil hx fun _ _ => hf

theorem mapM {f : α → Draft β} {mid : α → List Value → β → Prop} {as : List α}
    (h : ∀ a ∈ as, Yields (f a) (mid a)) : Yields (as.mapM f) (Joint mid as) := by
  induction as with
  | nil =>
    rw [List.mapM_nil]
    exact pure' .nil
  | cons a rest ih =>
    rw [List.mapM_cons]
    obtain ⟨ha, hrest⟩ := List.forall_mem_cons.1 h
    refine bind' ha fun vs b hb => ?_
    exact bind_pure (ih hrest) fun ws bs hbs => .cons hb hbs

/-- Drafts in a row succeed only if each of them does. -/
theorem forall_mapM {f : α → Draft β} {p : α → Prop} {as : List α}
    (h : ∀ a ∈ as, Yields (f a) fun _ _ => p a) : Yields (as.mapM f) fun _ _ => ∀ a ∈ as, p a := by
  have hmap : Yields (as.mapM f) (Joint (fun a _ _ => p a) as) := mapM h
  refine hmap.mono fun vs bs hjoint => ?_
  clear h hmap
  induction hjoint with
  | nil => exact nofun
  | cons ha _ ih => exact List.forall_mem_cons.2 ⟨ha, ih⟩

end Yields

/-! ## Two drafts -/

/-- Whenever both drafts succeed, `R` relates their results, and they bind equally many values and
log the same records. -/
def Agree (R : α → β → Prop) (x : Draft α) (y : Draft β) : Prop :=
  ∀ a b, x.result = .ok a → y.result = .ok b →
    R a b ∧ x.bound.length = y.bound.length ∧ x.notes = y.notes

namespace Agree

variable {R : α → β → Prop} {S : γ → δ → Prop} {x : Draft α} {y : Draft β}

theorem ok {vs ws : List Value} {a : α} {b : β} (hx : x.Gives vs a) (hy : y.Gives ws b)
    (h : R a b) (hlength : vs.length = ws.length) (hnotes : x.notes = y.notes) : Agree R x y := by
  obtain ⟨ha, rfl⟩ := hx
  obtain ⟨hb, rfl⟩ := hy
  intro c d hc hd
  obtain rfl := Except.ok.inj (ha.symm.trans hc)
  obtain rfl := Except.ok.inj (hb.symm.trans hd)
  exact ⟨h, hlength, hnotes⟩

/-- A draft agrees with itself. -/
theorem refl (x : Draft α) : Agree Eq x x := by
  intro a b ha hb
  rw [ha] at hb
  exact ⟨Except.ok.inj hb, rfl, rfl⟩

/-- Bind; when the second drafts are looked at, the first ones have bound equally many values. -/
theorem bind' {f : α → Draft γ} {g : β → Draft δ} (hxy : Agree R x y)
    (hfg : ∀ a b, R a b → x.bound.length = y.bound.length → Agree S (f a) (g b)) :
    Agree S (x >>= f) (y >>= g) := by
  intro c d hc hd
  obtain ⟨a, ha, hfa, hboundx, hnotesx⟩ := result_bind hc
  obtain ⟨b, hb, hgb, hboundy, hnotesy⟩ := result_bind hd
  obtain ⟨hab, hlength, hnotes⟩ := hxy a b ha hb
  obtain ⟨hcd, hlength', hnotes'⟩ := hfg a b hab hlength c d hfa hgb
  refine ⟨hcd, ?_, by rw [hnotesx, hnotesy, hnotes, hnotes']⟩
  rw [hboundx, hboundy, List.length_append, List.length_append, hlength, hlength']

/-- Bind after equal results. -/
theorem bind_eq {x y : Draft α} {f g : α → Draft γ} (hxy : Agree Eq x y)
    (hfg : ∀ a, Agree Eq (f a) (g a)) : Agree Eq (x >>= f) (y >>= g) := by
  refine bind' hxy ?_
  rintro a _ rfl _
  exact hfg a

theorem fail_left (e : Error) (y : Draft β) : Agree R (Draft.fail e) y := by
  intro a b ha
  cases ha

theorem fail_right (x : Draft α) (e : Error) : Agree R x (Draft.fail e) := by
  intro a b _ hb
  cases hb

theorem param (v w : Value) : Agree Eq (Draft.param v) (Draft.param w) :=
  ok (gives_param v) (gives_param w) rfl rfl rfl

theorem params {vs ws : List Value} (h : vs.length = ws.length) :
    Agree Eq (Draft.params vs) (Draft.params ws) :=
  ok (gives_params vs) (gives_params ws) (congrArg Sql.room h) h rfl

theorem mapM {as : List α} {bs : List β} {f : α → Draft γ} {g : β → Draft γ}
    (h : List.Forall₂ (fun a b => Agree Eq (f a) (g b)) as bs) :
    Agree Eq (as.mapM f) (bs.mapM g) := by
  induction h with
  | nil =>
    rw [List.mapM_nil, List.mapM_nil]
    exact refl _
  | cons hab _ ih =>
    rw [List.mapM_cons, List.mapM_cons]
    exact bind_eq hab fun c => bind_eq ih fun cs => refl _

end Agree

end ParamSql.Draft
