import ParamSql.Proofs.Sql.Draft
import ParamSql.Proofs.Sql.Text
import ParamSql.Sql.Context

/-!
Runs of drafts and their accounts.

The account of a draft has holes where a run on a context has the placeholders that it was given
when it bound the values. The two come to the same only if the fragments take their parameters in
the order in which they were bound, each once, and none is lost with a fragment that is left out.
`Follows` says that a run does as an account tells. It has one rule for each way of making a draft,
and a draft that follows its own account behind any values is `InOrder`. Its runs are known then
(`InOrder.run_eq`): the texts are those of `Sql.write`, numbered from left to right.
-/

namespace ParamSql

namespace Sql

/-! ## Holes filled in -/

/-- Pieces with placeholders for the holes, behind `taken` parameters, and without room. -/
def fillPieces (taken : Nat) : List Piece → List Piece
  | [] => []
  | .text s :: rest => .text s :: fillPieces taken rest
  | .hole :: rest => .text (placeholder (taken + 1)) :: fillPieces (taken + 1) rest
  | .room count :: rest => fillPieces (taken + count) rest

def fill (taken : Nat) (sql : Sql) : Sql :=
  ⟨fillPieces taken sql.pieces⟩

def fillAll (taken : Nat) : List Sql → List Sql
  | [] => []
  | fragment :: rest => fragment.fill taken :: fillAll (taken + fragment.arity) rest

variable {a b : Sql} {fs gs : List Sql}

theorem fillPieces_append (taken : Nat) (ps qs : List Piece) :
    fillPieces taken (ps ++ qs) =
      fillPieces taken ps ++ fillPieces (taken + piecesArity ps) qs := by
  induction ps generalizing taken with
  | nil => rfl
  | cons p rest ih =>
    cases p <;> simp [fillPieces, piecesArity, Piece.arity, ih, Nat.add_assoc]

theorem fill_append (taken : Nat) (a b : Sql) :
    (a ++ b).fill taken = a.fill taken ++ b.fill (taken + a.arity) :=
  congrArg Sql.mk (fillPieces_append taken a.pieces b.pieces)

theorem fill_verbatim (taken : Nat) (s : String) : (verbatim s).fill taken = verbatim s := rfl

theorem piecesText_append (ps qs : List Piece) :
    piecesText (ps ++ qs) = piecesText ps ++ piecesText qs := by
  induction ps with
  | nil => exact String.empty_append.symm
  | cons p rest ih => cases p <;> simp [piecesText, ih, String.append_assoc]

theorem text_append (a b : Sql) : (a ++ b).text = a.text ++ b.text :=
  piecesText_append a.pieces b.pieces

theorem piecesText_fillPieces (taken : Nat) (ps : List Piece) :
    piecesText (fillPieces taken ps) = writePieces taken ps := by
  induction ps generalizing taken with
  | nil => rfl
  | cons p rest ih => cases p <;> simp [fillPieces, piecesText, writePieces, ih]

/-- The text of the filled fragment is what is written of the fragment. -/
theorem text_fill (taken : Nat) (a : Sql) : (a.fill taken).text = a.write taken :=
  piecesText_fillPieces taken a.pieces

/-- Whether there is something to see does not depend on the numbers. -/
theorem isBlankBy_fill {p : String → Bool} (hp : ∀ n, p (placeholder n) = false) (taken : Nat)
    (a : Sql) : (a.fill taken).isBlankBy p = a.isBlankBy p := by
  obtain ⟨ps⟩ := a
  rw [fill, isBlankBy, isBlankBy]
  dsimp only
  induction ps generalizing taken with
  | nil => rfl
  | cons piece rest ih =>
    cases piece with
    | text s => rw [fillPieces, List.all_cons, List.all_cons, ih]
    | hole =>
      rw [fillPieces, List.all_cons, List.all_cons]
      dsimp only
      rw [hp, Bool.false_and, Bool.false_and]
    | room count =>
      rw [fillPieces, List.all_cons, ih]
      rfl

theorem isEmpty_fill (taken : Nat) (a : Sql) : (a.fill taken).isEmpty = a.isEmpty :=
  isBlankBy_fill isEmpty_placeholder taken a

theorem fillAll_append (taken : Nat) (fs gs : List Sql) :
    fillAll taken (fs ++ gs) = fillAll taken fs ++ fillAll (taken + (fs.map arity).sum) gs := by
  induction fs generalizing taken with
  | nil => rfl
  | cons f rest ih =>
    rw [List.cons_append, fillAll, fillAll, ih, List.map_cons, List.sum_cons, List.cons_append,
      Nat.add_assoc]

theorem map_text_fillAll (taken : Nat) (fs : List Sql) :
    (fillAll taken fs).map text = writeAll taken fs := by
  induction fs generalizing taken with
  | nil => rfl
  | cons f rest ih => rw [fillAll, writeAll, List.map_cons, text_fill, ih]

theorem isEmpty_fillAll (taken : Nat) (fs : List Sql) :
    (fillAll taken fs).isEmpty = fs.isEmpty := by
  cases fs <;> rfl

theorem fill_joined (separator : String) (taken : Nat) (fs : List Sql) :
    (joined separator fs).fill taken = joined separator (fillAll taken fs) := by
  induction fs generalizing taken with
  | nil => rfl
  | cons f rest ih =>
    cases rest with
    | nil => rfl
    | cons g rest =>
      calc (joined separator (f :: g :: rest)).fill taken
          = (f ++ verbatim separator ++ joined separator (g :: rest)).fill taken := rfl
        _ = f.fill taken ++ verbatim separator ++
              joined separator (fillAll (taken + f.arity) (g :: rest)) := by
          rw [fill_append, fill_append, fill_verbatim, arity_append, arity_verbatim, ih,
            Nat.add_zero]
        _ = joined separator (fillAll taken (f :: g :: rest)) := rfl

/-! ## Fragments of a run -/

/-- `b` is the fragment `a` of an account as a run that binds `vs` behind `taken` values gives it.
A fragment without text stands for no value. -/
structure Fills (taken : Nat) (vs : List Value) (a b : Sql) : Prop where
  arity : a.arity = vs.length
  filled : b = a.fill taken
  shown : a.isEmpty = true → vs = []

/-- Fragments of an account one after another, as a run that binds `vs` gives them. -/
structure FillsAll (taken : Nat) (vs : List Value) (fs gs : List Sql) : Prop where
  total : (fs.map Sql.arity).sum = vs.length
  filled : gs = fillAll taken fs
  shown : ∀ f ∈ fs, f.isEmpty = true → f.arity = 0

section Fills

variable {taken : Nat} {vs ws : List Value} {a a' b b' : Sql} {fs fs' gs gs' : List Sql}

theorem isEmpty_append (a b : Sql) : (a ++ b).isEmpty = (a.isEmpty && b.isEmpty) :=
  isBlankBy_append String.isEmpty a b

theorem fills_empty : Fills taken [] empty empty :=
  ⟨rfl, rfl, fun _ => rfl⟩

theorem fills_verbatim (s : String) : Fills taken [] (verbatim s) (verbatim s) :=
  ⟨rfl, rfl, fun _ => rfl⟩

theorem Fills.append (ha : Fills taken vs a a') (hb : Fills (taken + vs.length) ws b b') :
    Fills taken (vs ++ ws) (a ++ b) (a' ++ b') := by
  refine ⟨?_, ?_, fun hempty => ?_⟩
  · rw [arity_append, ha.arity, hb.arity, List.length_append]
  · rw [fill_append, ha.arity, ← ha.filled, ← hb.filled]
  · rw [isEmpty_append, Bool.and_eq_true] at hempty
    rw [ha.shown hempty.1, hb.shown hempty.2, List.append_nil]

theorem Fills.text_append (s : String) (ha : Fills taken vs a a') :
    Fills taken vs (verbatim s ++ a) (verbatim s ++ a') :=
  (fills_verbatim s).append ha

theorem Fills.append_text (ha : Fills taken vs a a') (s : String) :
    Fills taken vs (a ++ verbatim s) (a' ++ verbatim s) := by
  have h := ha.append (fills_verbatim s)
  rwa [List.append_nil] at h

/-- Any fragment between two texts, of which the second one is not empty. -/
theorem fills_between (s : String) {t : String} (ht : t.isEmpty = false)
    (harity : a.arity = vs.length) :
    Fills taken vs (verbatim s ++ a ++ verbatim t) (verbatim s ++ a.fill taken ++ verbatim t) := by
  refine ⟨?_, ?_, fun hempty => ?_⟩
  · rw [arity_append, arity_append, arity_verbatim, arity_verbatim, harity, Nat.zero_add,
      Nat.add_zero]
  · rw [fill_append, fill_append, fill_verbatim, fill_verbatim, arity_verbatim, Nat.add_zero]
  · have hshown : (verbatim t).isEmpty = t.isEmpty := Bool.and_true _
    rw [isEmpty_append, hshown, ht, Bool.and_false] at hempty
    cases hempty

theorem Fills.text_eq (ha : Fills taken vs a a') : a'.text = a.write taken := by
  rw [ha.filled, text_fill]

theorem Fills.isEmpty_eq (ha : Fills taken vs a a') : a'.isEmpty = a.isEmpty := by
  rw [ha.filled, isEmpty_fill]

/-- A heading that is left out with a fragment without text. -/
theorem Fills.headed (ha : Fills taken vs a a') (s : String) :
    Fills taken vs (if a.isEmpty then empty else verbatim s ++ a)
      (if a'.isEmpty then empty else verbatim s ++ a') := by
  rw [ha.isEmpty_eq]
  split
  · next hempty =>
    rw [ha.shown hempty]
    exact fills_empty
  · exact ha.text_append s

theorem fillsAll_nil : FillsAll taken [] [] [] :=
  ⟨rfl, rfl, nofun⟩

theorem FillsAll.cons (ha : Fills taken vs a a') (hfs : FillsAll (taken + vs.length) ws fs fs') :
    FillsAll taken (vs ++ ws) (a :: fs) (a' :: fs') := by
  refine ⟨?_, ?_, List.forall_mem_cons.2 ⟨fun hempty => ?_, hfs.shown⟩⟩
  · rw [List.map_cons, List.sum_cons, hfs.total, ha.arity, List.length_append]
  · rw [fillAll, ha.arity, ← ha.filled, ← hfs.filled]
  · rw [ha.arity, ha.shown hempty, List.length_nil]

theorem fillsAll_singleton (ha : Fills taken vs a a') : FillsAll taken vs [a] [a'] := by
  have h := FillsAll.cons ha fillsAll_nil
  rwa [List.append_nil] at h

theorem FillsAll.append (hfs : FillsAll taken vs fs fs')
    (hgs : FillsAll (taken + vs.length) ws gs gs') :
    FillsAll taken (vs ++ ws) (fs ++ gs) (fs' ++ gs') := by
  refine ⟨?_, ?_, fun f hf => ?_⟩
  · rw [List.map_append, List.sum_append, hfs.total, hgs.total, List.length_append]
  · rw [fillAll_append, hfs.total, ← hfs.filled, ← hgs.filled]
  · exact (List.mem_append.1 hf).elim (hfs.shown f) (hgs.shown f)

theorem isEmpty_of_isEmpty_joined {separator : String} (h : (joined separator fs).isEmpty = true) :
    ∀ f ∈ fs, f.isEmpty = true := by
  induction fs with
  | nil => exact nofun
  | cons f rest ih =>
    cases rest with
    | nil => exact List.forall_mem_singleton.2 h
    | cons g rest =>
      change (f ++ verbatim separator ++ Sql.joined separator (g :: rest)).isEmpty = true at h
      rw [isEmpty_append, isEmpty_append, Bool.and_eq_true, Bool.and_eq_true] at h
      exact List.forall_mem_cons.2 ⟨h.1.1, ih h.2⟩

theorem FillsAll.isEmpty_eq (h : FillsAll taken vs fs fs') : fs'.isEmpty = fs.isEmpty := by
  rw [h.filled, isEmpty_fillAll]

/-- No fragments stand for no values. -/
theorem FillsAll.eq_nil (h : FillsAll taken vs fs fs') (hnone : fs.isEmpty = true) : vs = [] := by
  have htotal := h.total
  rw [List.isEmpty_iff.1 hnone] at htotal
  exact List.eq_nil_of_length_eq_zero htotal.symm

theorem FillsAll.joined (h : FillsAll taken vs fs fs') (separator : String) :
    Fills taken vs (joined separator fs) (joined separator fs') := by
  refine ⟨?_, ?_, fun hempty => ?_⟩
  · rw [arity_joined, h.total]
  · rw [fill_joined, ← h.filled]
  · have hnone : ∀ n ∈ fs.map Sql.arity, n = 0 := List.forall_mem_map.2 fun f hf =>
      h.shown f hf (isEmpty_of_isEmpty_joined hempty f hf)
    rw [← List.length_eq_zero_iff, ← h.total]
    exact List.sum_eq_zero_iff_forall_eq_nat.2 hnone

/-- Fragments without text may be left out before the holes are filled in or afterwards. -/
theorem fillAll_nonEmpty (h : ∀ f ∈ fs, f.isEmpty = true → f.arity = 0) (taken : Nat) :
    fillAll taken (Sql.nonEmpty fs) = Sql.nonEmpty (fillAll taken fs) := by
  induction fs generalizing taken with
  | nil => rfl
  | cons f rest ih =>
    obtain ⟨hf, hrest⟩ := List.forall_mem_cons.1 h
    have hfilled : (f.fill taken).isEmpty = f.isEmpty := isEmpty_fill taken f
    cases hempty : f.isEmpty with
    | true =>
      calc fillAll taken (Sql.nonEmpty (f :: rest))
          = fillAll taken (Sql.nonEmpty rest) := by simp [Sql.nonEmpty, hempty]
        _ = Sql.nonEmpty (fillAll (taken + f.arity) rest) := by
          rw [ih hrest, hf hempty, Nat.add_zero]
        _ = Sql.nonEmpty (fillAll taken (f :: rest)) := by
          simp [Sql.nonEmpty, fillAll, hfilled, hempty]
    | false =>
      calc fillAll taken (Sql.nonEmpty (f :: rest))
          = f.fill taken :: Sql.nonEmpty (fillAll (taken + f.arity) rest) := by
            rw [← ih hrest]
            simp [Sql.nonEmpty, hempty, fillAll]
        _ = Sql.nonEmpty (fillAll taken (f :: rest)) := by
          simp [Sql.nonEmpty, fillAll, hfilled, hempty]

theorem FillsAll.nonEmpty (h : FillsAll taken vs fs fs') :
    FillsAll taken vs (nonEmpty fs) (nonEmpty fs') := by
  refine ⟨?_, ?_, fun f hf => h.shown f (List.mem_of_mem_filter hf)⟩
  · rw [sum_arity_nonEmpty h.shown, h.total]
  · rw [fillAll_nonEmpty h.shown, ← h.filled]

end Fills

end Sql

theorem Context.append_append (context : Context) (vs ws : List Value) :
    (context.append vs).append ws = context.append (vs ++ ws) := by
  rw [append, append, append, List.append_assoc]

namespace Draft

variable {α β γ : Type}

/-! ## Runs of one draft after another -/

section Bind

variable {x : Draft α} {f : α → Draft β}

/-- After a success the second draft is run on the context that the first one leaves. -/
theorem run_bind_ok {context : Context} {a : α} (h : (x.run context).result = .ok a) :
    (x >>= f).run context =
      { (f a).run (x.run context).context with
        notes := (x.run context).notes ++ ((f a).run (x.run context).context).notes } := by
  change (andThen x f).run context = _
  induction x generalizing context with
  | done b =>
    obtain rfl := Except.ok.inj h
    rfl
  | fail e => cases h
  | noting note next ih =>
    rw [andThen, run, ih h]
    rfl
  | binding v next ih => exact ih _ h
  | extending vs next ih => exact ih _ h

/-- An error ends the run, with the context as it is by then. -/
theorem run_bind_error {context : Context} {e : Error} (h : (x.run context).result = .error e) :
    (x >>= f).run context = ⟨(x.run context).context, (x.run context).notes, .error e⟩ := by
  change (andThen x f).run context = _
  induction x generalizing context with
  | done b => cases h
  | fail e =>
    obtain rfl := Except.error.inj h
    rfl
  | noting note next ih =>
    rw [andThen, run, ih h]
    rfl
  | binding v next ih => exact ih _ h
  | extending vs next ih => exact ih _ h

/-- A run of two drafts succeeds through successes of both. -/
theorem run_bind_eq_ok {context : Context} {b : β} (h : ((x >>= f).run context).result = .ok b) :
    ∃ a, (x.run context).result = .ok a ∧
      ((f a).run (x.run context).context).result = .ok b := by
  cases hx : (x.run context).result with
  | ok a =>
    rw [run_bind_ok hx] at h
    exact ⟨a, rfl, h⟩
  | error e =>
    rw [run_bind_error hx] at h
    cases h

end Bind

/-! ## Runs that follow accounts -/

/-- The same error, or results of which `post` holds. -/
inductive Ends (post : α → α → Prop) : Except Error α → Except Error α → Prop where
  | ok {a b : α} (h : post a b) : Ends post (.ok a) (.ok b)
  | error (e : Error) : Ends post (.error e) (.error e)

theorem Ends.mono {mid post : α → α → Prop} {r r' : Except Error α} (h : Ends mid r r')
    (hmid : ∀ a b, mid a b → post a b) : Ends post r r' := by
  cases h with
  | ok h => exact .ok (hmid _ _ h)
  | error e => exact .error e

/-- Results that are known from those of the account. -/
theorem Ends.eq_map {post : α → α → Prop} {g : α → α} {r r' : Except Error α}
    (h : Ends post r r') (hpost : ∀ a b, post a b → b = g a) : r' = r.map g := by
  cases h with
  | ok h => exact congrArg Except.ok (hpost _ _ h)
  | error e => rfl

/-- The run on a context does as the account of `x` tells: it puts the values told behind those
that are there, logs the records told, and ends alike. -/
structure Told (x : Draft α) (post : List Value → α → α → Prop) (context : Context)
    (run : Run α) : Prop where
  context : run.context = context.append x.bound
  notes : run.notes = x.notes
  result : Ends (post x.bound) x.result run.result

/-- A run that is known from the account. -/
theorem Told.eq {x : Draft α} {post : List Value → α → α → Prop} {context : Context} {run : Run α}
    (h : Told x post context run) {g : α → α} (hpost : ∀ vs a b, post vs a b → b = g a) :
    run = ⟨context.append x.bound, x.notes, x.result.map g⟩ := by
  obtain ⟨hcontext, hnotes, hresult⟩ := h
  rw [← hcontext, ← hnotes, ← hresult.eq_map (hpost _)]

/-- Behind `taken` values, `y` runs as the account of `x` tells. -/
def Follows (taken : Nat) (x y : Draft α) (post : List Value → α → α → Prop) : Prop :=
  ∀ context : Context, context.values.length = taken → Told x post context (y.run context)

namespace Follows

variable {taken : Nat} {x y : Draft α} {f g : α → Draft β} {post : List Value → α → α → Prop}

theorem pure' {a b : α} (h : post [] a b) : Follows taken (pure a) (pure b) post := by
  intro context _
  refine ⟨?_, rfl, .ok h⟩
  change context = { context with values := context.values ++ [] }
  rw [List.append_nil]

theorem fail (e : Error) : Follows taken (Draft.fail e : Draft α) (Draft.fail e) post := by
  intro context _
  refine ⟨?_, rfl, .error e⟩
  change context = { context with values := context.values ++ [] }
  rw [List.append_nil]

theorem fault (clause : ClauseName) (cause : ClauseFault) (path : List String) :
    Follows taken (Draft.fault clause cause path : Draft α) (Draft.fault clause cause path) post :=
  fail _

theorem bind' {mid : List Value → α → α → Prop} {post : List Value → β → β → Prop}
    (hxy : Follows taken x y mid)
    (hfg : ∀ vs a b, mid vs a b →
      Follows (taken + vs.length) (f a) (g b) fun ws c d => post (vs ++ ws) c d) :
    Follows taken (x >>= f) (y >>= g) post := by
  intro context htaken
  obtain ⟨hcontext, hnotes, hresult⟩ := hxy context htaken
  generalize hx : x.result = r at hresult
  generalize hy : (y.run context).result = r' at hresult
  cases hresult with
  | error e =>
    obtain ⟨hfailed, hbound, hlogged⟩ := bind_of_error (f := f) hx
    rw [run_bind_error hy]
    refine ⟨?_, ?_, ?_⟩
    · rw [hbound, ← hcontext]
    · rw [hlogged, ← hnotes]
    · rw [hfailed]
      exact .error e
  | @ok a b hmid =>
    obtain ⟨hgiven, hbound, hlogged⟩ := bind_of_ok (f := f) hx
    have hlength : (y.run context).context.values.length = taken + x.bound.length := by
      rw [hcontext, Context.append, List.length_append, htaken]
    obtain ⟨hcontext', hnotes', hresult'⟩ := hfg _ a b hmid _ hlength
    rw [run_bind_ok hy]
    refine ⟨?_, ?_, ?_⟩
    · rw [hbound, ← Context.append_append, ← hcontext, ← hcontext']
    · rw [hlogged, ← hnotes, ← hnotes']
    · rw [hgiven, hbound]
      exact hresult'

theorem mono {mid : List Value → α → α → Prop} (hxy : Follows taken x y mid)
    (h : ∀ vs a b, mid vs a b → post vs a b) : Follows taken x y post := by
  intro context htaken
  obtain ⟨hcontext, hnotes, hresult⟩ := hxy context htaken
  exact ⟨hcontext, hnotes, hresult.mono (h x.bound)⟩

/-- What is bound is what the account tells. -/
theorem bound (hxy : Follows taken x y post) :
    Follows taken x y fun vs a b => vs = x.bound ∧ post vs a b := by
  intro context htaken
  obtain ⟨hcontext, hnotes, hresult⟩ := hxy context htaken
  exact ⟨hcontext, hnotes, hresult.mono fun _ _ h => ⟨rfl, h⟩⟩

/-- A last step behind values that are bound already. -/
theorem pure_behind {vs : List Value} {a b : α} (h : post vs a b) :
    Follows taken (pure a) (pure b) fun ws c d => post (vs ++ ws) c d :=
  pure' (by rwa [List.append_nil])

/-- A last step that only makes something of the result. -/
theorem bind_pure {f g : α → β} {mid : List Value → α → α → Prop}
    {post : List Value → β → β → Prop} (hxy : Follows taken x y mid)
    (h : ∀ vs a b, mid vs a b → post vs (f a) (g b)) :
    Follows taken (x >>= fun a => pure (f a)) (y >>= fun b => pure (g b)) post :=
  bind' hxy fun vs a b hmid => pure_behind (h vs a b hmid)

/-- The placeholder handed to a run is that of the hole in the account. -/
theorem param (v : Value) : Follows taken (Draft.param v) (Draft.param v) (Sql.Fills taken) := by
  rintro context rfl
  refine ⟨rfl, rfl, .ok ⟨rfl, ?_, nofun⟩⟩
  show Sql.verbatim (Sql.placeholder (context.values ++ [v]).length) = _
  rw [List.length_append]
  rfl

/-- The room of values that a verbatim text numbers itself is left out of a run. -/
theorem params (vs : List Value) :
    Follows taken (Draft.params vs) (Draft.params vs) fun ws a b =>
      ws = vs ∧ a = .room vs.length ∧ b = .empty := by
  intro context _
  have hbound : (Draft.params vs).bound = vs := List.append_nil vs
  exact ⟨by rw [hbound]; rfl, rfl, .ok ⟨hbound, rfl, rfl⟩⟩

theorem log (note : Note) {post : List Value → Unit → Unit → Prop} (h : post [] () ()) :
    Follows taken (Draft.log note) (Draft.log note) post := by
  intro context _
  refine ⟨?_, rfl, .ok h⟩
  change context = { context with values := context.values ++ [] }
  rw [List.append_nil]

end Follows

/-! ## Drafts that bind nothing -/

/-- The draft binds nothing and gives the same everywhere. -/
def Bare (x : Draft α) : Prop :=
  ∀ taken, Follows taken x x fun vs a b => vs = [] ∧ b = a

namespace Bare

variable {x : Draft α} {f g : α → Draft β}

theorem pure' (a : α) : (pure a : Draft α).Bare :=
  fun _ => .pure' ⟨rfl, rfl⟩

theorem fail (e : Error) : (Draft.fail e : Draft α).Bare :=
  fun _ => .fail e

theorem fault (clause : ClauseName) (cause : ClauseFault) (path : List String) :
    (Draft.fault clause cause path : Draft α).Bare :=
  fun _ => .fault _ _ _

theorem log (note : Note) : (Draft.log note).Bare :=
  fun _ => .log note ⟨rfl, rfl⟩

/-- Whatever stands behind a draft that binds nothing follows behind the same values. -/
theorem follows {taken : Nat} {post : List Value → β → β → Prop} (hx : x.Bare)
    (hfg : ∀ a, Follows taken (f a) (g a) post) : Follows taken (x >>= f) (x >>= g) post := by
  refine .bind' (hx taken) ?_
  rintro vs a b ⟨rfl, rfl⟩
  exact hfg b

theorem bind' (hx : x.Bare) (hf : ∀ a, (f a).Bare) : (x >>= f).Bare :=
  fun taken => hx.follows fun a => hf a taken

theorem mapM {f : α → Draft β} (h : ∀ a, (f a).Bare) (as : List α) : (as.mapM f).Bare := by
  induction as with
  | nil => exact pure' _
  | cons a rest ih =>
    rw [List.mapM_cons]
    exact (h a).bind' fun b => ih.bind' fun bs => pure' _

end Bare

/-! ## Drafts in order -/

/-- Wherever it stands, the draft gives what its account tells: the numbers that the values get when
they are bound are those of the holes from left to right. -/
def InOrder (x : Draft Sql) : Prop :=
  ∀ taken, Follows taken x x (Sql.Fills taken)

def InOrderAll (x : Draft (List Sql)) : Prop :=
  ∀ taken, Follows taken x x (Sql.FillsAll taken)

namespace InOrder

theorem verbatim (s : String) : InOrder (pure (.verbatim s)) :=
  fun _ => .pure' (Sql.fills_verbatim s)

theorem fault (clause : ClauseName) (cause : ClauseFault) (path : List String) :
    InOrder (Draft.fault clause cause path) :=
  fun _ => .fault _ _ _

theorem param (v : Value) : InOrder (Draft.param v) :=
  fun _ => .param v

theorem bare {x : Draft α} {f : α → Draft Sql} (hx : x.Bare) (hf : ∀ a, (f a).InOrder) :
    (x >>= f).InOrder :=
  fun taken => hx.follows fun a => hf a taken

/-- A last step that keeps the parameters of the fragment. -/
theorem map {x : Draft Sql} {f : Sql → Sql} (hx : x.InOrder)
    (hf : ∀ {taken vs a b}, Sql.Fills taken vs a b → Sql.Fills taken vs (f a) (f b)) :
    (x >>= fun a => pure (f a)).InOrder :=
  fun taken => (hx taken).bind_pure fun _ _ _ => hf

theorem singleton {x : Draft Sql} (hx : x.InOrder) :
    (x >>= fun sql => pure [sql]).InOrderAll :=
  fun taken => (hx taken).bind_pure fun _ _ _ h => Sql.fillsAll_singleton h

/-- A success in the account, as it is behind `taken` values. -/
theorem yields {x : Draft Sql} (hx : x.InOrder) (taken : Nat) :
    x.Yields fun vs a => Sql.Fills taken vs a (a.fill taken) := by
  intro a ha
  let context : Context := ⟨List.replicate taken .null, false⟩
  obtain ⟨-, -, hresult⟩ := hx taken context List.length_replicate
  rw [ha] at hresult
  generalize (x.run context).result = r at hresult
  cases hresult with
  | ok h => exact h.filled ▸ h

/-- The run of a draft in order on any context. -/
theorem run_eq {x : Draft Sql} (hx : x.InOrder) (context : Context) :
    x.run context =
      ⟨context.append x.bound, x.notes, x.result.map (Sql.fill context.values.length)⟩ :=
  (hx _ context rfl).eq fun _ _ _ h => h.filled

/-- What succeeds in a run succeeds in the account. -/
theorem of_run_ok {x : Draft Sql} (hx : x.InOrder) {context : Context} {b : Sql}
    (h : (x.run context).result = .ok b) :
    ∃ a, x.result = .ok a ∧ Sql.Fills context.values.length x.bound a b := by
  obtain ⟨-, -, hresult⟩ := hx _ context rfl
  rw [h] at hresult
  generalize x.result = r at hresult
  cases hresult with
  | ok hfills => exact ⟨_, rfl, hfills⟩

end InOrder

namespace InOrderAll

variable {x y : Draft (List Sql)}

theorem nil : InOrderAll (pure []) :=
  fun _ => .pure' Sql.fillsAll_nil

theorem fault (clause : ClauseName) (cause : ClauseFault) (path : List String) :
    InOrderAll (Draft.fault clause cause path) :=
  fun _ => .fault _ _ _

theorem bare {x : Draft α} {f : α → Draft (List Sql)} (hx : x.Bare)
    (hf : ∀ a, (f a).InOrderAll) : (x >>= f).InOrderAll :=
  fun taken => hx.follows fun a => hf a taken

theorem append (hx : x.InOrderAll) (hy : y.InOrderAll) :
    (x >>= fun before => y >>= fun behind => pure (before ++ behind)).InOrderAll :=
  fun taken => .bind' (hx taken) fun _ _ _ h =>
    (hy _).bind_pure fun _ _ _ h' => h.append h'

theorem joined (hx : x.InOrderAll) (separator : String) :
    (x >>= fun fragments => pure (Sql.joined separator fragments)).InOrder :=
  fun taken => (hx taken).bind_pure fun _ _ _ h => h.joined separator

theorem mapM {f : α → Draft Sql} {as : List α} (h : ∀ a ∈ as, (f a).InOrder) :
    (as.mapM f).InOrderAll := by
  induction as with
  | nil => exact nil
  | cons a rest ih =>
    obtain ⟨ha, hrest⟩ := List.forall_mem_cons.1 h
    rw [List.mapM_cons]
    exact fun taken => .bind' (ha taken) fun _ _ _ hfirst =>
      (ih hrest _).bind_pure fun _ _ _ hothers => .cons hfirst hothers

/-- The texts of a draft in order are numbered from left to right, behind the values of the
context. -/
theorem perform_eq (hx : x.InOrderAll) (context : Context) :
    context.perform x =
      (context.append x.bound, x.result.map (Sql.writeAll context.values.length)) := by
  rw [Context.perform, (hx _ context rfl).eq fun _ _ _ h => h.filled]
  cases x.result with
  | ok fs => exact congrArg (fun texts => (_, Except.ok texts)) (Sql.map_text_fillAll _ fs)
  | error e => rfl

end InOrderAll

end Draft

end ParamSql
