import ParamSql.Sorting.Run

/-!
Sorting succeeds if any two of the keys can be compared.

`Comparable` says so of the keys that satisfy a property. Every step of the sort compares such keys
only and hands on such keys only, so it succeeds, and so does the whole (`sort?_succeeds`).
-/

namespace ParamSql.Sorting

variable {α β γ : Type}

/-! ## Results that are there -/

/-- The result is there, and `post` holds of it. -/
def Succeeds (x : Option β) (post : β → Prop) : Prop :=
  ∃ b, x = some b ∧ post b

namespace Succeeds

variable {x : Option β} {f : β → Option γ} {mid : β → Prop} {post : γ → Prop}

theorem some' {c : γ} (h : post c) : Succeeds (some c) post :=
  ⟨c, rfl, h⟩

theorem bind' (hx : Succeeds x mid) (hf : ∀ b, mid b → Succeeds (f b) post) :
    Succeeds (x >>= f) post := by
  obtain ⟨b, rfl, hb⟩ := hx
  exact hf b hb

theorem map' {f : β → γ} (hx : Succeeds x fun _ => True) : Succeeds (x.map f) fun _ => True := by
  obtain ⟨b, rfl, -⟩ := hx
  exact some' trivial

theorem ite' {c : Prop} [Decidable c] {y z : Option γ} (hy : c → Succeeds y post)
    (hz : ¬c → Succeeds z post) : Succeeds (if c then y else z) post := by
  by_cases h : c
  · simpa only [if_pos h] using hy h
  · simpa only [if_neg h] using hz h

end Succeeds

/-! ## Counting -/

def Decides (passes? : α → Option Bool) (keys : List α) : Prop :=
  ∀ key ∈ keys, Succeeds (passes? key) fun _ => True

theorem Decides.subset {passes? : α → Option Bool} {keys keys' : List α}
    (h : Decides passes? keys) (hsub : keys' ⊆ keys) : Decides passes? keys' :=
  fun key hkey => h key (hsub hkey)

theorem Decides.of_drop {passes? : α → Option Bool} {keys others : List α} {key : α} {n : Nat}
    (h : Decides passes? keys) (hdrop : keys.drop n = key :: others) :
    Succeeds (passes? key) (fun _ => True) ∧ Decides passes? others := by
  have hall : Decides passes? (key :: others) := by
    rw [← hdrop]
    exact h.subset (List.drop_subset n keys)
  exact ⟨hall key List.mem_cons_self, hall.subset (List.subset_cons_self key others)⟩

theorem countHalving?_succeeds {side : Side} {passes? : α → Option Bool} {keys : List α}
    (h : Decides passes? keys) : Succeeds (countHalving? side passes? keys) fun _ => True := by
  induction hn : keys.length using Nat.strongRecOn generalizing keys with
  | ind n ih =>
    rw [countHalving?]
    split
    · exact .some' trivial
    · next key others hdrop =>
      have hlength := length_of_drop hdrop
      obtain ⟨hkey, hothers⟩ := h.of_drop hdrop
      refine hkey.bind' fun passes _ => .ite' (fun _ => ?_) fun _ => ?_
      · exact (ih others.length (by omega) hothers rfl).bind' fun _ _ => .some' trivial
      · refine ih _ ?_ (h.subset (List.take_subset _ keys)) rfl
        rw [List.length_take]
        omega

theorem countGalloping?_succeeds {side : Side} {passes? : α → Option Bool} {passed : Nat}
    {keys : List α} (h : Decides passes? keys) :
    Succeeds (countGalloping? side passes? passed keys) fun _ => True := by
  induction hn : keys.length using Nat.strongRecOn generalizing keys passed with
  | ind n ih =>
    rw [countGalloping?]
    dsimp only
    split
    · exact countHalving?_succeeds h
    · next key others hdrop =>
      have hlength := length_of_drop hdrop
      obtain ⟨hkey, hothers⟩ := h.of_drop hdrop
      refine hkey.bind' fun passes _ => .ite' (fun _ => ?_) fun _ => ?_
      · exact (ih others.length (by omega) hothers rfl).bind' fun _ _ => .some' trivial
      · exact countHalving?_succeeds (h.subset (List.take_subset _ keys))

theorem gallop?_succeeds {side : Side} {passes? : α → Option Bool} {keys : List α}
    (h : Decides passes? keys) : Succeeds (gallop? side passes? keys) fun _ => True :=
  countGalloping?_succeeds h

/-! ## Merging -/

section Merging

variable (less? : α → α → Option Bool) (P : α → Prop)

def Comparable : Prop :=
  ∀ a b, P a → P b → Succeeds (less? a b) fun _ => True

def Keeps (merged : Merged α) : Prop :=
  ∀ key ∈ merged.keys, P key

variable {less? P} {left right : List α}

theorem Keeps.prepend {keys : List α} {merged : Merged α} (h : Keeps P merged)
    (hkeys : ∀ key ∈ keys, P key) : Keeps P (merged.prepend keys) :=
  List.forall_mem_append.2 ⟨hkeys, h⟩

theorem rightFirst?_succeeds (h : Comparable less? P) (side : Side) {a b : α} (ha : P a)
    (hb : P b) : Succeeds (rightFirst? less? side a b) fun _ => True :=
  (h b a hb ha).map'

theorem mergeOn?_succeeds (h : Comparable less? P) {side : Side} {patience : Nat} {pace : Pace}
    (hleft : ∀ key ∈ left, P key) (hright : ∀ key ∈ right, P key) :
    Succeeds (mergeOn? less? side patience pace left right) (Keeps P) := by
  induction hn : left.length + right.length using Nat.strongRecOn
    generalizing left right patience pace with
  | ind n ih =>
    rw [mergeOn?.eq_def]
    split
    · next a as b bs =>
      obtain ⟨ha, has⟩ := List.forall_mem_cons.1 hleft
      obtain ⟨hb, hbs⟩ := List.forall_mem_cons.1 hright
      simp only [List.length_cons] at hn
      -- What is merged further is shorter by the key that is taken at least.
      have hrest : ∀ {patience : Nat} {pace : Pace} {left right taken : List α},
          left.length + right.length < n → (∀ key ∈ left, P key) → (∀ key ∈ right, P key) →
          (∀ key ∈ taken, P key) →
          Succeeds (mergeOn? less? side patience pace left right >>= fun rest =>
            some (rest.prepend taken)) (Keeps P) := by
        intro patience pace left right taken hlength hleft hright htaken
        refine (ih _ hlength hleft hright rfl).bind' fun rest hkeeps => ?_
        exact .some' (hkeeps.prepend htaken)
      refine .ite' (fun _ => ?_) fun _ => .ite' (fun _ => ?_) fun _ => ?_
      · exact .some' (List.forall_mem_append.2 ⟨hright, List.forall_mem_singleton.2 ha⟩)
      · exact .some' (List.forall_mem_append.2 ⟨hleft, List.forall_mem_singleton.2 hb⟩)
      split
      · refine (rightFirst?_succeeds h side ha hb).bind' fun before _ => ?_
        refine .ite' (fun _ => ?_) fun _ => ?_
        · exact hrest (by simp only [List.length_cons]; omega) hleft hbs
            (List.forall_mem_singleton.2 hb)
        · exact hrest (by simp only [List.length_cons]; omega) has hright
            (List.forall_mem_singleton.2 ha)
      · have hdecides : Decides (fun x => (rightFirst? less? side x b).map not) (a :: as) :=
          fun key hkey => (rightFirst?_succeeds h side (hleft key hkey) hb).map'
        refine (gallop?_succeeds hdecides).bind' fun lefts _ => ?_
        refine hrest (by simp only [List.length_drop, List.length_cons]; omega) ?_ hbs ?_
        · exact fun key hkey => hleft key (List.mem_of_mem_drop hkey)
        · refine List.forall_mem_append.2 ⟨?_, List.forall_mem_singleton.2 hb⟩
          exact fun key hkey => hleft key (List.mem_of_mem_take hkey)
      · have hdecides : Decides (rightFirst? less? side a) (b :: bs) :=
          fun key hkey => rightFirst?_succeeds h side ha (hright key hkey)
        refine (gallop?_succeeds hdecides).bind' fun rights _ => ?_
        refine hrest (by simp only [List.length_drop, List.length_cons]; omega) has ?_ ?_
        · exact fun key hkey => hright key (List.mem_of_mem_drop hkey)
        · refine List.forall_mem_append.2 ⟨?_, List.forall_mem_singleton.2 ha⟩
          exact fun key hkey => hright key (List.mem_of_mem_take hkey)
    · exact .some' (List.forall_mem_append.2 ⟨hleft, hright⟩)

theorem mergeOverlap?_succeeds (h : Comparable less? P) {patience : Nat}
    (hleft : ∀ key ∈ left, P key) (hright : ∀ key ∈ right, P key) :
    Succeeds (mergeOverlap? less? patience left right) (Keeps P) := by
  rw [mergeOverlap?]
  refine .ite' (fun _ => ?_) fun _ => ?_
  · have hdrop : ∀ key ∈ right.drop 1, P key :=
      fun key hkey => hright key (List.mem_of_mem_drop hkey)
    refine (mergeOn?_succeeds h hleft hdrop).bind' fun rest hkeeps => ?_
    exact .some' (hkeeps.prepend fun key hkey => hright key (List.mem_of_mem_take hkey))
  · have hreverse : ∀ key ∈ left.reverse, P key :=
      fun key hkey => hleft key (List.mem_reverse.1 hkey)
    have hdrop : ∀ key ∈ left.reverse.drop 1, P key :=
      fun key hkey => hreverse key (List.mem_of_mem_drop hkey)
    refine (mergeOn?_succeeds h hdrop fun key hkey => hright key (List.mem_reverse.1 hkey)).bind'
      fun rest hkeeps => .some' ?_
    have hall := hkeeps.prepend fun key (hkey : key ∈ left.reverse.take 1) =>
      hreverse key (List.mem_of_mem_take hkey)
    exact fun key hkey => hall key (List.mem_reverse.1 hkey)

theorem merge?_succeeds (h : Comparable less? P) {patience : Nat}
    (hleft : ∀ key ∈ left, P key) (hright : ∀ key ∈ right, P key) :
    Succeeds (merge? less? patience left right) (Keeps P) := by
  rw [merge?.eq_def]
  split
  · exact .some' hleft
  · next first others =>
    have hfirst := hright first List.mem_cons_self
    have hdecides : Decides (fun x => (less? first x).map not) left :=
      fun key hkey => (h first key hfirst (hleft key hkey)).map'
    refine (gallop?_succeeds hdecides).bind' fun before _ => ?_
    split
    · exact .some' (List.forall_mem_append.2 ⟨hleft, hright⟩)
    · next last hlast =>
      have hlater : P last := hleft last (List.mem_of_mem_drop (List.mem_of_getLast? hlast))
      have hdecides' : Decides (fun x => (less? x last).map not) (first :: others).reverse :=
        fun key hkey => (h key last (hright key (List.mem_reverse.1 hkey)) hlater).map'
      refine (gallop?_succeeds hdecides').bind' fun behind _ => .ite' (fun _ => ?_) fun _ => ?_
      · exact .some' (List.forall_mem_append.2 ⟨hleft, hright⟩)
      · refine (mergeOverlap?_succeeds h (fun key hkey => hleft key (List.mem_of_mem_drop hkey))
          fun key hkey => hright key (List.mem_of_mem_take hkey)).bind' fun merged hkeeps => ?_
        refine .some' (List.forall_mem_append.2 ⟨List.forall_mem_append.2 ⟨?_, hkeeps⟩, ?_⟩)
        · exact fun key hkey => hleft key (List.mem_of_mem_take hkey)
        · exact fun key hkey => hright key (List.mem_of_mem_drop hkey)

/-! ## Runs -/

theorem runAfter?_succeeds (h : Comparable less? P) (falling : Bool) {last : α} (hlast : P last)
    {keys : List α} (hkeys : ∀ key ∈ keys, P key) :
    Succeeds (runAfter? less? falling last keys) fun _ => True := by
  induction keys generalizing last with
  | nil => exact .some' trivial
  | cons key others ih =>
    obtain ⟨hkey, hothers⟩ := List.forall_mem_cons.1 hkeys
    rw [runAfter?]
    refine (h key last hkey hlast).bind' fun before _ => .ite' (fun _ => ?_) fun _ => ?_
    · exact (ih hkey hothers).bind' fun _ _ => .some' trivial
    · exact .some' trivial

theorem insert?_succeeds (h : Comparable less? P) {sorted : List α} {key : α} (hkey : P key)
    (hsorted : ∀ other ∈ sorted, P other) :
    Succeeds (insert? less? sorted key) fun keys => ∀ other ∈ keys, P other := by
  have hdecides : Decides (fun x => (less? key x).map not) sorted :=
    fun other hother => (h key other hkey (hsorted other hother)).map'
  refine (countHalving?_succeeds hdecides).bind' fun place _ => .some' ?_
  refine List.forall_mem_append.2 ⟨?_, List.forall_mem_cons.2 ⟨hkey, ?_⟩⟩
  · exact fun other hother => hsorted other (List.mem_of_mem_take hother)
  · exact fun other hother => hsorted other (List.mem_of_mem_drop hother)

theorem foldlM_insert?_succeeds (h : Comparable less? P) {keys sorted : List α}
    (hkeys : ∀ key ∈ keys, P key) (hsorted : ∀ key ∈ sorted, P key) :
    Succeeds (keys.foldlM (insert? less?) sorted) fun keys => ∀ key ∈ keys, P key := by
  induction keys generalizing sorted with
  | nil => exact .some' hsorted
  | cons key others ih =>
    obtain ⟨hkey, hothers⟩ := List.forall_mem_cons.1 hkeys
    rw [List.foldlM_cons]
    exact (insert?_succeeds h hkey hsorted).bind' fun sorted hsorted => ih hothers hsorted

theorem runs?_succeeds (h : Comparable less? P) (least : Nat) {keys : List α}
    (hkeys : ∀ key ∈ keys, P key) :
    Succeeds (runs? less? least keys) fun runs => ∀ run ∈ runs, ∀ key ∈ run, P key := by
  induction hn : keys.length using Nat.strongRecOn generalizing keys with
  | ind n ih =>
    rw [runs?.eq_def]
    split
    · exact .some' (List.forall_mem_nil _)
    · next first others =>
      obtain ⟨hfirst, hothers⟩ := List.forall_mem_cons.1 hkeys
      have hlater : ∀ {n : Nat}, ∀ key ∈ others.drop n, P key :=
        fun key hkey => hothers key (List.mem_of_mem_drop hkey)
      have hfalling : Succeeds (others.head?.elim (some false) fun second => less? second first)
          fun _ => True := by
        cases others with
        | nil => exact .some' trivial
        | cons second others => exact h second first (hothers second List.mem_cons_self) hfirst
      refine hfalling.bind' fun falling _ => ?_
      refine (runAfter?_succeeds h falling hfirst hothers).bind' fun further _ => ?_
      have hrun : ∀ key ∈ first :: others.take further, P key :=
        List.forall_mem_cons.2 ⟨hfirst, fun key hkey => hothers key (List.mem_of_mem_take hkey)⟩
      have hstart : ∀ key ∈ (if falling then (first :: others.take further).reverse
          else first :: others.take further), P key := by
        split
        · exact fun key hkey => hrun key (List.mem_reverse.1 hkey)
        · exact hrun
      refine (foldlM_insert?_succeeds h (fun key hkey => hlater key (List.mem_of_mem_take hkey))
        hstart).bind' fun filled hfilled => ?_
      refine (ih _ ?_ (fun key hkey => hlater key (List.mem_of_mem_drop hkey)) rfl).bind'
        fun runs hruns => .some' (List.forall_mem_cons.2 ⟨hfilled, hruns⟩)
      simp only [List.length_drop, List.length_cons] at hn ⊢
      omega

/-! ## Merging all runs -/

theorem mergeDeeper?_succeeds (h : Comparable less? P) (depth : Nat) {waiting : List (Waiting α)}
    {last : Merged α} (hwaiting : ∀ run ∈ waiting, ∀ key ∈ run.keys, P key) (hlast : Keeps P last) :
    Succeeds (mergeDeeper? less? depth waiting last) fun result =>
      (∀ run ∈ result.1, ∀ key ∈ run.keys, P key) ∧ Keeps P result.2 := by
  induction waiting generalizing last with
  | nil => exact .some' ⟨hwaiting, hlast⟩
  | cons run waiting ih =>
    obtain ⟨hrun, hrest⟩ := List.forall_mem_cons.1 hwaiting
    rw [mergeDeeper?]
    refine .ite' (fun _ => ?_) fun _ => .some' ⟨hwaiting, hlast⟩
    exact (merge?_succeeds h hrun hlast).bind' fun merged hmerged => ih hrest hmerged

theorem mergeAll?_succeeds (h : Comparable less? P) {runs : List (List α)} {last : Merged α}
    (hruns : ∀ run ∈ runs, ∀ key ∈ run, P key) (hlast : Keeps P last) :
    Succeeds (mergeAll? less? runs last) fun _ => True := by
  induction hn : runs.length using Nat.strongRecOn generalizing runs last with
  | ind n ih =>
    rw [mergeAll?.eq_def]
    split
    · exact .some' trivial
    · next run =>
      have hrun := hruns run List.mem_cons_self
      exact (merge?_succeeds h hrun hlast).bind' fun _ _ => .some' trivial
    · next run further waiting =>
      obtain ⟨hrun, hrest⟩ := List.forall_mem_cons.1 hruns
      obtain ⟨hfurther, hwaiting⟩ := List.forall_mem_cons.1 hrest
      simp only [List.length_cons] at hn
      refine .ite' (fun _ => ?_) fun _ => ?_
      · refine (merge?_succeeds h hfurther hrun).bind' fun merged hmerged => ?_
        exact ih _ (by simp only [List.length_cons]; omega)
          (List.forall_mem_cons.2 ⟨hmerged, hwaiting⟩) hlast rfl
      · refine (merge?_succeeds h hrun hlast).bind' fun merged hmerged => ?_
        exact ih _ (by simp only [List.length_cons]; omega) hrest hmerged rfl

theorem mergeRuns?_succeeds (h : Comparable less? P) {count start : Nat}
    {waiting : List (Waiting α)} {last : Merged α} {runs : List (List α)}
    (hwaiting : ∀ run ∈ waiting, ∀ key ∈ run.keys, P key) (hlast : Keeps P last)
    (hruns : ∀ run ∈ runs, ∀ key ∈ run, P key) :
    Succeeds (mergeRuns? less? count start waiting last runs) fun _ => True := by
  induction runs generalizing start waiting last with
  | nil =>
    refine mergeAll?_succeeds h (fun keys hkeys => ?_) hlast
    obtain ⟨run, hrun, rfl⟩ := List.mem_map.1 hkeys
    exact hwaiting run hrun
  | cons next runs ih =>
    obtain ⟨hnext, hrest⟩ := List.forall_mem_cons.1 hruns
    rw [mergeRuns?]
    refine (mergeDeeper?_succeeds h _ hwaiting hlast).bind' ?_
    rintro ⟨waiting, merged⟩ ⟨hwaiting, hmerged⟩
    exact ih (List.forall_mem_cons.2 ⟨hmerged, hwaiting⟩) hnext hrest

/-- Keys of which any two can be compared are sorted without failing. -/
theorem sort?_succeeds (h : Comparable less? P) {keys : List α} (hkeys : ∀ key ∈ keys, P key) :
    Succeeds (sort? less? keys) fun _ => True := by
  refine (runs?_succeeds h _ hkeys).bind' fun runs hruns => ?_
  cases runs with
  | nil => exact .some' trivial
  | cons first runs =>
    obtain ⟨hfirst, hrest⟩ := List.forall_mem_cons.1 hruns
    exact mergeRuns?_succeeds h (List.forall_mem_nil _) hfirst hrest

end Merging

end ParamSql.Sorting
