/-!
Lists and texts put together with a separator between them.

Every item comes from a part or from the separator (`mem_intercalate`), and every part is found
again as it stands (`isInfix_intercalate`).
-/

namespace ParamSql.Text

section Lists

variable {α β : Type} {sep part : List α} {parts others : List (List α)}

theorem mem_intercalate {a : α} (h : a ∈ sep.intercalate parts) :
    a ∈ sep ∨ ∃ part ∈ parts, a ∈ part := by
  induction parts with
  | nil => cases h
  | cons part rest ih =>
    cases rest with
    | nil =>
      rw [List.intercalate_singleton] at h
      exact .inr ⟨part, List.mem_cons_self, h⟩
    | cons next rest =>
      rw [List.intercalate_cons_cons, List.mem_append, List.mem_append] at h
      rcases h with (h | h) | h
      · exact .inr ⟨part, List.mem_cons_self, h⟩
      · exact .inl h
      · refine (ih h).imp_right fun ⟨other, hother, hin⟩ => ?_
        exact ⟨other, List.mem_cons_of_mem part hother, hin⟩

theorem isInfix_intercalate (h : part ∈ parts) : part <:+: sep.intercalate parts := by
  induction parts with
  | nil => cases h
  | cons first rest ih =>
    cases rest with
    | nil =>
      obtain rfl := List.mem_singleton.1 h
      simp [List.intercalate_singleton]
    | cons next rest =>
      rw [List.intercalate_cons_cons]
      rcases List.mem_cons.1 h with rfl | hrest
      · rw [List.append_assoc]
        exact (List.prefix_append part _).isInfix
      · exact (ih hrest).trans (List.suffix_append _ _).isInfix

theorem map_intercalate (f : α → β) (sep : List α) (parts : List (List α)) :
    (sep.intercalate parts).map f = (sep.map f).intercalate (parts.map (List.map f)) := by
  induction parts with
  | nil => rfl
  | cons part rest ih =>
    cases rest with
    | nil => rw [List.map_singleton, List.intercalate_singleton, List.intercalate_singleton]
    | cons next rest =>
      rw [List.intercalate_cons_cons, List.map_append, List.map_append, ih, List.map_cons,
        List.map_cons, List.map_cons, List.intercalate_cons_cons]

theorem intercalate_append (hparts : parts ≠ []) (hothers : others ≠ []) :
    sep.intercalate (parts ++ others) =
      sep.intercalate parts ++ sep ++ sep.intercalate others := by
  induction parts with
  | nil => exact absurd rfl hparts
  | cons part rest ih =>
    cases rest with
    | nil =>
      rw [List.singleton_append, List.intercalate_cons_of_ne_nil hothers,
        List.intercalate_singleton]
    | cons next rest =>
      have hrest := ih (List.cons_ne_nil next rest)
      rw [List.cons_append] at hrest
      rw [List.cons_append, List.cons_append, List.intercalate_cons_cons, hrest,
        List.intercalate_cons_cons]
      simp only [List.append_assoc]

end Lists

variable {separator t : String} {texts : List String}

theorem mem_toList_intercalate {c : Char} (h : c ∈ (separator.intercalate texts).toList) :
    c ∈ separator.toList ∨ ∃ t ∈ texts, c ∈ t.toList := by
  rw [String.toList_intercalate] at h
  refine (mem_intercalate h).imp_right fun ⟨part, hpart, hc⟩ => ?_
  obtain ⟨t, ht, rfl⟩ := List.mem_map.1 hpart
  exact ⟨t, ht, hc⟩

/-- A text stands in the texts that it is put together with. -/
theorem isInfix_toList_intercalate (h : t ∈ texts) :
    t.toList <:+: (separator.intercalate texts).toList := by
  rw [String.toList_intercalate]
  exact isInfix_intercalate (List.mem_map_of_mem h)

/-- Texts of which one is not empty give no empty text. -/
theorem intercalate_ne_empty (ht : t ∈ texts) (hne : t ≠ "") :
    separator.intercalate texts ≠ "" := by
  intro hempty
  have hpart : t.toList <:+: (separator.intercalate texts).toList :=
    isInfix_toList_intercalate ht
  rw [hempty, String.toList_empty, List.infix_nil, String.toList_eq_nil_iff] at hpart
  exact hne hpart

end ParamSql.Text
