import ParamSql.Proofs.Sql.Numbering
import ParamSql.Text.Blank

/-!
The texts of fragments.

The text of fragments put together is their texts put together, each numbered behind those before
it (`write_joined`). A fragment is visible if it has a hole or a text that is not blank; whether its
text is empty is decided by its pieces, whatever the numbers of its placeholders are
(`write_eq_empty_iff`).
-/

namespace ParamSql.Sql

variable {a b : Sql} {s t : String} {fs : List Sql}

/-! ## Fragments put together -/

theorem write_verbatim (taken : Nat) (s : String) : (verbatim s).write taken = s := by
  simp [write, verbatim, writePieces]

theorem arity_verbatim (s : String) : (verbatim s).arity = 0 := rfl

theorem write_hole (taken : Nat) : hole.write taken = placeholder (taken + 1) := by
  simp [write, hole, writePieces]

theorem writeAll_append (taken : Nat) (fs gs : List Sql) :
    writeAll taken (fs ++ gs) = writeAll taken fs ++ writeAll (taken + (fs.map arity).sum) gs := by
  induction fs generalizing taken with
  | nil => rfl
  | cons f rest ih =>
    rw [List.cons_append, writeAll, writeAll, ih, List.map_cons, List.sum_cons, List.cons_append,
      Nat.add_assoc]

theorem arity_joined (separator : String) (fs : List Sql) :
    (joined separator fs).arity = (fs.map arity).sum := by
  induction fs with
  | nil => rfl
  | cons f rest ih =>
    cases rest with
    | nil => simp [joined]
    | cons g rest =>
      calc (joined separator (f :: g :: rest)).arity
          = (f ++ verbatim separator ++ joined separator (g :: rest)).arity := rfl
        _ = f.arity + ((g :: rest).map arity).sum := by
          rw [arity_append, arity_append, arity_verbatim, ih, Nat.add_zero]
        _ = ((f :: g :: rest).map arity).sum := rfl

theorem write_joined (separator : String) (taken : Nat) (fs : List Sql) :
    (joined separator fs).write taken = separator.intercalate (writeAll taken fs) := by
  induction fs generalizing taken with
  | nil => rfl
  | cons f rest ih =>
    cases rest with
    | nil => rw [joined, writeAll, writeAll, String.intercalate_singleton]
    | cons g rest =>
      calc (joined separator (f :: g :: rest)).write taken
          = (f ++ verbatim separator ++ joined separator (g :: rest)).write taken := rfl
        _ = f.write taken ++ separator ++
              separator.intercalate (writeAll (taken + f.arity) (g :: rest)) := by
          rw [write_append, write_append, write_verbatim, arity_append, arity_verbatim, ih]
          rfl
        _ = separator.intercalate (writeAll taken (f :: g :: rest)) :=
          String.intercalate_cons_cons.symm

theorem joined_concat (separator : String) (fs : List Sql) (f g : Sql) :
    joined separator (f :: fs ++ [g]) = joined separator (f :: fs) ++ verbatim separator ++ g := by
  induction fs generalizing f with
  | nil => rfl
  | cons h rest ih =>
    calc joined separator (f :: h :: rest ++ [g])
        = f ++ verbatim separator ++ joined separator (h :: rest ++ [g]) := rfl
      _ = f ++ verbatim separator ++ (joined separator (h :: rest) ++ verbatim separator ++ g) := by
        rw [ih]
      _ = joined separator (f :: h :: rest) ++ verbatim separator ++ g := by
        simp only [joined, append_assoc]

/-! ## Fragments with something to see -/

/-- The fragment has something beside blanks. -/
def Visible (sql : Sql) : Prop :=
  sql.isBlankBy Text.isBlank = false

theorem isBlankBy_append (p : String → Bool) (a b : Sql) :
    (a ++ b).isBlankBy p = (a.isBlankBy p && b.isBlankBy p) := by
  rw [isBlankBy, pieces_append, List.all_append]
  rfl

theorem Visible.append_left (h : b.Visible) : (a ++ b).Visible := by
  rw [Visible, isBlankBy_append, h, Bool.and_false]

theorem Visible.append_right (h : a.Visible) : (a ++ b).Visible := by
  rw [Visible, isBlankBy_append, h, Bool.false_and]

theorem visible_verbatim (h : Text.isBlank s = false) : (verbatim s).Visible := by
  simp [Visible, isBlankBy, verbatim, h]

theorem isBlank_append (s t : String) :
    Text.isBlank (s ++ t) = (Text.isBlank s && Text.isBlank t) := by
  rw [Text.isBlank, String.toList_append, List.all_append]
  rfl

theorem visible_verbatim_append (h : (Text.isBlank s && Text.isBlank t) = false) :
    (verbatim (s ++ t)).Visible := by
  apply visible_verbatim
  rw [isBlank_append, h]

theorem Visible.joined {separator : String} {f : Sql} (hf : f ∈ fs) (h : f.Visible) :
    (joined separator fs).Visible := by
  induction fs with
  | nil => cases hf
  | cons g rest ih =>
    cases rest with
    | nil =>
      obtain rfl := List.mem_singleton.1 hf
      exact h
    | cons g' rest =>
      rcases List.mem_cons.1 hf with rfl | hrest
      · exact h.append_right.append_right
      · exact (ih hrest).append_left

theorem Visible.isEmpty (h : a.Visible) : a.isEmpty = false := by
  rw [Visible, isBlankBy, List.all_eq_false] at h
  obtain ⟨piece, hmem, hpiece⟩ := h
  rw [Sql.isEmpty, List.all_eq_false]
  refine ⟨piece, hmem, ?_⟩
  cases piece with
  | text s =>
    intro hempty
    obtain rfl : s = "" := String.isEmpty_iff.1 hempty
    exact hpiece rfl
  | _ => exact hpiece

/-! ### What the text shows -/

/-- A property of texts that holds of a text when it holds of its parts, and of no placeholder, is
decided by the pieces. -/
theorem write_isBlankBy {p : String → Bool} (hempty : p "" = true)
    (happend : ∀ s t, p (s ++ t) = (p s && p t)) (hplaceholder : ∀ n, p (placeholder n) = false)
    (taken : Nat) (sql : Sql) : p (sql.write taken) = sql.isBlankBy p := by
  obtain ⟨pieces⟩ := sql
  rw [write, isBlankBy]
  dsimp only
  induction pieces generalizing taken with
  | nil => exact hempty
  | cons piece rest ih =>
    rw [List.all_cons, ← ih (taken + piece.arity)]
    cases piece with
    | text s => exact happend _ _
    | hole =>
      rw [writePieces, happend, hplaceholder]
      rfl
    | room count => rfl

theorem isEmpty_append_text (s t : String) : (s ++ t).isEmpty = (s.isEmpty && t.isEmpty) := by
  rw [Bool.eq_iff_iff, Bool.and_eq_true]
  simp

theorem isEmpty_placeholder (n : Nat) : (placeholder n).isEmpty = false := by
  rw [placeholder, isEmpty_append_text]
  rfl

theorem isBlank_placeholder (n : Nat) : Text.isBlank (placeholder n) = false := by
  rw [placeholder, isBlank_append]
  rfl

theorem write_eq_empty_iff {taken : Nat} : a.write taken = "" ↔ a.isEmpty = true := by
  have hwrite := write_isBlankBy rfl isEmpty_append_text isEmpty_placeholder taken a
  rw [← String.isEmpty_iff, hwrite]
  rfl

end ParamSql.Sql
