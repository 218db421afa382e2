import ParamSql.Schema.Check

/-!
What a successful check says about its parts.

The lemmas read a check from the outside to the inside: if the whole is valid, each part was, and
the result is made of the results of the parts.
-/

namespace ParamSql

namespace Checked

variable {α β : Type}

theorem map_eq_valid {f : α → β} {x : Checked α} {b : β} (h : f <$> x = .valid b) :
    ∃ a, x = .valid a ∧ f a = b := by
  cases x with
  | valid a => exact ⟨a, rfl, Checked.valid.inj h⟩
  | invalid issues => cases h

theorem seq_eq_valid {f : Checked (α → β)} {x : Checked α} {b : β} (h : f <*> x = .valid b) :
    ∃ g a, f = .valid g ∧ x = .valid a ∧ g a = b := by
  cases f <;> cases x
  · exact ⟨_, _, rfl, rfl, Checked.valid.inj h⟩
  all_goals cases h

theorem under_eq_valid {step : Step} {x : Checked α} {a : α} (h : x.under step = .valid a) :
    x = .valid a := by
  cases x with
  | valid b => exact h
  | invalid issues => cases h

theorem withIssues_eq_valid {further : List Issue} {x : Checked α} {a : α}
    (h : x.withIssues further = .valid a) : x = .valid a := by
  cases x with
  | valid b =>
    rw [withIssues] at h
    split at h
    · exact h
    · cases h
  | invalid issues => cases h

theorem withIssues_eq_nil {further : List Issue} {x : Checked α} {a : α}
    (h : x.withIssues further = .valid a) : further = [] := by
  cases x with
  | valid b =>
    rw [withIssues] at h
    split at h
    · next hempty => exact List.isEmpty_iff.1 hempty
    · cases h
  | invalid issues => cases h

theorem andThen_eq_valid {f : α → Checked β} {x : Checked α} {b : β}
    (h : x.andThen f = .valid b) : ∃ a, x = .valid a ∧ f a = .valid b := by
  cases x with
  | valid a => exact ⟨a, rfl, h⟩
  | invalid issues => cases h

end Checked

theorem Check.items_any (start : Nat) (vs : List Value) :
    Check.items .any start vs = .valid vs := by
  induction vs generalizing start with
  | nil => rfl
  | cons v rest ih =>
    rw [Check.items, ih]
    rfl

/-- A field with a single name is the entry under it. -/
theorem FieldName.find?_of_key (key : String) (es : List (Value × Value)) :
    (FieldName.mk key none).find? es = (Value.lookupText key es).map fun v => (key, v) := by
  rw [FieldName.find?, FieldName.given?]
  cases h : Value.lookupText key es with
  | none => rfl
  | some v => simp [h]

end ParamSql
