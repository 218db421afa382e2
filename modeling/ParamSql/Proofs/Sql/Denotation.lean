import ParamSql.Sql
import ParamSql.Value

/-!
The values that placeholders denote.

A placeholder denotes the value at its position in a parameter list. Values that are put behind a
list change nothing for the placeholders that denote a value of it.
-/

namespace ParamSql.Sql

/-- The value that a placeholder denotes: the one at its position, counted from one. -/
def denoted (vs : List Value) (placeholder : String) : Option Value :=
  match placeholder.toList with
  | '$' :: digits =>
    match Nat.ofDigitChars 10 digits 0 with
    | 0 => none
    | n + 1 => vs[n]?
  | _ => none

theorem denoted_placeholder (vs : List Value) (n : Nat) :
    denoted vs (placeholder (n + 1)) = vs[n]? := by
  have htext : (placeholder (n + 1)).toList = '$' :: Nat.toDigits 10 (n + 1) := by
    simp [placeholder]
  simp [denoted, htext]

/-- Placeholders in a row, from one position on, denote the values from there on. -/
theorem map_denoted (before vs after : List Value) :
    ((List.range' (before.length + 1) vs.length).map placeholder).map
      (denoted (before ++ (vs ++ after))) = vs.map some := by
  induction vs generalizing before with
  | nil => rfl
  | cons v rest ih =>
    have hrest := ih (before ++ [v])
    rw [List.length_append, List.length_singleton, List.append_assoc, List.singleton_append]
      at hrest
    rw [List.length_cons, List.range'_succ, List.map_cons, List.map_cons, denoted_placeholder,
      List.cons_append, hrest]
    simp

end ParamSql.Sql
