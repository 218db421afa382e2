import ParamSql.Proofs.Results
import ParamSql.Proofs.Row.Keys

/-!
Rows read into models, one or all of them.

What a result is given as counts as a list of rows (`Row.given`): nothing is no row, and what is not
a list is one row. All rows are read in order up to the first that the model refuses
(`all_eq_ok_iff`, `all_eq_error_iff`). A single row is the first of the same list, and is missing
only if there is none or if it is null (`first_of_missing`, `first_of_row`). So the two ways of
reading agree on the first row, and differ only by the later ones (`first_agrees_all`).
-/

namespace ParamSql

namespace Row

/-! ## The rows of a result -/

/-- The rows that are given with a result, their keys not yet converted. -/
def given : Value → List Value
  | .null => []
  | .list items | .tuple items => items
  | row => [row]

/-- The rows of a result with converted keys. -/
def listed (data : Value) : List Value :=
  (given data).map camelKeys

theorem camelKeys_eq_null_iff {v : Value} : camelKeys v = .null ↔ v = .null := by
  cases v <;> simp [camelKeys]

theorem rows_camelKeys (data : Value) : RowModel.rows (camelKeys data) = listed data := by
  cases data with
  | list items | tuple items =>
    rw [camelKeys, camelItems_eq_map]
    rfl
  | mapping es =>
    show _ = [camelKeys (.mapping es)]
    rw [camelKeys]
    rfl
  | _ => rfl

/-- The row that stands for a result is the first of its rows. -/
theorem firstRow_camelKeys (data : Value) :
    RowModel.firstRow (camelKeys data) = (listed data).headD .null := by
  rw [← rows_camelKeys]
  cases camelKeys data with
  | list items => cases items <;> rfl
  | _ => rfl

end Row

namespace RowModel

open Row

variable {α : Type} {model : RowModel α} {data row : Value} {rs later : List Value}

/-! ## One row -/

theorem read_eq_ok_iff {a : α} : model.read row = .ok a ↔ model.check row = .valid a := by
  unfold read
  cases model.check row <;> simp

theorem read_eq_error_iff {e : Error} :
    model.read row = .error e ↔
      ∃ issues, model.check row = .invalid issues ∧ e = .invalidRow model.name issues row := by
  unfold read
  cases model.check row <;> simp [eq_comm]

/-- Without a row, or with a null one in the first place, there is nothing to read. -/
theorem first_of_missing (h : (listed data).headD .null = .null) :
    model.first (camelKeys data) = .error (.data .noRow) := by
  rw [first, firstRow_camelKeys, h]

theorem first_of_row (hrow : (listed data).headD .null ≠ .null) :
    model.first (camelKeys data) = model.read ((listed data).headD .null) := by
  rw [first, firstRow_camelKeys]
  split
  · next hnull => exact absurd hnull hrow
  · rfl

/-! ## All rows -/

theorem all_eq_ok_iff {as : List α} :
    rs.mapM model.read = .ok as ↔ List.Forall₂ (fun row a => model.check row = .valid a) rs as := by
  have heq : (fun row a => model.read row = .ok a) = fun row a => model.check row = .valid a :=
    funext fun _ => funext fun _ => propext read_eq_ok_iff
  rw [← heq]
  exact ⟨forall₂_of_mapM_eq_ok, mapM_eq_ok⟩

/-- The first of the rows that the model refuses, and what it finds wrong there. -/
inductive FirstInvalid (model : RowModel α) : List Value → Value → List Issue → Prop where
  | here {row : Value} {later : List Value} {issues : List Issue}
    (h : model.check row = .invalid issues) : FirstInvalid model (row :: later) row issues
  | later {row refused : Value} {rest : List Value} {a : α} {issues : List Issue}
    (h : model.check row = .valid a) (hrest : FirstInvalid model rest refused issues) :
    FirstInvalid model (row :: rest) refused issues

theorem firstInvalid_cons_of_valid {a : α} (h : model.check row = .valid a) {refused : Value}
    {issues : List Issue} :
    FirstInvalid model (row :: later) refused issues ↔ FirstInvalid model later refused issues := by
  constructor
  · intro hrefused
    cases hrefused with
    | here hinvalid => rw [h] at hinvalid; cases hinvalid
    | later _ hrest => exact hrest
  · exact .later h

theorem all_eq_error_iff {e : Error} :
    rs.mapM model.read = .error e ↔
      ∃ refused issues, FirstInvalid model rs refused issues ∧
        e = .invalidRow model.name issues refused := by
  induction rs with
  | nil =>
    constructor
    · intro h; cases h
    · rintro ⟨_, _, h, -⟩; cases h
  | cons row later ih =>
    rw [List.mapM_cons]
    cases hcheck : model.check row with
    | valid a =>
      -- The row is read, and any refusal is one of a later row.
      rw [read_eq_ok_iff.2 hcheck]
      simp only [firstInvalid_cons_of_valid hcheck]
      rw [← ih]
      show (later.mapM model.read >>= _) = _ ↔ _
      cases later.mapM model.read <;> simp [bind, Except.bind, pure, Except.pure]
    | invalid issues =>
      rw [read_eq_error_iff.2 ⟨issues, hcheck, rfl⟩]
      constructor
      · intro h
        exact ⟨row, issues, .here hcheck, (Except.error.inj h).symm⟩
      · rintro ⟨refused, issues', hfirst, rfl⟩
        cases hfirst with
        | here h =>
          rw [hcheck] at h
          cases h
          rfl
        | later h _ => rw [hcheck] at h; cases h

/-! ## Both ways of reading -/

theorem exists_listed_of_row (hrow : (listed data).headD .null ≠ .null) :
    ∃ row later, listed data = row :: later ∧ row ≠ .null := by
  cases hlisted : listed data with
  | nil => rw [hlisted] at hrow; exact absurd rfl hrow
  | cons row later =>
    rw [hlisted] at hrow
    exact ⟨row, later, rfl, hrow⟩

theorem headD_listed_eq_null_iff :
    (listed data).headD .null = .null ↔ given data = [] ∨ (given data).head? = some .null := by
  unfold listed
  cases given data with
  | nil => simp
  | cons v rest => simp [camelKeys_eq_null_iff]

theorem first_of_cons (hlisted : listed data = row :: later) (hrow : row ≠ .null) :
    model.first (camelKeys data) = model.read row := by
  have hhead : (listed data).headD .null = row := by rw [hlisted]; rfl
  rw [first_of_row (by rw [hhead]; exact hrow), hhead]

/-- Only a missing row is an error of the data. -/
theorem first_missing_iff :
    (∃ cause, model.first (camelKeys data) = .error (.data cause) ∧ cause.code = some .notFound) ↔
      (listed data).headD .null = .null := by
  constructor
  · rintro ⟨cause, hfirst, -⟩
    by_contra hrow
    rw [first_of_row hrow] at hfirst
    obtain ⟨_, -, h⟩ := read_eq_error_iff.1 hfirst
    cases h
  · intro hmissing
    exact ⟨.noRow, first_of_missing hmissing, rfl⟩

/-- All rows are read if the model takes each of them, else the first that it refuses is reported.
A single row is not found only if there is none or a null one in the first place; else it is the
first row, whatever the later ones are. -/
theorem first_agrees_all (model : RowModel α) (data : Value) :
    (∀ as, model.all (camelKeys data) = .ok as ↔
      List.Forall₂ (fun row a => model.check row = .valid a) (listed data) as) ∧
    (∀ e, model.all (camelKeys data) = .error e ↔
      ∃ refused issues, FirstInvalid model (listed data) refused issues ∧
        e = .invalidRow model.name issues refused) ∧
    ((∃ cause, model.first (camelKeys data) = .error (.data cause) ∧
        cause.code = some .notFound) ↔
      given data = [] ∨ (given data).head? = some .null) ∧
    (∀ row later, listed data = row :: later → row ≠ .null →
      (∀ a, model.first (camelKeys data) = .ok a ↔ model.check row = .valid a) ∧
      (∀ e, model.first (camelKeys data) = .error e ↔
        ∃ issues, model.check row = .invalid issues ∧ e = .invalidRow model.name issues row)) ∧
    (∀ a as, model.all (camelKeys data) = .ok (a :: as) → (given data).head? ≠ some .null →
      model.first (camelKeys data) = .ok a) ∧
    (∀ a e, model.first (camelKeys data) = .ok a → model.all (camelKeys data) = .error e →
      ∃ row later refused issues, listed data = row :: later ∧ model.check row = .valid a ∧
        FirstInvalid model later refused issues ∧ e = .invalidRow model.name issues refused) := by
  have hall : model.all (camelKeys data) = (listed data).mapM model.read := by
    rw [all, rows_camelKeys]
  rw [hall]
  refine ⟨fun as => all_eq_ok_iff, fun e => all_eq_error_iff, ?missing, ?first, ?both, ?later⟩
  case missing => exact first_missing_iff.trans headD_listed_eq_null_iff
  case first =>
    intro row later hlisted hrow
    rw [first_of_cons hlisted hrow]
    exact ⟨fun a => read_eq_ok_iff, fun e => read_eq_error_iff⟩
  case both =>
    intro a as hread hhead
    have hvalid := all_eq_ok_iff.1 hread
    have hrow : (listed data).headD .null ≠ .null := by
      rw [Ne, headD_listed_eq_null_iff]
      rintro (hgiven | hgiven)
      · rw [listed, hgiven] at hvalid
        cases hvalid
      · exact hhead hgiven
    obtain ⟨row, later, hlisted, hrow⟩ := exists_listed_of_row hrow
    rw [hlisted] at hvalid
    rw [first_of_cons hlisted hrow]
    exact read_eq_ok_iff.2 (List.forall₂_cons.1 hvalid).1
  case later =>
    intro a e hfirst hread
    have hrow : (listed data).headD .null ≠ .null := fun hmissing => by
      rw [first_of_missing hmissing] at hfirst
      cases hfirst
    obtain ⟨row, later, hlisted, hrow⟩ := exists_listed_of_row hrow
    rw [first_of_cons hlisted hrow] at hfirst
    have hvalid := read_eq_ok_iff.1 hfirst
    obtain ⟨refused, issues, hrefused, rfl⟩ := all_eq_error_iff.1 hread
    rw [hlisted] at hrefused
    exact ⟨row, later, refused, issues, hlisted, hvalid,
      (firstInvalid_cons_of_valid hvalid).1 hrefused, rfl⟩

/-- A second row that the model refuses spoils the list and not the first row. -/
theorem first_agrees_all_second_row :
    let model : RowModel (List (String × Value)) := ⟨"Word", Field.check [⟨"wordId", .text, none⟩]⟩
    let good : Value := .mapping [(.text "word_id", .text "1")]
    let bad : Value := .mapping [(.text "word_id", .int 2)]
    model.first (camelKeys (.tuple [good, bad])) = .ok [("wordId", .text "1")] ∧
      ∃ issues, model.all (camelKeys (.tuple [good, bad])) =
        .error (.invalidRow "Word" issues (.mapping [(.text "wordId", .int 2)])) := by
  intro model good bad
  obtain ⟨-, hall, -, hfirst, -, -⟩ := first_agrees_all model (.tuple [good, bad])
  have hlisted : listed (.tuple [good, bad]) =
      [.mapping [(.text "wordId", .text "1")], .mapping [(.text "wordId", .int 2)]] := by
    rfl
  have hgood : model.check (.mapping [(.text "wordId", .text "1")]) =
      .valid [("wordId", .text "1")] := rfl
  have hbad : ∃ issues, model.FirstInvalid (listed (.tuple [good, bad]))
      (.mapping [(.text "wordId", .int 2)]) issues := by
    rw [hlisted]
    exact ⟨_, .later hgood (.here rfl)⟩
  obtain ⟨issues, hbad⟩ := hbad
  exact ⟨((hfirst _ _ hlisted fun h => by cases h).1 _).2 hgood, issues,
    (hall _).2 ⟨_, issues, hbad, rfl⟩⟩

end RowModel

end ParamSql
