import ParamSql.Sql.Token
import ParamSql.Error

/-!
Reading all rows that a text produces from a cursor.

The cursor is the driver's own: only the operations that it is asked for are known here, and that
its result sets come to an end. After a text has been executed it stands at a result set. A set
with a description holds rows; moving on tells whether there is a further set.
-/

namespace ParamSql

/-- The operations of a cursor that has a state of type `σ`. -/
structure Cursor (σ : Type) where
  execute (text : String) (parameters : Option (List (String × Value))) : σ → σ
  /-- Whether the result set at hand has a description. -/
  described : σ → Bool
  /-- The rows of the result set at hand. -/
  fetchAll : σ → List Value × σ
  /-- Whether there is a further result set, and the move to it. -/
  nextSet : σ → Bool × σ
  /-- A bound on the result sets that are still to come. -/
  remaining : σ → Nat
  remaining_fetchAll {s s' : σ} {rows : List Value} (h : fetchAll s = (rows, s')) :
    remaining s' = remaining s
  remaining_nextSet {s s' : σ} (h : nextSet s = (true, s')) : remaining s' < remaining s

namespace Cursor

variable {σ : Type}

/-- The rows of the set at hand if it has a description; one without is not fetched. -/
def rowsHere (cursor : Cursor σ) (s : σ) : List Value × σ :=
  if cursor.described s then cursor.fetchAll s else ([], s)

/-- The rows of the set at hand, whether there is a further set, and the move to it. -/
def turn (cursor : Cursor σ) (s : σ) : List Value × Bool × σ :=
  let (rows, s) := cursor.rowsHere s
  (rows, cursor.nextSet s)

theorem remaining_rowsHere (cursor : Cursor σ) (s : σ) :
    cursor.remaining (cursor.rowsHere s).2 = cursor.remaining s := by
  rw [rowsHere]
  split
  · exact cursor.remaining_fetchAll rfl
  · rfl

theorem remaining_turn (cursor : Cursor σ) {s s' : σ} {rows : List Value}
    (h : cursor.turn s = (rows, true, s')) : cursor.remaining s' < cursor.remaining s := by
  rw [← cursor.remaining_rowsHere s]
  exact cursor.remaining_nextSet (Prod.mk.inj h).2

/-- The rows of the set at hand and of all further ones. -/
def drain (cursor : Cursor σ) (s : σ) : List Value × σ :=
  match h : cursor.turn s with
  | (rows, true, s') =>
    have : cursor.remaining s' < cursor.remaining s := cursor.remaining_turn h
    let (later, last) := drain cursor s'
    (rows ++ later, last)
  | (rows, false, s') => (rows, s')
termination_by cursor.remaining s

/-- The named parameters of a list of values: `p1`, `p2` and so on. -/
def named (start : Nat) : List Value → List (String × Value)
  | [] => []
  | v :: rest =>
    ("p" ++ String.ofList (Nat.toDigits 10 start), v) :: named (start + 1) rest

/-- A text with its values: named placeholders if there are values, else the text as it is. -/
def request (text : String) (values : Value) :
    Except Misuse (String × Option (List (String × Value))) :=
  if !values.isTrue then .ok (text, none)
  else
    match values.elements? with
    | some vs => .ok (Token.nameParameters text, some (named 1 vs))
    | none => .error (.notIterable values)

def query (cursor : Cursor σ) (text : String) (values : Value) (s : σ) :
    Except Misuse (List Value × σ) :=
  (request text values).map fun r => cursor.drain (cursor.execute r.1 r.2 s)

end Cursor

/-! ## Cursors over given result sets -/

/-- The rows of a result set, if it has a description. -/
abbrev ResultSet := Option (List Value)

inductive CursorCall where
  | execute (text : String) (parameters : Option (List (String × Value)))
  | fetchAll
  | nextSet
  deriving Repr

namespace Cursor

variable {σ : Type}

/-- A cursor that every text takes to the same result sets. Rows that were fetched are gone. -/
def onSets : Cursor (List ResultSet) where
  execute _ _ sets := sets
  described
    | some _ :: _ => true
    | _ => false
  fetchAll
    | some rows :: rest => (rows, some [] :: rest)
    | sets => ([], sets)
  nextSet sets := (1 < sets.length, sets.tail)
  remaining := List.length
  remaining_fetchAll {sets _ _} h := by
    rcases sets with _ | ⟨_ | rows, rest⟩ <;> cases h <;> rfl
  remaining_nextSet {sets _} h := by
    obtain ⟨hlength, rfl⟩ := Prod.mk.inj h
    have hlength : 1 < sets.length := of_decide_eq_true hlength
    rw [List.length_tail]
    omega

/-- The cursor, with a record of what it is asked. -/
def recorded (cursor : Cursor σ) : Cursor (σ × List CursorCall) where
  execute text parameters s :=
    (cursor.execute text parameters s.1, s.2 ++ [.execute text parameters])
  described s := cursor.described s.1
  fetchAll s :=
    let (rows, state) := cursor.fetchAll s.1
    (rows, state, s.2 ++ [.fetchAll])
  nextSet s :=
    let (further, state) := cursor.nextSet s.1
    (further, state, s.2 ++ [.nextSet])
  remaining s := cursor.remaining s.1
  remaining_fetchAll h := by
    cases h
    exact cursor.remaining_fetchAll rfl
  remaining_nextSet h := by
    obtain ⟨hfurther, rfl⟩ := Prod.mk.inj h
    exact cursor.remaining_nextSet (Prod.ext hfurther rfl)

end Cursor

end ParamSql
