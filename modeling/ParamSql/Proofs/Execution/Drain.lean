import ParamSql.Execution.Cursor

/-!
Reading every result set of a cursor.

A turn at a result set fetches its rows if it has a description, and then asks for the next set.
Turns go on as long as there is a next set; `Drains` follows them one by one, without a bound given
beforehand, and `drain` ends with what they give (`drain_of_drains`). Of the cursor it is assumed
that it shows its result sets one after the other (`Shows`). From the first of `n` result sets
there are `n` turns then, with the rows of all described sets in order (`Shows.drains`), and nothing
else is asked of the cursor (`query_reads_all`).
-/

namespace ParamSql

namespace CursorCall

def isExecute : CursorCall → Bool
  | execute _ _ => true
  | _ => false

def isFetchAll : CursorCall → Bool
  | fetchAll => true
  | _ => false

def isNextSet : CursorCall → Bool
  | nextSet => true
  | _ => false

end CursorCall

namespace Cursor

variable {σ : Type} {cursor : Cursor σ}

/-! ## Turns -/

/-- Turns from one state to another: how many there are, and the rows that they gave. -/
inductive Drains (cursor : Cursor σ) : Nat → σ → List Value → σ → Prop where
  | stop {s s' : σ} {rows : List Value} (h : cursor.turn s = (rows, false, s')) :
    Drains cursor 1 s rows s'
  | again {n : Nat} {s s' s'' : σ} {rows later : List Value}
    (h : cursor.turn s = (rows, true, s')) (hrest : Drains cursor n s' later s'') :
    Drains cursor (n + 1) s (rows ++ later) s''

/-- Draining a cursor is taking turns until there is no next set. -/
theorem drain_of_drains {n : Nat} {s s' : σ} {rows : List Value} (h : cursor.Drains n s rows s') :
    cursor.drain s = (rows, s') := by
  induction h with
  | stop hturn =>
    rw [drain]
    split
    · next hfurther => cases hfurther.symm.trans hturn
    · next hlast =>
      cases hlast.symm.trans hturn
      rfl
  | again hturn _ ih =>
    rw [drain]
    split
    · next hfurther =>
      cases hfurther.symm.trans hturn
      rw [ih]
    · next hlast => cases hlast.symm.trans hturn

/-- The turns from a state are determined. -/
theorem Drains.unique {n m : Nat} {s s' t : σ} {rows others : List Value}
    (h : cursor.Drains n s rows s') (ht : cursor.Drains m s others t) :
    m = n ∧ others = rows ∧ t = s' := by
  induction h generalizing m others t with
  | stop hturn =>
    cases ht with
    | stop hturn' =>
      cases hturn'.symm.trans hturn
      exact ⟨rfl, rfl, rfl⟩
    | again hturn' _ => cases hturn'.symm.trans hturn
  | again hturn _ ih =>
    cases ht with
    | stop hturn' => cases hturn'.symm.trans hturn
    | again hturn' hrest' =>
      cases hturn'.symm.trans hturn
      obtain ⟨rfl, rfl, rfl⟩ := ih hrest'
      exact ⟨rfl, rfl, rfl⟩

/-! ## What a cursor shows -/

/-- The rows of a result set; one without a description has none. -/
def rowsOf (set : ResultSet) : List Value :=
  set.getD []

/-- What is asked of a cursor while it stands at a result set. -/
def askedAt : ResultSet → List CursorCall
  | some _ => [.fetchAll, .nextSet]
  | none => [.nextSet]

/-- A cursor shows result sets one after the other, as its driver documents. `stands sets s` is to
say that in the state `s` it stands at the first of `sets`, with the others to come. -/
structure Shows (cursor : Cursor σ) (stands : List ResultSet → σ → Prop) : Prop where
  described {set : ResultSet} {rest : List ResultSet} {s : σ} (h : stands (set :: rest) s) :
    cursor.described s = set.isSome
  /-- The rows are those of the set, and are gone from it afterwards. -/
  fetchAll {rows : List Value} {rest : List ResultSet} {s : σ} (h : stands (some rows :: rest) s) :
    ∃ s', cursor.fetchAll s = (rows, s') ∧ stands (some [] :: rest) s'
  nextSet {set : ResultSet} {rest : List ResultSet} {s : σ} (h : stands (set :: rest) s) :
    ∃ s', cursor.nextSet s = (!rest.isEmpty, s') ∧ stands rest s'

theorem onSets_shows : onSets.Shows fun sets s => s = sets where
  described := by
    rintro (_ | _) rest _ rfl <;> rfl
  fetchAll := by
    rintro rows rest _ rfl
    exact ⟨_, rfl, rfl⟩
  nextSet := by
    rintro set rest _ rfl
    refine ⟨rest, ?_, rfl⟩
    cases rest <;> simp [onSets]

variable {stands : List ResultSet → σ → Prop}

/-- What a turn does at a result set. -/
theorem Shows.turn (hcursor : cursor.Shows stands) {set : ResultSet} {rest : List ResultSet}
    {s : σ} (h : stands (set :: rest) s) :
    ∃ s', cursor.turn s = (rowsOf set, !rest.isEmpty, s') ∧ stands rest s' := by
  have hdescribed := hcursor.described h
  cases set with
  | none =>
    obtain ⟨s', hnext, hstands⟩ := hcursor.nextSet h
    refine ⟨s', ?_, hstands⟩
    rw [Cursor.turn, rowsHere, hdescribed, ← hnext]
    rfl
  | some rows =>
    obtain ⟨fetched, hfetch, hleft⟩ := hcursor.fetchAll h
    obtain ⟨s', hnext, hstands⟩ := hcursor.nextSet hleft
    have hhere : cursor.rowsHere s = (rows, fetched) := by
      rw [rowsHere, hdescribed, ← hfetch]
      rfl
    refine ⟨s', ?_, hstands⟩
    rw [Cursor.turn, hhere, ← hnext]
    rfl

/-- Recording a cursor changes nothing else in a turn. -/
theorem recorded_turn (cursor : Cursor σ) (s : σ) (calls : List CursorCall) :
    cursor.recorded.turn (s, calls) =
      ((cursor.turn s).1, (cursor.turn s).2.1, (cursor.turn s).2.2,
        calls ++ if cursor.described s then [.fetchAll, .nextSet] else [.nextSet]) := by
  have hrecorded : cursor.recorded.described (s, calls) = cursor.described s := rfl
  rw [Cursor.turn, Cursor.turn, rowsHere, rowsHere, hrecorded]
  cases cursor.described s with
  | false => rfl
  | true =>
    show (_, _, _, (calls ++ [.fetchAll]) ++ [.nextSet]) = _
    rw [List.append_assoc]
    rfl

theorem Shows.recorded_turn (hcursor : cursor.Shows stands) {set : ResultSet}
    {rest : List ResultSet} {s : σ} (h : stands (set :: rest) s) (calls : List CursorCall) :
    cursor.recorded.turn (s, calls) =
      ((cursor.turn s).1, (cursor.turn s).2.1, (cursor.turn s).2.2, calls ++ askedAt set) := by
  rw [Cursor.recorded_turn, hcursor.described h]
  cases set <;> rfl

/-- From the first of some result sets there is one turn for each of them, with its rows. -/
theorem Shows.drains (hcursor : cursor.Shows stands) {sets : List ResultSet} (hsets : sets ≠ [])
    {s : σ} (h : stands sets s) :
    ∃ s', cursor.Drains sets.length s (sets.flatMap rowsOf) s' ∧ stands [] s' ∧
      ∀ calls, cursor.recorded.Drains sets.length (s, calls) (sets.flatMap rowsOf)
        (s', calls ++ sets.flatMap askedAt) := by
  induction sets generalizing s with
  | nil => exact absurd rfl hsets
  | cons set rest ih =>
    obtain ⟨next, hturn, hstands⟩ := hcursor.turn h
    have hasked := hcursor.recorded_turn h
    rw [hturn] at hasked
    rw [List.flatMap_cons, List.flatMap_cons]
    cases rest with
    | nil =>
      -- The last set: there is no further turn.
      rw [List.flatMap_nil, List.append_nil, List.flatMap_nil, List.append_nil]
      exact ⟨next, .stop hturn, hstands, fun calls => .stop (hasked calls)⟩
    | cons another rest =>
      obtain ⟨s', hlater, hend, hcalls⟩ := ih (List.cons_ne_nil another rest) hstands
      refine ⟨s', .again hturn hlater, hend, fun calls => ?_⟩
      rw [← List.append_assoc]
      exact .again (hasked calls) (hcalls _)

/-! ## What has been asked -/

/-- The calls of a kind are as many as the sets at which there is one. -/
theorem countP_askedAt {asked : CursorCall → Bool} {counted : ResultSet → Bool}
    (h : ∀ set, (askedAt set).countP asked = if counted set then 1 else 0)
    (sets : List ResultSet) :
    (sets.flatMap askedAt).countP asked = sets.countP counted := by
  induction sets with
  | nil => rfl
  | cons set rest ih =>
    rw [List.flatMap_cons, List.countP_append, ih, h, List.countP_cons, Nat.add_comm]

theorem countP_isExecute_askedAt (sets : List ResultSet) :
    (sets.flatMap askedAt).countP CursorCall.isExecute = 0 := by
  have hnone : (sets.flatMap askedAt).countP CursorCall.isExecute = sets.countP fun _ => false :=
    countP_askedAt (by rintro (_ | _) <;> rfl) sets
  rw [hnone, List.countP_false]
  rfl

theorem countP_isFetchAll_askedAt (sets : List ResultSet) :
    (sets.flatMap askedAt).countP CursorCall.isFetchAll = sets.countP Option.isSome :=
  countP_askedAt (by rintro (_ | _) <;> rfl) sets

theorem countP_isNextSet_askedAt (sets : List ResultSet) :
    (sets.flatMap askedAt).countP CursorCall.isNextSet = sets.length := by
  have hall : (sets.flatMap askedAt).countP CursorCall.isNextSet = sets.countP fun _ => true :=
    countP_askedAt (by rintro (_ | _) <;> rfl) sets
  rw [hall, List.countP_true]

/-! ## A whole query -/

/-- A text is sent if its values, where there are any, are a list or a tuple. -/
theorem exists_request (text : String) {values : Value}
    (hvalues : values.isTrue = true → values.elements?.isSome = true) :
    ∃ sent parameters, request text values = .ok (sent, parameters) := by
  unfold request
  cases htrue : values.isTrue with
  | false => exact ⟨text, none, rfl⟩
  | true =>
    obtain ⟨vs, hvs⟩ := Option.isSome_iff_exists.1 (hvalues htrue)
    rw [hvs]
    exact ⟨Token.nameParameters text, some (named 1 vs), rfl⟩

/-- Of a cursor that shows one result set or more once a text is executed, a query executes one text
and takes one turn at each result set. It fetches the sets with a description and no others, each
once, and gives their rows in order. -/
theorem query_reads_all (hcursor : cursor.Shows stands) (text : String) {values : Value}
    {sets : List ResultSet} {s : σ}
    (hvalues : values.isTrue = true → values.elements?.isSome = true) (hsets : sets ≠ [])
    (hexecute : ∀ sent parameters, request text values = .ok (sent, parameters) →
      stands sets (cursor.execute sent parameters s)) :
    ∃ sent parameters final calls,
      request text values = .ok (sent, parameters) ∧
      cursor.query text values s = .ok (sets.flatMap rowsOf, final) ∧
      (∀ n rows t, cursor.Drains n (cursor.execute sent parameters s) rows t ↔
        n = sets.length ∧ rows = sets.flatMap rowsOf ∧ t = final) ∧
      stands [] final ∧
      cursor.recorded.query text values (s, []) = .ok (sets.flatMap rowsOf, final, calls) ∧
      calls = .execute sent parameters :: sets.flatMap askedAt ∧
      calls.countP CursorCall.isExecute = 1 ∧
      calls.countP CursorCall.isNextSet = sets.length ∧
      calls.countP CursorCall.isFetchAll = sets.countP Option.isSome := by
  obtain ⟨sent, parameters, hsent⟩ := exists_request text hvalues
  obtain ⟨final, hdrains, hend, hrecorded⟩ := hcursor.drains hsets (hexecute _ _ hsent)
  refine ⟨sent, parameters, final, .execute sent parameters :: sets.flatMap askedAt, hsent, ?_, ?_,
    hend, ?_, rfl, ?_, ?_, ?_⟩
  · rw [query, hsent]
    exact congrArg Except.ok (drain_of_drains hdrains)
  · refine fun n rows t => ⟨hdrains.unique, ?_⟩
    rintro ⟨rfl, rfl, rfl⟩
    exact hdrains
  · rw [query, hsent]
    exact congrArg Except.ok (drain_of_drains (hrecorded [.execute sent parameters]))
  · rw [List.countP_cons, countP_isExecute_askedAt]
    rfl
  · rw [List.countP_cons, countP_isNextSet_askedAt]
    rfl
  · rw [List.countP_cons, countP_isFetchAll_askedAt]
    rfl

/-- Sets without a description stand first, between the others and last; the set without rows is
fetched all the same. -/
theorem query_reads_all_between :
    ∃ sent parameters final calls,
      request "SELECT $1" (.list [.text "a"]) = .ok (sent, parameters) ∧
      onSets.recorded.query "SELECT $1" (.list [.text "a"])
        ([none, some [.text "a"], none, some [], some [.int 1, .int 2], none], []) =
          .ok ([.text "a", .int 1, .int 2], final, calls) ∧
      calls.countP CursorCall.isNextSet = 6 ∧
      calls.countP CursorCall.isFetchAll = 3 := by
  let sets : List ResultSet :=
    [none, some [.text "a"], none, some [], some [.int 1, .int 2], none]
  have hvalues : (Value.list [.text "a"]).isTrue = true →
      (Value.list [.text "a"]).elements?.isSome = true := fun _ => rfl
  have hsets : sets ≠ [] := List.cons_ne_nil _ _
  obtain ⟨sent, parameters, final, calls, hsent, -, -, -, hquery, -, -, hnext, hfetched⟩ :=
    query_reads_all onSets_shows "SELECT $1" hvalues hsets fun _ _ _ => rfl
  exact ⟨sent, parameters, final, calls, hsent, hquery, hnext, hfetched⟩

end Cursor

end ParamSql
