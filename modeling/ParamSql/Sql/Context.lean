import ParamSql.Sql.Draft

/-!
Parameter lists: the values that are bound so far, for one statement or for a batch.

A draft is run on such a list. Each value is put behind those that are there when it is bound, and
its placeholder has the number of its place.
-/

namespace ParamSql

/-- The bound values, and whether the statement has to run inside a transaction. -/
structure Context where
  values : List Value
  transaction : Bool
  deriving Repr

namespace Context

def empty (transaction : Bool) : Context := ⟨[], transaction⟩

/-- The context with one more value, and the position of the value counted from one. -/
def add (v : Value) (context : Context) : Context × Nat :=
  let values := context.values ++ [v]
  ({ context with values }, values.length)

/-- The context with more values, whose placeholders stand in a verbatim text. -/
def append (vs : List Value) (context : Context) : Context :=
  { context with values := context.values ++ vs }

/-- The context with the values that a value is walked through by. -/
def extend (vs : Value) (context : Context) : Except Misuse Context :=
  match vs.elements? with
  | some items => .ok (context.append items)
  | none => .error (.notIterable vs)

end Context

namespace Draft

/-- What running a draft leaves of the context, logs and gives. The values bound before an error
stay. -/
structure Run (α : Type) where
  context : Context
  notes : List Note
  result : Except Error α

variable {α : Type}

/-- The run of a draft on a context. A value gets the placeholder with its position at once; values
that a verbatim text numbers itself take no room in the text. -/
def run : Draft α → Context → Run α
  | done a, context => ⟨context, [], .ok a⟩
  | fail e, context => ⟨context, [], .error e⟩
  | noting note next, context =>
    let rest := next.run context
    { rest with notes := note :: rest.notes }
  | binding v next, context =>
    let (context, position) := context.add v
    (next (.verbatim (Sql.placeholder position))).run context
  | extending vs next, context => (next .empty).run (context.append vs)

end Draft

/-- What a draft of some fragments leaves of a context, and their texts or its error. -/
def Context.perform (draft : Draft (List Sql)) (context : Context) :
    Context × Except Error (List String) :=
  let run := draft.run context
  (run.context, run.result.map (List.map Sql.text))

end ParamSql
