import ParamSql.Clause.Order
import ParamSql.Clause.Where

/-!
Compiling on a stack of keys.

One stack of keys tells where a clause stands in its specification. A key is put on it before its
entry is compiled and taken off afterwards, whether the entry compiled or not, and operators look at
the keys that are there.
-/

namespace ParamSql

/-- What is left of a stack of keys, and what is drafted on it. -/
def OnStack (α : Type) : Type :=
  KeyPath → KeyPath × Draft α

namespace OnStack

variable {α β : Type}

/-- One computation after another, each on the stack that the one before it leaves. If the first one
fails, its stack is what is left. -/
def andThen (x : OnStack α) (f : α → OnStack β) : OnStack β := fun stack =>
  let (left, draft) := x stack
  (match draft.result with
    | .ok a => (f a left).1
    | .error _ => left,
    draft >>= fun a => (f a left).2)

instance : Monad OnStack where
  pure a := fun stack => (stack, pure a)
  bind := andThen

/-- What is drafted from a look at the stack. -/
def look (f : KeyPath → Draft α) : OnStack α := fun stack =>
  (stack, f stack)

/-- A computation with a key put on the stack; the last key is taken off again, also after an
error. -/
def below (key : String) (body : OnStack α) : OnStack α := fun stack =>
  let (left, draft) := body (stack.descend key)
  (left.leave, draft)

end OnStack

/-! ## Clauses -/

/-- How a clause handles its keys: `inside?` gives what becomes of the fragments of a mapping below
a key if the mapping is gone through, and `operator` compiles the other entries, with the stack as
it is below their key. -/
structure Clause.Handlers where
  clause : ClauseName
  inside? : String → Option (List Sql → List Sql)
  operator : KeyPath → String → Value → Value → Draft (List Sql)

namespace Clause.Handlers

variable (handlers : Handlers)

mutual

def entries : List (Value × Value) → OnStack (List Sql)
  | [] => pure []
  | (key, value) :: rest => do
    let here ← entry key value
    let others ← entries rest
    pure (here ++ others)

/-- The fragments of one entry, compiled below its key. -/
def entry (key value : Value) : OnStack (List Sql) :=
  if value.isUnset then pure []
  else
    match key.text? with
    | none => .look fun stack => .fault handlers.clause (.keyNotText key) stack.keys
    | some name =>
      .below name <|
        match handlers.inside? name, value with
        | some wrapped, .mapping es => do
          let fragments ← entries es
          pure (wrapped fragments)
        | _, value => .look fun stack => handlers.operator stack name key value

end

def build (spec : Value) : OnStack (List Sql) :=
  match spec with
  | .mapping es => handlers.entries es
  | _ => .look fun stack => ofSpec handlers.clause (fun _ => pure []) stack spec

end Clause.Handlers

/-! ## Conditions and orders -/

namespace Where

def handlers : Clause.Handlers where
  clause := .where
  inside? name :=
    match rule name with
    | .group joiner => some (grouped joiner)
    | .column => some id
    | _ => none
  operator path name key value := do
    let fragment ← operator path name key value (rule name)
    pure [fragment]

/-- The conditions of a specification, compiled on a stack of keys. -/
def build (spec : Value) : OnStack (List Sql) :=
  handlers.build spec

end Where

namespace Order

def handlers : Clause.Handlers where
  clause := .orderBy
  inside? name :=
    match rule name with
    | .expression | .column => some id
    | _ => none
  operator path name key value := operator path name key value (rule name)

/-- The fragments of a term, compiled on a stack of keys. -/
def build (spec : Value) : OnStack (List Sql) :=
  handlers.build spec

end Order

end ParamSql
