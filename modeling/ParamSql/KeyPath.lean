import ParamSql.Value.Shown

/-!
Key paths: where a key stands inside a nested specification, outermost key first.
-/

namespace ParamSql

/-- The keys from the outermost to the innermost. -/
structure KeyPath where
  keys : List String
  deriving DecidableEq, Repr

namespace KeyPath

def root : KeyPath := ⟨[]⟩

def descend (path : KeyPath) (key : String) : KeyPath :=
  ⟨path.keys ++ [key]⟩

def leave (path : KeyPath) : KeyPath :=
  ⟨path.keys.dropLast⟩

/-- The innermost key. -/
def column? (path : KeyPath) : Option String :=
  path.keys.getLast?

/-- The key around the innermost one. -/
def parent? (path : KeyPath) : Option String :=
  path.leave.column?

def shown (path : KeyPath) : String :=
  "KeyPath(" ++ (Value.list (path.keys.map .text)).shown ++ ")"

theorem leave_descend (path : KeyPath) (key : String) : (path.descend key).leave = path := by
  simp [descend, leave]

theorem column?_descend (path : KeyPath) (key : String) :
    (path.descend key).column? = some key := by
  simp [descend, column?]

theorem parent?_descend (path : KeyPath) (key : String) :
    (path.descend key).parent? = path.column? := by
  simp [parent?, leave_descend]

end KeyPath

end ParamSql
