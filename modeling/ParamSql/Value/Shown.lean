import ParamSql.Value
import ParamSql.Decimal.Shortest
import ParamSql.Text.Quoted

/-!
How values are shown in messages, logs and comma-joined lists.

`Value.shown` is the unambiguous form, with texts in quotes; `Value.plain` is the same except that
a text stands for itself and a constant shows its label.
-/

namespace ParamSql

namespace Value

def intText (n : Int) : String :=
  if n < 0 then "-" ++ String.ofList (Nat.toDigits 10 n.natAbs)
  else String.ofList (Nat.toDigits 10 n.natAbs)

def boolText (b : Bool) : String :=
  if b then "True" else "False"

/-- A constant between angle brackets, with its text. -/
def shownConstant (c : Constant) : String :=
  "<" ++ c.label ++ ": " ++ Text.quoted c.text ++ ">"

mutual

/-- The unambiguous text of a value. -/
def shown : Value → String
  | null => "None"
  | unset => "UNSET"
  | bool b => boolText b
  | int n => intText n
  | float x => x.text
  | text s => Text.quoted s
  | bytes bs => Text.quotedBytes bs
  | constant c => shownConstant c
  | list items => "[" ++ ", ".intercalate (shownItems items) ++ "]"
  | tuple [item] => "(" ++ shown item ++ ",)"
  | tuple items => "(" ++ ", ".intercalate (shownItems items) ++ ")"
  | mapping entries => "\x7b" ++ ", ".intercalate (shownEntries entries) ++ "\x7d"
  | record schema fields =>
    schema.title ++ "(" ++ ", ".intercalate (shownFields fields) ++ ")"

def shownItems : List Value → List String
  | [] => []
  | v :: rest => shown v :: shownItems rest

def shownEntries : List (Value × Value) → List String
  | [] => []
  | (k, v) :: rest => (shown k ++ ": " ++ shown v) :: shownEntries rest

def shownFields : List (String × Value) → List String
  | [] => []
  | (f, v) :: rest => (f ++ "=" ++ shown v) :: shownFields rest

end

/-- The text of a value that stands on its own. -/
def plain : Value → String
  | text s => s
  | constant c => c.label
  | record _ fields => " ".intercalate (shownFields fields)
  | v => v.shown

end Value

end ParamSql
