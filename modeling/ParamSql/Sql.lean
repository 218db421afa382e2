/-!
SQL text with parameters.

A fragment is a list of pieces: verbatim text, holes that each take the next parameter, and the
room taken by parameters that a verbatim text numbers itself. What is built on a context is text
only, with placeholders that were numbered when their values were bound. Holes and room stand for
parameters in the account of a draft; there `Sql.write` fills the numbers in from left to right,
after the parameters already taken (`write_append`).
-/

namespace ParamSql

/-- A piece of a fragment. -/
inductive Piece where
  | text (s : String)
  | hole
  | room (count : Nat)
  deriving DecidableEq, Repr

def Piece.arity : Piece → Nat
  | .text _ => 0
  | .hole => 1
  | .room count => count

structure Sql where
  pieces : List Piece
  deriving DecidableEq, Repr

namespace Sql

def verbatim (s : String) : Sql := ⟨[.text s]⟩

/-- The place of the next parameter. -/
def hole : Sql := ⟨[.hole]⟩

/-- Room for parameters that the text around it numbers itself. -/
def room (count : Nat) : Sql := ⟨[.room count]⟩

def empty : Sql := ⟨[]⟩

instance : EmptyCollection Sql := ⟨empty⟩

instance : Append Sql := ⟨fun a b => ⟨a.pieces ++ b.pieces⟩⟩

instance : Coe String Sql := ⟨verbatim⟩

def joined (separator : String) : List Sql → Sql
  | [] => empty
  | [fragment] => fragment
  | fragment :: rest => fragment ++ verbatim separator ++ joined separator rest

def piecesText : List Piece → String
  | [] => ""
  | .text s :: rest => s ++ piecesText rest
  | _ :: rest => piecesText rest

/-- The text of a fragment that is text only. -/
def text (sql : Sql) : String :=
  piecesText sql.pieces

def piecesArity : List Piece → Nat
  | [] => 0
  | piece :: rest => piece.arity + piecesArity rest

def arity (sql : Sql) : Nat :=
  piecesArity sql.pieces

/-- The placeholder of the parameter at a position, counted from one. -/
def placeholder (position : Nat) : String :=
  "$" ++ String.ofList (Nat.toDigits 10 position)

def writePieces (taken : Nat) : List Piece → String
  | [] => ""
  | .text s :: rest => s ++ writePieces taken rest
  | .hole :: rest => placeholder (taken + 1) ++ writePieces (taken + 1) rest
  | .room count :: rest => writePieces (taken + count) rest

/-- The text of the fragment, with `taken` parameters before it. -/
def write (taken : Nat) (sql : Sql) : String :=
  writePieces taken sql.pieces

/-- The texts of fragments that take their parameters one after the other. -/
def writeAll (taken : Nat) : List Sql → List String
  | [] => []
  | fragment :: rest => fragment.write taken :: writeAll (taken + fragment.arity) rest

def isEmpty (sql : Sql) : Bool :=
  sql.pieces.all fun
    | .text s => s.isEmpty
    | .hole => false
    | .room _ => true

/-- Whether the fragment has no text but blanks; `blank` tells which texts those are. -/
def isBlankBy (blank : String → Bool) (sql : Sql) : Bool :=
  sql.pieces.all fun
    | .text s => blank s
    | .hole => false
    | .room _ => true

def nonEmpty (fragments : List Sql) : List Sql :=
  fragments.filter fun fragment => !fragment.isEmpty

/-! ## Fragments side by side -/

@[simp] theorem pieces_append (a b : Sql) : (a ++ b).pieces = a.pieces ++ b.pieces := rfl

@[simp] theorem piecesArity_append (a b : List Piece) :
    piecesArity (a ++ b) = piecesArity a + piecesArity b := by
  induction a with
  | nil => simp [piecesArity]
  | cons p rest ih => simp [piecesArity, ih, Nat.add_assoc]

@[simp] theorem arity_append (a b : Sql) : (a ++ b).arity = a.arity + b.arity := by
  simp [arity]

theorem writePieces_append (taken : Nat) (a b : List Piece) :
    writePieces taken (a ++ b) =
      writePieces taken a ++ writePieces (taken + piecesArity a) b := by
  induction a generalizing taken with
  | nil => simp [writePieces, piecesArity]
  | cons p rest ih =>
    cases p <;>
      simp [writePieces, piecesArity, Piece.arity, ih, String.append_assoc, Nat.add_assoc]

/-- What stands behind a fragment is numbered after its parameters. -/
theorem write_append (taken : Nat) (a b : Sql) :
    (a ++ b).write taken = a.write taken ++ b.write (taken + a.arity) :=
  writePieces_append taken a.pieces b.pieces

end Sql

end ParamSql
