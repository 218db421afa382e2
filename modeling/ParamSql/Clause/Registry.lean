import ParamSql.Value.Shown
import ParamSql.Value.Key

/-!
Registries: which handler is responsible for a key of a specification.

Each keyword of a clause can be given a handler, and the last one given counts. Keys that are not
keywords go to the fallback handler.
-/

namespace ParamSql

class Keyword (κ : Type) extends BEq κ where
  /-- All keywords, in declaration order. -/
  all : List κ
  /-- The key that means the keyword. -/
  text : κ → String
  /-- The name of the family of keywords. -/
  family : String
  /-- The keyword that a constant stands for. -/
  ofConstant? : Constant → Option κ

instance : Keyword WhereKeyword where
  all := WhereKeyword.all
  text := WhereKeyword.text
  family := "WhereKeyword"
  ofConstant?
    | .whereKeyword k => some k
    | _ => none

instance : Keyword OrderKeyword where
  all := OrderKeyword.all
  text := OrderKeyword.text
  family := "OrderKeyword"
  ofConstant?
    | .orderKeyword k => some k
    | _ => none

/-- The handlers of a clause. -/
structure Registry (κ η : Type) where
  clause : String
  handlers : List (κ × η)
  fallback : Option η
  deriving Repr

/-- Why a registry refuses a request. -/
inductive RegistryError where
  | notKeyword (value : Value) (family : String)
  | noFallback (clause : String)
  | incomplete (clause : String) (missing : List String)
  | notKey (kind : String)
  deriving Repr

def RegistryError.message : RegistryError → String
  | notKeyword value family => value.shown ++ " is not a " ++ family ++ "."
  | noFallback clause => "No default " ++ clause ++ " handler registered."
  | incomplete clause missing =>
    clause ++ " registry incomplete: missing " ++
      (Value.list (missing.map Value.text)).shown ++ "."
  | notKey kind => "unhashable type: '" ++ kind ++ "'"

namespace Registry

variable {κ η : Type}

def new (clause : String) : Registry κ η := ⟨clause, [], none⟩

variable [Keyword κ]

/-- Handlers with one more; a keyword that has one already gets the new one. -/
def put (keyword : κ) (handler : η) : List (κ × η) → List (κ × η)
  | [] => [(keyword, handler)]
  | (k, h) :: rest =>
    if k == keyword then (k, handler) :: rest else (k, h) :: put keyword handler rest

def register (keyword : κ) (handler : η) (r : Registry κ η) : Registry κ η :=
  { r with handlers := put keyword handler r.handlers }

/-- The registry with a handler for the keyword that a value is, if it is one. -/
def registerValue (value : Value) (handler : η) (r : Registry κ η) :
    Except RegistryError (Registry κ η) :=
  let keyword? : Option κ :=
    match value with
    | .constant c => Keyword.ofConstant? c
    | _ => none
  match keyword? with
  | some keyword => .ok (r.register keyword handler)
  | none => .error (.notKeyword value (Keyword.family κ))

def registerFallback (handler : η) (r : Registry κ η) : Registry κ η :=
  { r with fallback := some handler }

/-- The handler of the keyword that a key means. -/
def handler? (r : Registry κ η) (key : String) : Option η :=
  (r.handlers.find? fun e => Keyword.text e.1 == key).map Prod.snd

def isKeyword (r : Registry κ η) (key : String) : Bool :=
  (r.handler? key).isSome

/-- The handler responsible for a key. -/
def resolve (r : Registry κ η) (key : String) : Except RegistryError η :=
  match r.handler? key with
  | some handler => .ok handler
  | none =>
    match r.fallback with
    | some handler => .ok handler
    | none => .error (.noFallback r.clause)

/-- What a query by text answers for a key that is any value; `other` is its answer for keys that
are not text. -/
def byKey {α : Type} (key : Value) (query : String → α) (other : α) : Except RegistryError α :=
  match key.unfitForKey? with
  | some kind => .error (.notKey kind)
  | none => .ok ((key.text?.map query).getD other)

/-- The texts of the keywords that have a handler, in ascending order. -/
def keywords (r : Registry κ η) : List String :=
  (r.handlers.map fun e => Keyword.text e.1).mergeSort fun a b => !decide (b < a)

/-- The texts of the keywords that have no handler, in declaration order. -/
def missing (r : Registry κ η) : List String :=
  (Keyword.all.filter fun (k : κ) => !r.isKeyword (Keyword.text k)).map Keyword.text

/-- Whether every keyword and the fallback have a handler. -/
def ensureComplete (r : Registry κ η) : Except RegistryError Unit :=
  if !r.missing.isEmpty then .error (.incomplete r.clause r.missing)
  else if r.fallback.isNone then .error (.incomplete r.clause ["default"])
  else .ok ()

end Registry

end ParamSql
