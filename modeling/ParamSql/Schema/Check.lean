import ParamSql.Schema.Issue
import ParamSql.Decimal.Whole
import ParamSql.Text.Case

/-!
Checks: from a value to a typed result, or to all the issues found on the way.

Checks convert leniently. Bytes count as text if they are UTF-8, whole floating-point numbers and
integers written as text count as integers, tuples and the fields of an instance count as lists.
Results are put together with `<$>` and `<*>`, which collect the issues of every part in order.
-/

namespace ParamSql

inductive Checked (α : Type) where
  | valid (result : α)
  | invalid (issues : List Issue)
  deriving Repr

namespace Checked

variable {α β : Type}

def map (f : α → β) : Checked α → Checked β
  | valid a => valid (f a)
  | invalid issues => invalid issues

/-- A function applied to an argument; the issues of both are kept. -/
def apply : Checked (α → β) → Checked α → Checked β
  | valid f, valid a => valid (f a)
  | valid _, invalid issues => invalid issues
  | invalid issues, valid _ => invalid issues
  | invalid first, invalid second => invalid (first ++ second)

instance : Functor Checked where
  map := map

instance : Applicative Checked where
  pure := valid
  seq f a := apply f (a ())

/-- An outcome with a single issue of the checked value itself. -/
def refuse (kind : IssueKind) : Checked α :=
  invalid [.here kind]

/-- The outcome seen from one step further up. -/
def under (step : Step) : Checked α → Checked α
  | valid a => valid a
  | invalid issues => invalid (issues.map (Issue.under step))

/-- The outcome, unless there are further issues. -/
def withIssues (further : List Issue) : Checked α → Checked α
  | valid a => if further.isEmpty then valid a else invalid further
  | invalid issues => invalid (issues ++ further)

def andThen (f : α → Checked β) : Checked α → Checked β
  | valid a => f a
  | invalid issues => invalid issues

end Checked

abbrev Check (α : Type) := Value → Checked α

namespace Check

variable {α β : Type}

def any : Check Value := .valid

def map (f : α → β) (check : Check α) : Check β :=
  fun v => (check v).map f

/-- The characters of a byte string that is UTF-8. -/
def decodeUtf8? (bs : List UInt8) : Option String :=
  String.fromUTF8? ⟨bs.toArray⟩

/-- A text: a text, a constant, or bytes that are UTF-8. -/
def text : Check String
  | .text s => .valid s
  | .constant c => .valid c.text
  | .bytes bs =>
    match decodeUtf8? bs with
    | some s => .valid s
    | none => .refuse .notUtf8
  | _ => .refuse .notText

def readInteger (s : String) : Checked Int :=
  match Decimal.readWhole s with
  | .ok n => .valid n
  | .error .malformed => .refuse .malformedInteger
  | .error .tooLong => .refuse .integerTooLong

/-- An integer: a number that is whole, a truth value, or an integer written as text. -/
def integer : Check Int
  | .bool b => .valid (if b then 1 else 0)
  | .int n => .valid n
  | .float x =>
    match x.toInt? with
    | .ok n => .valid n
    | .error .notFinite => .refuse .notFinite
    | .error .fractional => .refuse .fractionalInteger
    | .error .outOfRange => .refuse .integerTooLong
  | .text s => readInteger s
  | .constant c => readInteger c.text
  | .bytes bs =>
    match decodeUtf8? bs with
    | some s => readInteger s
    | none => .refuse .malformedInteger
  | _ => .refuse .notInteger

def natural : Check Nat :=
  fun v => (integer v).andThen fun n => if 0 ≤ n then .valid n.toNat else .refuse .negative

def trueTexts : List String := ["1", "on", "t", "true", "y", "yes"]

def falseTexts : List String := ["0", "off", "f", "false", "n", "no"]

/-- A truth value written as text, in any case of its letters. -/
def readFlag (s : String) : Checked Bool :=
  let word := String.ofList (s.toList.map Char.toLower)
  if trueTexts.contains word then .valid true
  else if falseTexts.contains word then .valid false
  else .refuse .malformedFlag

def flagOfInt (n : Int) : Checked Bool :=
  if n == 1 then .valid true else if n == 0 then .valid false else .refuse .malformedFlag

/-- A truth value: itself, the numbers zero and one, or one of the texts for it. -/
def flag : Check Bool
  | .bool b => .valid b
  | .int n => if Binary64.fitsWord n then flagOfInt n else .refuse .notFlag
  | .float x =>
    match x.toInt? with
    | .ok n => flagOfInt n
    | .error _ => .refuse .notFlag
  | .text s => readFlag s
  | .constant c => readFlag c.text
  | .bytes bs =>
    match decodeUtf8? bs with
    | some s => readFlag s
    | none => .refuse .malformedFlag
  | _ => .refuse .notFlag

/-- The items of a list, each checked, counting positions from `start`. -/
def items (check : Check α) (start : Nat) : List Value → Checked (List α)
  | [] => .valid []
  | v :: rest => List.cons <$> (check v).under (.index start) <*> items check (start + 1) rest

/-- Checked items: those of a list or a tuple, or the named fields of a schema instance. -/
def listOf (check : Check α) : Check (List α)
  | .list vs | .tuple vs => items check 0 vs
  | .record _ fields => items check 0 (Value.namedFields fields)
  | _ => .refuse .notList

def entries (check : Check α) : List (Value × Value) → Checked (List (String × α))
  | [] => .valid []
  | (k, v) :: rest =>
    let key := ((text k).under (.key "[key]")).under (Step.ofKey k)
    let entry := Prod.mk <$> key <*> (check v).under (Step.ofKey k)
    List.cons <$> entry <*> entries check rest

/-- Entries by name: a name that occurs again keeps its first place and its last value. -/
def merged (es : List (String × α)) : List (String × α) :=
  es.foldl (fun acc e => Value.putNamed e.1 e.2 acc) []

def mappingOf (check : Check α) : Check (List (String × α))
  | .mapping es => (entries check es).map merged
  | _ => .refuse .notMapping

/-- The first of two checks that passes; if neither does, the issues of both. -/
def either (first second : Check α) : Check α := fun v =>
  match first v with
  | .valid a => .valid a
  | .invalid issues =>
    match second v with
    | .valid a => .valid a
    | .invalid more => .invalid (issues ++ more)

def nullable (check : Check α) : Check (Option α)
  | .null => .valid none
  | v => (check v).map some

end Check

/-- The name of a field in a mapping: its key, and a second one that is read when the first is
absent. -/
structure FieldName where
  key : String
  second : Option String := none
  deriving DecidableEq, Repr

instance : Coe String FieldName := ⟨fun key => ⟨key, none⟩⟩

namespace FieldName

/-- The key under which the field is given. -/
def given? (name : FieldName) (es : List (Value × Value)) : Option String :=
  match Value.lookupText name.key es with
  | some _ => some name.key
  | none => name.second.filter fun s => (Value.lookupText s es).isSome

def find? (name : FieldName) (es : List (Value × Value)) : Option (String × Value) :=
  (name.given? es).bind fun key => (Value.lookupText key es).map fun v => (key, v)

variable {α : Type}

/-- A field that has to be given; issues with its value are placed under the key it is given by. -/
def required (name : FieldName) (check : Check α) (es : List (Value × Value)) : Checked α :=
  match name.find? es with
  | some (key, v) => (check v).under (.key key)
  | none => .invalid [⟨[.key name.key], .missing⟩]

def optional (name : FieldName) (fallback : α) (check : Check α) (es : List (Value × Value)) :
    Checked α :=
  match name.find? es with
  | some (key, v) => (check v).under (.key key)
  | none => .valid fallback

end FieldName

namespace Check

/-- The issue with a key of a mapping, if it names no given field. Bytes are no names here. -/
def unknownKey (given : List String) (key : Value) : List Issue :=
  match key.text? with
  | none => [⟨[Step.ofKey key], .keyNotText⟩]
  | some name => if given.contains name then [] else [⟨[Step.ofKey key], .unknownField⟩]

def unknownKeys (names : List FieldName) (es : List (Value × Value)) : List Issue :=
  let given := names.filterMap fun name => name.given? es
  es.flatMap fun e => unknownKey given e.1

/-- A schema instance, or a mapping of its fields: fields that are `unset` are not given, no other
fields may be, and the rule of the schema is asked once the fields are right. -/
def schema {α : Type} (self : SchemaName) (names : List FieldName)
    (read : List (Value × Value) → Checked α) (rule : α → Checked α) : Check α
  | .record schema fields =>
    if schema == self then read (fields.map fun f => (.text f.1, f.2)) else .refuse .notSchema
  | .mapping es =>
    let es := Value.dropUnset es
    ((read es).withIssues (unknownKeys names es)).andThen rule
  | _ => .refuse .notSchema

end Check

end ParamSql
