import ParamSql.Text.Blank

/-!
Integers written as text, read leniently.

A text in the strict form is read as it is. Of any other text the blanks around it, one plus sign,
the leading zeros before and after a minus sign, a fraction of zeros and single underscores are left
out first, and what remains has to be in the strict form. Digits are those of ASCII.
-/

namespace ParamSql.Decimal

inductive WholeError where
  | malformed
  | tooLong
  deriving DecidableEq, Repr

/-- The greatest number of digits that is read; a minus sign is no digit. -/
def maxDigits : Nat := 4300

def digitsValue (cs : List Char) : Nat :=
  cs.foldl (fun n c => 10 * n + (c.toNat - '0'.toNat)) 0

/-- A natural number without leading zeros. The digits at the start of a text are counted before
what follows them is looked at. -/
def plainDigits : List Char → Except WholeError Nat
  | [] => .error .malformed
  | ['0'] => .ok 0
  | c :: cs =>
    let digits := c :: cs.takeWhile Char.isDigit
    if !c.isDigit || c == '0' then .error .malformed
    else if maxDigits < digits.length then .error .tooLong
    else if cs.all Char.isDigit then .ok (digitsValue digits)
    else .error .malformed

/-- An integer in its strict form: an optional minus sign and digits without leading zeros. -/
def strictWhole : List Char → Except WholeError Int
  | '-' :: cs => (plainDigits cs).map fun n => -(n : Int)
  | cs => (plainDigits cs).map fun n => (n : Int)

/-- The text without a leading plus sign, which no minus sign may follow. -/
def dropPlus : List Char → Option (List Char)
  | '+' :: '-' :: _ => none
  | '+' :: cs => some cs
  | cs => some cs

/-- What is left after zeros and underscores, given the character just before. -/
def afterZeros (last : Char) : List Char → Option (List Char)
  | [] => some [last]
  | c :: cs =>
    if c == '0' || c == '_' then afterZeros c cs
    else if c.isDigit || c == '-' then some (c :: cs)
    else if c == '.' then some (last :: c :: cs)
    else none

/-- The text without leading zeros; it has to start with a digit or a minus sign. -/
def dropZeros : List Char → Option (List Char)
  | [] => none
  | c :: cs =>
    if c == '0' then afterZeros c cs
    else if c.isDigit || c == '-' then some (c :: cs)
    else none

/-- The text without the leading zeros behind its minus sign, or without its leading zeros if it
starts with none. -/
def dropSignedZeros : List Char → Option (List Char)
  | '-' :: cs => (dropZeros cs).map ('-' :: ·)
  | cs => dropZeros cs

/-- The text without a fraction that consists of zeros. -/
def dropZeroFraction (cs : List Char) : List Char :=
  match cs.dropWhile (· != '.') with
  | '.' :: zeros =>
    if !zeros.isEmpty && zeros.all (· == '0') then cs.takeWhile (· != '.') else cs
  | _ => cs

def hasDoubleUnderscore : List Char → Bool
  | [] => false
  | c :: cs => (c == '_' && cs.head? == some '_') || hasDoubleUnderscore cs

/-- The text without its underscores, if each stands alone between other characters. -/
def dropUnderscores (cs : List Char) : List Char :=
  if cs.head? == some '_' || cs.getLast? == some '_' || hasDoubleUnderscore cs then cs
  else cs.filter (· != '_')

/-- The text without all that the strict form does not allow; `none` if it cannot be a number. -/
def plainForm (cs : List Char) : Option (List Char) :=
  ((dropPlus (Text.trimBy Text.isWhiteSpace cs)).bind dropSignedZeros).map fun number =>
    dropUnderscores (dropZeroFraction number)

/-- The integer a text stands for. Only a text whose strict reading is too long is called so. -/
def readWhole (s : String) : Except WholeError Int :=
  match strictWhole s.toList with
  | .error .malformed =>
    match (plainForm s.toList).map strictWhole with
    | some (.ok n) => .ok n
    | _ => .error .malformed
  | r => r

end ParamSql.Decimal
