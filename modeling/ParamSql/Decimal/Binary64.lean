/-!
Binary floating-point numbers of 64 bits, decoded to an exact value.

A number is its bit pattern. `Binary64.reading` gives what the pattern stands for: a significand
times a power of two with a sign, an infinity, or no number at all.
-/

namespace ParamSql

/-- A floating-point number in the 64-bit binary format. -/
structure Binary64 where
  bits : UInt64
  deriving DecidableEq, BEq, Repr, Inhabited

namespace Binary64

/-- What a bit pattern stands for; a finite number is `± significand * 2 ^ exponent`. -/
inductive Reading where
  | nan
  | infinite (negative : Bool)
  | finite (negative : Bool) (significand : Nat) (exponent : Int)
  deriving DecidableEq, Repr

def fractionCount : Nat := 0x10000000000000

def exponentCount : Nat := 0x800

/-- The first integer beyond a signed word of 64 bits: two to the power of sixty-three. -/
def wordBound : Nat := 0x8000000000000000

/-- Whether the integer fits into a signed word of 64 bits. -/
def fitsWord (n : Int) : Bool :=
  -(wordBound : Int) ≤ n && n < (wordBound : Int)

def negative (x : Binary64) : Bool :=
  x.bits.toNat / wordBound == 1

def exponentField (x : Binary64) : Nat :=
  x.bits.toNat / fractionCount % exponentCount

def fractionField (x : Binary64) : Nat :=
  x.bits.toNat % fractionCount

/-- The value of a bit pattern; an exponent field of zero means a subnormal number. -/
def reading (x : Binary64) : Reading :=
  if x.exponentField == exponentCount - 1 then
    if x.fractionField == 0 then .infinite x.negative else .nan
  else if x.exponentField == 0 then .finite x.negative x.fractionField (-1074)
  else .finite x.negative (x.fractionField + fractionCount) ((x.exponentField : Int) - 1075)

def isZero (x : Binary64) : Bool :=
  match x.reading with
  | .finite _ 0 _ => true
  | _ => false

/-- How the conversion of a number to an integer can fail. -/
inductive NotWhole where
  | notFinite
  | fractional
  | outOfRange
  deriving DecidableEq, Repr

def signed (negative : Bool) (n : Nat) : Int :=
  if negative then -(n : Int) else n

/-- The number as an integer, which has to lie strictly between `-2^63` and `2^63`. -/
def toInt? (x : Binary64) : Except NotWhole Int :=
  match x.reading with
  | .nan | .infinite _ => .error .notFinite
  | .finite negative m e =>
    let scale := Nat.pow 2 e.natAbs
    if e < 0 && m % scale != 0 then .error .fractional
    else
      let n := if e < 0 then m / scale else m * scale
      if n < wordBound then .ok (signed negative n) else .error .outOfRange

end Binary64

end ParamSql
