import ParamSql.Decimal.Binary64

/-!
The shortest decimal text that reads back as a given floating-point number.

A positive number `v = m * 2^q` is the reading of every decimal in an interval around it: up to
half way to its neighbours, ends included when `m` is even. For `1, 2, …, 17` digits the two
neighbours of `v` on that decimal grid are tested; the first grid with a hit wins, of two hits the
nearer, and of two equally near ones the even digit. All arithmetic is exact.
-/

namespace ParamSql.Decimal

/-- The number `n * 2^two * 10^ten` as a fraction of natural numbers. -/
def scaled (n : Nat) (two ten : Int) : Nat × Nat :=
  (n * Nat.pow 2 two.toNat * Nat.pow 10 ten.toNat,
    Nat.pow 2 (-two).toNat * Nat.pow 10 (-ten).toNat)

/-- The order of two fractions. -/
def compareFractions (a b : Nat × Nat) : Ordering :=
  compare (a.1 * b.2) (b.1 * a.2)

/-- A positive number with the interval of decimals that read back as it, in units of `2^unit`. -/
structure Window where
  low : Nat
  value : Nat
  high : Nat
  unit : Int
  closed : Bool

/-- The window of `m * 2^q`. Below a power of two the neighbour is only half as far away, unless
the number is the least normal one. -/
def window (m : Nat) (q : Int) : Window :=
  -- In quarters of `2^q`, so that the ends of the interval are whole.
  let half := if m == Binary64.fractionCount && q != -1074 then 1 else 2
  ⟨4 * m - half, 4 * m, 4 * m + 2, q - 2, m % 2 == 0⟩

def Window.contains (w : Window) (d : Nat) (k : Int) : Bool :=
  let x := scaled d 0 k
  let below := compareFractions (scaled w.low w.unit 0) x
  let above := compareFractions x (scaled w.high w.unit 0)
  if w.closed then below != .gt && above != .gt else below == .lt && above == .lt

def digitCount (n : Nat) : Nat :=
  (Nat.toDigits 10 n).length

/-- The decimal exponent `p` with `10^(p-1) ≤ v < 10^p`, for the value of a window. -/
def Window.magnitude (w : Window) : Int :=
  -- `30103 / 100000` is about the logarithm of 2, so the guess is right or slightly too small.
  let guess : Int := ((Nat.log2 w.value : Int) + w.unit) * 30103 / 100000
  let v := scaled w.value w.unit 0
  if compareFractions v (scaled 1 0 guess) == .lt then guess
  else if compareFractions v (scaled 1 0 (guess + 1)) == .lt then guess + 1
  else guess + 2

/-- The better of the two neighbours of the window's value on the grid `10^k`, if one is inside. -/
def Window.pick (w : Window) (k : Int) : Option Nat :=
  let v := scaled w.value w.unit (-k)
  let down := v.1 / v.2
  let up := down + 1
  match w.contains down k && down != 0, w.contains up k with
  | true, true =>
    match compare (2 * v.1) ((2 * down + 1) * v.2) with
    | .lt => some down
    | .gt => some up
    | .eq => some (if down % 2 == 0 then down else up)
  | true, false => some down
  | false, true => some up
  | false, false => none

/-- Digits and the position of the decimal point: `0.d₁d₂… * 10^point`. -/
structure Digits where
  digits : List Char
  point : Int
  deriving DecidableEq, Repr

/-- The number `d * 10^k` without the zeros at its end. -/
def Digits.ofScaled (d : Nat) (k : Int) : Digits :=
  let ds := Nat.toDigits 10 d
  ⟨(ds.reverse.dropWhile (· == '0')).reverse, k + ds.length⟩

/-- The shortest digits of the positive number `m * 2^q`. -/
def shortest (m : Nat) (q : Int) : Digits :=
  let w := window m q
  let p := w.magnitude
  let hit := (List.range 17).findSome? fun (n : Nat) =>
    let k := p - ((n : Int) + 1)
    (w.pick k).map (Digits.ofScaled · k)
  hit.getD ⟨[], 0⟩

/-- A decimal exponent: a sign and at least two digits. -/
def exponentText (n : Int) : List Char :=
  let ds := Nat.toDigits 10 n.natAbs
  (if n < 0 then '-' else '+') :: (if ds.length < 2 then '0' :: ds else ds)

/-- Digits with a point among them, or with an exponent when the number is below `10^-4` or not
below `10^16`; there is always a point or an exponent. -/
def Digits.text (d : Digits) : List Char :=
  let n : Int := d.digits.length
  if d.point ≤ -4 || 16 < d.point then
    -- A single digit has no point before the exponent.
    match d.digits with
    | [] => []
    | [c] => c :: 'e' :: exponentText (d.point - 1)
    | c :: rest => c :: '.' :: rest ++ 'e' :: exponentText (d.point - 1)
  else if d.point ≤ 0 then
    '0' :: '.' :: List.replicate (-d.point).toNat '0' ++ d.digits
  else if n ≤ d.point then
    d.digits ++ List.replicate (d.point - n).toNat '0' ++ ['.', '0']
  else
    d.digits.take d.point.toNat ++ '.' :: d.digits.drop d.point.toNat

end ParamSql.Decimal

namespace ParamSql

open Decimal in
/-- The text of a number: the shortest one that reads back, `inf`, or `nan`. -/
def Binary64.text (x : Binary64) : String :=
  match x.reading with
  | .nan => "nan"
  | .infinite negative => if negative then "-inf" else "inf"
  | .finite negative m q =>
    let body := if m == 0 then ['0', '.', '0'] else (shortest m q).text
    String.ofList (if negative then '-' :: body else body)

end ParamSql
