/-!
Sets of characters given as closed ranges of code points.
-/

namespace ParamSql.Text

def inRanges (ranges : List (Nat × Nat)) (c : Char) : Bool :=
  ranges.any fun r => r.1 ≤ c.toNat && c.toNat ≤ r.2

end ParamSql.Text
