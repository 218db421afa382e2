import ParamSql.Text.CaseTable

/-!
Lower and upper case by the full Unicode mappings.

A letter may become several (`ß` is `SS` in capitals), and a capital sigma at the end of a word
becomes the final sigma; every other letter is mapped on its own.
-/

namespace ParamSql.Text

/-- The code point a run of a case table sends `n` to. -/
def shifted? (runs : List (Nat × Nat × Nat × Int)) (n : Nat) : Option Nat :=
  runs.findSome? fun (first, last, step, shift) =>
    if first ≤ n && n ≤ last && (n - first) % step == 0 then some ((n : Int) + shift).toNat
    else none

/-- One character under a case table: its expansion, else its shifted code point, else itself. -/
def mapCase (runs : List (Nat × Nat × Nat × Int)) (expansions : List (Nat × List Nat))
    (c : Char) : List Char :=
  match expansions.lookup c.toNat with
  | some ns => ns.map Char.ofNat
  | none =>
    match shifted? runs c.toNat with
    | some n => [Char.ofNat n]
    | none => [c]

def lowerChar (c : Char) : List Char :=
  mapCase lowerRuns lowerExpansions c

def upperChar (c : Char) : List Char :=
  mapCase upperRuns upperExpansions c

/-- Whether the next character that is not case-ignorable is a letter with case. -/
def startsCased (cs : List Char) : Bool :=
  match cs.dropWhile (inRanges caseIgnorableRanges) with
  | [] => false
  | c :: _ => inRanges casedRanges c

/-- Lower case of a text; `inWord` tells whether a letter with case comes before it. -/
def lowerFrom (inWord : Bool) : List Char → List Char
  | [] => []
  | c :: rest =>
    let next := if inRanges caseIgnorableRanges c then inWord else inRanges casedRanges c
    if c == 'Σ' && inWord && !startsCased rest then 'ς' :: lowerFrom next rest
    else lowerChar c ++ lowerFrom next rest

def lower (cs : List Char) : List Char :=
  lowerFrom false cs

def upper (cs : List Char) : List Char :=
  cs.flatMap upperChar

end ParamSql.Text
