import ParamSql.Text.Digit

/-!
The placeholders in a text, and the same text with named placeholders.

A placeholder is a dollar sign with the digits after it, as many as there are; everything else is
read character by character, and the tokens of a text spell it out again (`text_tokens`). In the
named form `$n` is `%(pn)s` and a percent sign is written twice, so that no percent sign of the text
is taken for a name.
-/

namespace ParamSql

/-- A part of a statement's text: a character, or a placeholder with its digits. -/
inductive Token where
  | char (c : Char)
  | parameter (digits : List Char)
  deriving DecidableEq, Repr

namespace Token

def text : Token → List Char
  | char c => [c]
  | parameter digits => '$' :: digits

/-- The digits that a text starts with, and the tokens of the rest. -/
def scan : List Char → List Char × List Token
  | [] => ([], [])
  | c :: rest =>
    let found := scan rest
    if Text.isDecimalDigit c then (c :: found.1, found.2)
    else if c == '$' && !found.1.isEmpty then ([], parameter found.1 :: found.2)
    else ([], char c :: found.1.map char ++ found.2)

def tokens (cs : List Char) : List Token :=
  let (digits, tokens) := scan cs
  digits.map char ++ tokens

theorem flatMap_text_map_char (cs : List Char) : (cs.map char).flatMap text = cs := by
  induction cs with
  | nil => rfl
  | cons c rest ih => simp [text, ih]

theorem text_scan (cs : List Char) : (scan cs).1 ++ (scan cs).2.flatMap text = cs := by
  induction cs with
  | nil => rfl
  | cons c rest ih =>
    rw [scan]
    split
    · simp [ih]
    · split
      · next h =>
        have hc : c = '$' := by simpa using (Bool.and_eq_true_iff.1 h).1
        simp [text, hc, ih]
      · simp [text, flatMap_text_map_char, ih]

/-- The tokens of a text spell it out. -/
theorem text_tokens (cs : List Char) : (tokens cs).flatMap text = cs := by
  simp [tokens, flatMap_text_map_char, text_scan]

def named : Token → List Char
  | char c => if c == '%' then ['%', '%'] else [c]
  | parameter digits => ['%', '(', 'p'] ++ digits ++ [')', 's']

def nameParameters (query : String) : String :=
  String.ofList ((tokens query.toList).flatMap named)

end Token

end ParamSql
