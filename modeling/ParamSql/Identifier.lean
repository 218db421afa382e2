import ParamSql.Text.Blank
import ParamSql.Text.Case

/-!
Names: the snake case of identifiers in statements and the camel case of keys in rows.

`snake` works on each dot-separated part of a qualified name by itself: an underscore is put at
every word boundary and the part is lowered. `camel` cuts a key at underscores, hyphens and blanks
and joins the words with capitals.
-/

namespace ParamSql.Identifier

/-- A text cut at every character that `sep` accepts; there is always at least one part. -/
def cut (sep : Char → Bool) : List Char → List (List Char)
  | [] => [[]]
  | c :: rest =>
    if sep c then [] :: cut sep rest
    else
      match cut sep rest with
      | [] => [[c]]
      | part :: parts => (c :: part) :: parts

/-- Whether the character is a capital letter of ASCII. -/
def isCapital (c : Char) : Bool :=
  'A' ≤ c && c ≤ 'Z'

/-- Whether the character is a small letter of ASCII. -/
def isSmall (c : Char) : Bool :=
  'a' ≤ c && c ≤ 'z'

/-- Whether a word ends after `c`: a capital follows a small letter or a digit, or it follows a
capital and starts a word of small letters. -/
def endsWord (c : Char) : List Char → Bool
  | [] => false
  | next :: after =>
    isCapital next &&
      (isSmall c || c.isDigit || (isCapital c && (after.head?.map isSmall).getD false))

/-- An underscore at every word boundary. -/
def markWords : List Char → List Char
  | [] => []
  | c :: rest => if endsWord c rest then c :: '_' :: markWords rest else c :: markWords rest

/-- The snake case of a qualified name, for a given way of lowering a part. -/
def snakeWith (lowering : List Char → List Char) (name : List Char) : List Char :=
  ['.'].intercalate ((cut (· == '.') name).map fun part => lowering (markWords part))

def snake (name : String) : String :=
  String.ofList (snakeWith Text.lower name.toList)

def separatesWords (c : Char) : Bool :=
  c == '_' || c == '-' || Text.isBlankChar c

def words (key : List Char) : List (List Char) :=
  (cut separatesWords key).filter fun w => !w.isEmpty

def mapFirst (f : Char → List Char) : List Char → List Char
  | [] => []
  | c :: rest => f c ++ rest

/-- The camel case of a key; a key without words stays as it is. -/
def camel (key : String) : String :=
  match words key.toList with
  | [] => key
  | first :: others =>
    String.ofList
      (mapFirst Text.lowerChar first ++ others.flatMap (mapFirst Text.upperChar))

end ParamSql.Identifier
