import ParamSql.Text.Ranges

/-!
White space: which characters are blank, trimming, and the collapse of runs of spaces.

Only the plain space takes part in the collapse; tabs, line ends and the other blanks are kept
inside a text and go only at its ends.
-/

namespace ParamSql.Text

/-- The blank characters: the white space of Unicode and the four separators U+001C to U+001F. -/
def blankRanges : List (Nat × Nat) :=
  [(0x9, 0xD), (0x1C, 0x20), (0x85, 0x85), (0xA0, 0xA0), (0x1680, 0x1680), (0x2000, 0x200A),
    (0x2028, 0x2029), (0x202F, 0x202F), (0x205F, 0x205F), (0x3000, 0x3000)]

def isBlankChar (c : Char) : Bool :=
  inRanges blankRanges c

/-- Whether the character is white space in the narrow sense, without U+001C to U+001F. -/
def isWhiteSpace (c : Char) : Bool :=
  isBlankChar c && !inRanges [(0x1C, 0x1F)] c

/-- The items between the first and the last one that `p` does not accept. -/
def trimBy {α : Type} (p : α → Bool) (xs : List α) : List α :=
  ((xs.dropWhile p).reverse.dropWhile p).reverse

def strip (s : String) : String :=
  String.ofList (trimBy isBlankChar s.toList)

def isBlank (s : String) : Bool :=
  s.toList.all isBlankChar

/-- Every run of items that `p` accepts becomes its last item. -/
def squeezeBy {α : Type} (p : α → Bool) : List α → List α
  | [] => []
  | x :: rest => if p x && rest.head?.any p then squeezeBy p rest else x :: squeezeBy p rest

def squeezeSpaces (cs : List Char) : List Char :=
  squeezeBy (· == ' ') cs

/-- The normal form of a statement's text: runs of spaces are one space, the ends are trimmed. -/
def collapse (s : String) : String :=
  String.ofList (trimBy isBlankChar (squeezeSpaces s.toList))

end ParamSql.Text
