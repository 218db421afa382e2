/-!
Named constants that specifications and answers may use in place of a text.

Every constant has a family, a name in it and a text. Wherever a text is expected a constant counts
as its text; it is shown by its family and name.
-/

namespace ParamSql

inductive SortDirection where
  | asc
  | ascNullsFirst
  | desc
  | descNullsLast
  deriving DecidableEq, Repr

inductive JoinType where
  | left
  | inner
  | right
  | full
  deriving DecidableEq, Repr

/-- The keys with a meaning of their own inside a WHERE specification. -/
inductive WhereKeyword where
  | conjunction
  | disjunction
  | membership
  | nullTest
  | substring
  | verbatim
  deriving DecidableEq, Repr

/-- The keys with a meaning of their own inside an ORDER BY specification. -/
inductive OrderKeyword where
  | expression
  | direction
  | ranking
  deriving DecidableEq, Repr

inductive ErrorCode where
  | notFound
  deriving DecidableEq, Repr

namespace SortDirection

def all : List SortDirection :=
  [asc, ascNullsFirst, desc, descNullsLast]

def text : SortDirection → String
  | asc => "ASC"
  | ascNullsFirst => "ASC NULLS FIRST"
  | desc => "DESC"
  | descNullsLast => "DESC NULLS LAST"

def name : SortDirection → String
  | asc => "ASC"
  | ascNullsFirst => "ASC_NULLS_FIRST"
  | desc => "DESC"
  | descNullsLast => "DESC_NULLS_LAST"

def ofText? (s : String) : Option SortDirection :=
  all.find? fun d => d.text == s

end SortDirection

namespace JoinType

def all : List JoinType :=
  [left, inner, right, full]

def text : JoinType → String
  | left => "LEFT"
  | inner => "INNER"
  | right => "RIGHT"
  | full => "FULL"

def name (t : JoinType) : String := t.text

def ofText? (s : String) : Option JoinType :=
  all.find? fun t => t.text == s

end JoinType

namespace WhereKeyword

def all : List WhereKeyword :=
  [conjunction, disjunction, membership, nullTest, substring, verbatim]

/-- The key that means the keyword. -/
def text : WhereKeyword → String
  | conjunction => "and"
  | disjunction => "or"
  | membership => "in"
  | nullTest => "isNull"
  | substring => "ilike"
  | verbatim => "raw"

def name : WhereKeyword → String
  | conjunction => "AND"
  | disjunction => "OR"
  | membership => "IN"
  | nullTest => "IS_NULL"
  | substring => "ILIKE"
  | verbatim => "RAW"

end WhereKeyword

namespace OrderKeyword

def all : List OrderKeyword :=
  [expression, direction, ranking]

def text : OrderKeyword → String
  | expression => "by"
  | direction => "sort"
  | ranking => "in"

def name : OrderKeyword → String
  | expression => "BY"
  | direction => "SORT"
  | ranking => "IN"

end OrderKeyword

namespace ErrorCode

def all : List ErrorCode :=
  [notFound]

def text : ErrorCode → String
  | notFound => "404"

def name : ErrorCode → String
  | notFound => "NOT_FOUND"

def ofText? (s : String) : Option ErrorCode :=
  all.find? fun c => c.text == s

end ErrorCode

/-- A constant of any family. -/
inductive Constant where
  | sortDirection (d : SortDirection)
  | joinType (t : JoinType)
  | whereKeyword (k : WhereKeyword)
  | orderKeyword (k : OrderKeyword)
  | errorCode (c : ErrorCode)
  deriving DecidableEq, Repr

namespace Constant

def family : Constant → String
  | sortDirection _ => "SortDirection"
  | joinType _ => "JoinType"
  | whereKeyword _ => "WhereKeyword"
  | orderKeyword _ => "OrderKeyword"
  | errorCode _ => "DBErrorCode"

def name : Constant → String
  | sortDirection d => d.name
  | joinType t => t.name
  | whereKeyword k => k.name
  | orderKeyword k => k.name
  | errorCode c => c.name

/-- The text that the constant counts as. -/
def text : Constant → String
  | sortDirection d => d.text
  | joinType t => t.text
  | whereKeyword k => k.text
  | orderKeyword k => k.text
  | errorCode c => c.text

def all : List Constant :=
  SortDirection.all.map sortDirection ++ JoinType.all.map joinType ++
    WhereKeyword.all.map whereKeyword ++ OrderKeyword.all.map orderKeyword ++
    ErrorCode.all.map errorCode

/-- Family and name, the way a constant is shown inside other text. -/
def label (c : Constant) : String :=
  c.family ++ "." ++ c.name

def ofLabel? (s : String) : Option Constant :=
  all.find? fun c => c.label == s

end Constant

end ParamSql
