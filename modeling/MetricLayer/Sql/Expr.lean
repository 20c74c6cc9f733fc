import MetricLayer.Keyword
import MetricLayer.Sql.Token

/-!
# SQL expressions

The expressions that a query is built from, and their tokens in a dialect. No parentheses are ever
written around an operand, so an expression that holds another has to fit it by precedence.

The bucket of a timestamp is an expression for the start of the bucket that contains it. PostgreSQL
and DuckDB have a function for it. In SQLite the start is ISO text made by its date functions: `DATE`
and `STRFTIME` cut a timestamp to its leading parts; a week first moves forward to Sunday, or stays,
and then back six days to Monday; a quarter is put together from the year and the first month of
the quarter.
-/

namespace MetricLayer

/-! ## Buckets -/

section

open Tokens

/-- `STRFTIME` with a format. -/
def strftimeTokens (format : String) (ts : List Token) : List Token :=
  call "STRFTIME" [[.string format], ts]

/-- The first month of the quarter of a timestamp, by division that truncates. -/
def quarterMonthTokens (ts : List Token) : List Token :=
  .raw "((CAST(" :: (strftimeTokens "%m" ts ++ [.raw " AS INTEGER) - 1) / 3) * 3 + 1"])

/-- The start of a bucket in SQLite. -/
def sqliteBucketTokens (g : Granularity) (ts : List Token) : List Token :=
  match g with
  | .hour => strftimeTokens "%Y-%m-%d %H:00:00" ts
  | .day => call "DATE" [ts]
  | .week => call "DATE" [ts, [.string "weekday 0"], [.string "-6 days"]]
  | .month => strftimeTokens "%Y-%m-01" ts
  | .quarter =>
    call "PRINTF" [[.string "%s-%02d-01"], strftimeTokens "%Y" ts, quarterMonthTokens ts]
  | .year => strftimeTokens "%Y-01-01" ts

/-- The start of the bucket of a timestamp. -/
def bucketTokens (d : Dialect) (g : Granularity) (ts : List Token) : List Token :=
  match d with
  | .postgres => call "DATE_TRUNC" [[.string g.name], ts]
  | .duckdb => call "DATE_TRUNC" [[.string g.name], ts]
  | .sqlite => sqliteBucketTokens g ts

end

/-! ## Expressions -/

/-- An operator between two operands. -/
inductive BinaryOp where
  | eq | ne | lt | gt | lte | gte | and
  deriving DecidableEq, Repr

/-- The token of an operator. -/
def BinaryOp.token : BinaryOp → Token
  | eq => .mark .eq
  | ne => .mark .ne
  | lt => .mark .lt
  | gt => .mark .gt
  | lte => .mark .lte
  | gte => .mark .gte
  | and => .keyword .AND

/-- An expression of SQL. -/
inductive Expr where
  /-- A column, of a table or alone. -/
  | column (table : Option String) (name : String)
  /-- An operator between two operands. -/
  | binary (op : BinaryOp) (left right : Expr)
  /-- Membership in a list. -/
  | isIn (negated : Bool) (operand : Expr) (values : List Expr)
  /-- Membership in a closed interval. -/
  | between (negated : Bool) (operand low high : Expr)
  /-- A match with a pattern under an escape character. -/
  | like (negated caseInsensitive : Bool) (escape : Char) (operand pattern : Expr)
  /-- The parameter with a number, counted from one. -/
  | param (n : Nat)
  /-- The start of the bucket of a timestamp. -/
  | bucket (g : Granularity) (operand : Expr)
  /-- SQL written as it stands: registered expressions only, never a value of a request. -/
  | raw (sql : String)

namespace Expr

/-- `NOT` and a space, if negated. -/
def notTokens (negated : Bool) : List Token :=
  if negated then [.space, .keyword .NOT] else []

/-- The tokens in lower case, if `lower`. -/
def lowerTokens (lower : Bool) (ts : List Token) : List Token :=
  if lower then Tokens.call "LOWER" [ts] else ts

/-- The tokens of a match. A case-insensitive match has an operator of its own in some dialects, and
compares both sides in lower case in the others. -/
def likeTokens (d : Dialect) (negated caseInsensitive : Bool) (escape : Char)
    (operand pattern : List Token) : List Token :=
  let operator := if caseInsensitive && d.hasILike then Keyword.ILIKE else Keyword.LIKE
  let lower := caseInsensitive && !d.hasILike
  lowerTokens lower operand ++ (notTokens negated ++
    (.space :: .keyword operator :: .space :: (lowerTokens lower pattern ++
      [.space, .keyword .ESCAPE, .space, .string (String.singleton escape)])))

mutual

/-- The tokens of an expression. Membership in an empty list, which SQL cannot write, is `FALSE`, or
`TRUE` if negated. -/
def tokens (d : Dialect) : Expr → List Token
  | column none name => [.identifier name]
  | column (some table) name => [.identifier table, .mark .dot, .identifier name]
  | binary op left right => tokens d left ++ (.space :: op.token :: .space :: tokens d right)
  | isIn negated _ [] => [.keyword (if negated then .TRUE else .FALSE)]
  | isIn negated operand (v :: vs) =>
    tokens d operand ++ (notTokens negated ++ (.space :: .keyword .IN :: .space :: .mark .lparen ::
      (listTokens d (v :: vs) ++ [.mark .rparen])))
  | between negated operand low high =>
    tokens d operand ++ (notTokens negated ++ (.space :: .keyword .BETWEEN :: .space ::
      (tokens d low ++ (.space :: .keyword .AND :: .space :: tokens d high))))
  | like negated caseInsensitive escape operand pattern =>
    likeTokens d negated caseInsensitive escape (tokens d operand) (tokens d pattern)
  | param n => [.placeholder n]
  | bucket g operand => bucketTokens d g (tokens d operand)
  | raw sql => [.raw sql]

/-- The tokens of expressions with commas between them. -/
def listTokens (d : Dialect) : List Expr → List Token
  | [] => []
  | [e] => tokens d e
  | e :: es => tokens d e ++ (.mark .comma :: .space :: listTokens d es)

end

/-- The text of an expression. -/
def sql (d : Dialect) (e : Expr) : String :=
  Tokens.render d (e.tokens d)

end Expr

end MetricLayer
