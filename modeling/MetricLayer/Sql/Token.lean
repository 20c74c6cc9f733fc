import MetricLayer.Sql.Dialect
import MetricLayer.Text.Uppercase

/-!
# Tokens of a query

The pieces that a query is written from. The text of a list of tokens is the texts of its tokens
one after the other, so blanks are tokens too.
-/

namespace MetricLayer

/-- A keyword of SQL. -/
inductive Keyword where
  | SELECT | FROM | WHERE | AND | NOT | AS | ON | JOIN | LEFT | GROUP_BY | ORDER_BY | ASC | DESC
  | LIMIT | OFFSET | IN | BETWEEN | LIKE | ILIKE | ESCAPE | TRUE | FALSE
  deriving DecidableEq, Repr

/-- The text of a keyword. -/
def Keyword.text : Keyword → String
  | SELECT => "SELECT"
  | FROM => "FROM"
  | WHERE => "WHERE"
  | AND => "AND"
  | NOT => "NOT"
  | AS => "AS"
  | ON => "ON"
  | JOIN => "JOIN"
  | LEFT => "LEFT"
  | GROUP_BY => "GROUP BY"
  | ORDER_BY => "ORDER BY"
  | ASC => "ASC"
  | DESC => "DESC"
  | LIMIT => "LIMIT"
  | OFFSET => "OFFSET"
  | IN => "IN"
  | BETWEEN => "BETWEEN"
  | LIKE => "LIKE"
  | ILIKE => "ILIKE"
  | ESCAPE => "ESCAPE"
  | TRUE => "TRUE"
  | FALSE => "FALSE"

/-- A punctuation mark or an operator of SQL. -/
inductive Mark where
  | comma | dot | lparen | rparen | eq | ne | lt | gt | lte | gte
  deriving DecidableEq, Repr

/-- The text of a mark. -/
def Mark.text : Mark → String
  | comma => ","
  | dot => "."
  | lparen => "("
  | rparen => ")"
  | eq => "="
  | ne => "<>"
  | lt => "<"
  | gt => ">"
  | lte => "<="
  | gte => ">="

/-- A piece of a query. -/
inductive Token where
  /-- A keyword. -/
  | keyword (k : Keyword)
  /-- A mark. -/
  | mark (m : Mark)
  /-- One space. -/
  | space
  /-- A line break. -/
  | newline
  /-- Two spaces for each level. -/
  | indent (level : Nat)
  /-- A name of a table or a column, or an alias. -/
  | identifier (name : String)
  /-- An integer literal. -/
  | integer (i : Int64)
  /-- A string literal. -/
  | string (s : String)
  /-- The placeholder of the parameter with a number, counted from one. -/
  | placeholder (n : Nat)
  /-- The name of a function, written in upper case. -/
  | function (name : String)
  /-- SQL written as it stands: registered expressions only, never a value of a request. -/
  | raw (sql : String)
  deriving DecidableEq

/-- The text of a token in a dialect. -/
def Token.render (d : Dialect) : Token → String
  | keyword k => k.text
  | mark m => m.text
  | space => " "
  | newline => "\n"
  | indent level => String.ofList (List.replicate (2 * level) ' ')
  | identifier name => quoteIdentifier name
  | integer i => toString i.toInt
  | string s => quoteString s
  | placeholder n => d.placeholder n
  | function name => Text.uppercase name
  | raw sql => sql

namespace Tokens

/-- The text of some tokens in a dialect. -/
def render (d : Dialect) (ts : List Token) : String :=
  String.join (ts.map (·.render d))

/-- The numbers of the placeholders among some tokens, from left to right. -/
def placeholders (ts : List Token) : List Nat :=
  ts.filterMap fun
    | .placeholder n => some n
    | _ => none

/-- A comma and a space. -/
def commaSpace : List Token := [.mark .comma, .space]

/-- Lists of tokens with a comma and a space between neighbours. -/
def commaSeparated (tss : List (List Token)) : List Token :=
  commaSpace.intercalate tss

/-- A call of a function with the tokens of its arguments. -/
def call (name : String) (args : List (List Token)) : List Token :=
  .function name :: .mark .lparen :: (commaSeparated args ++ [.mark .rparen])

/-- The text of a concatenation is the concatenation of the texts. -/
@[simp] theorem render_append (d : Dialect) (ts us : List Token) :
    render d (ts ++ us) = render d ts ++ render d us := by
  apply String.toList_inj.1
  simp [render]

/-- The placeholders of a concatenation are those of its parts. -/
@[simp] theorem placeholders_append (ts us : List Token) :
    placeholders (ts ++ us) = placeholders ts ++ placeholders us := by
  simp [placeholders]

end Tokens

end MetricLayer
