import MetricLayer.Sql.Lexeme

/-!
# Terms of SQL text

What a SQL expression means as text: its operators and operands as a tree, with the lexical elements
of names, literals and types as leaves.
-/

namespace MetricLayer

/-- A SQL expression as it is read. -/
inductive Term where
  /-- A name of one or more parts. -/
  | name (parts : List Lexeme)
  /-- A literal, or the placeholder of a parameter. -/
  | literal (l : Lexeme)
  /-- A string literal of a named type. -/
  | typed (type : List Lexeme) (l : Lexeme)
  /-- An operator before or after its only operand. -/
  | unary (op : String) (operand : Term)
  /-- An operator between two operands. -/
  | binary (op : String) (left right : Term)
  /-- A test that begins with `IS`, with the words that follow it. -/
  | test (words : List String) (operand : Term)
  /-- A comparison that begins with `IS` and ends with `DISTINCT FROM`. -/
  | distinctFrom (negated : Bool) (left right : Term)
  /-- Membership in a list. -/
  | isIn (negated : Bool) (operand : Term) (values : List Term)
  /-- Membership in a closed interval. -/
  | between (negated : Bool) (operand low high : Term)
  /-- A match with a pattern, with the escape literal if one is given. -/
  | matching (negated : Bool) (op : String) (operand pattern : Term) (escape : Option Lexeme)
  /-- A call: the name, a word before the arguments, and the arguments. -/
  | call (name : List Lexeme) (quantifier : Option String) (args : List Term)
  /-- All columns, of a table or of every table. -/
  | wildcard (qualifier : List Lexeme)
  /-- A conversion to a type. -/
  | cast (operand : Term) (type : List Lexeme)
  /-- A choice between branches. -/
  | choice (subject : Option Term) (branches : List (Term × Term)) (otherwise : Option Term)
  /-- Expressions in parentheses. -/
  | group (items : List Term)
  /-- A field of a timestamp. -/
  | extract (field : Lexeme) (operand : Term)
  /-- A duration with its unit. -/
  | interval (amount : Term) (unit : Option Lexeme)
  /-- An operand with a collation or a field of a composite value. -/
  | suffixed (operand : Term) (suffix : List Lexeme)
  /-- An element of an array. -/
  | element (operand index : Term)

/-- Why a text is not one SQL expression. -/
inductive TermFault where
  /-- No expression can be read. -/
  | unreadable
  /-- An expression is followed by the element. -/
  | trailing (l : Lexeme)
  deriving DecidableEq, Repr

/-- The message of a fault. -/
def TermFault.message : TermFault → String
  | unreadable => "<parse>"
  | trailing l => "unexpected trailing input at '" ++ l.spelling ++ "'"

end MetricLayer
