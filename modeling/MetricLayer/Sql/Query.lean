import MetricLayer.Keyword
import MetricLayer.Sql.Expr

/-!
# Queries

A `SELECT` statement as a record of its clauses, the steps that build one, and its tokens: each
clause on a new line, and a clause without content left out.
-/

namespace MetricLayer

/-- An item of the select list. -/
structure SelectItem where
  /-- What is selected. -/
  expr : Expr
  /-- The name of the output column. -/
  aliasName : Option String

/-- A table that a query reads. -/
structure TableRef where
  /-- The name of the table. -/
  table : String
  /-- The name of the table within the query. -/
  aliasName : Option String

/-- A left join. -/
structure Join where
  /-- The table that is joined. -/
  table : TableRef
  /-- The condition of the join. -/
  on : Expr

/-- An item of the sort order. -/
structure OrderTerm where
  /-- What is sorted by. -/
  expr : Expr
  /-- The direction, if one is written. -/
  direction : Option SortDirection

/-- The clause that limits the rows of a query. -/
structure Page where
  /-- The greatest number of rows. -/
  limit : Option UInt64
  /-- The number of rows left out at the start. -/
  offset : Option UInt64

/-- A `SELECT` statement. -/
structure Query where
  /-- The select list. -/
  select : List SelectItem := []
  /-- The first table. -/
  source : Option TableRef := none
  /-- The joins, in order. -/
  joins : List Join := []
  /-- The condition on rows. -/
  condition : Option Expr := none
  /-- The grouping expressions. -/
  groupBy : List Expr := []
  /-- The sort order. -/
  orderBy : List OrderTerm := []
  /-- The limits. -/
  page : Option Page := none

/-- An alias after a table or an expression. -/
def aliasTokens : Option String → List Token
  | some a => [.space, .keyword .AS, .space, .identifier a]
  | none => []

/-- The tokens of an item of the select list. -/
def SelectItem.tokens (d : Dialect) (s : SelectItem) : List Token :=
  s.expr.tokens d ++ aliasTokens s.aliasName

/-- The tokens of a table. -/
def TableRef.tokens (t : TableRef) : List Token :=
  .identifier t.table :: aliasTokens t.aliasName

/-- The tokens of a join. -/
def Join.tokens (d : Dialect) (j : Join) : List Token :=
  [.keyword .LEFT, .space, .keyword .JOIN, .space] ++ j.table.tokens ++
    [.space, .keyword .ON, .space] ++ j.on.tokens d

/-- The keyword of a direction. -/
def SortDirection.keyword : SortDirection → Keyword
  | asc => .ASC
  | desc => .DESC

/-- The tokens of a direction. -/
def directionTokens : Option SortDirection → List Token
  | some dir => [.space, .keyword dir.keyword]
  | none => []

/-- The tokens of an item of the sort order. -/
def OrderTerm.tokens (d : Dialect) (o : OrderTerm) : List Token :=
  o.expr.tokens d ++ directionTokens o.direction

/-- The literal of a number of rows: numbers above the greatest literal are written as that. -/
def rowsLiteral (n : UInt64) : Int64 :=
  Int64.ofNat (min n.toNat 0x7fffffffffffffff)

/-- The tokens of the limits. -/
def Page.tokens (p : Page) : List Token :=
  (match p.limit with
    | some n => [.keyword .LIMIT, .space, .integer (rowsLiteral n)]
    | none => []) ++
  (match p.limit, p.offset with
    | some _, some _ => [.space]
    | _, _ => []) ++
  (match p.offset with
    | some n => [.keyword .OFFSET, .space, .integer (rowsLiteral n)]
    | none => [])

namespace Query

/-- A clause that may be absent, on a new line with its keyword. -/
def clauseTokens (k : Keyword) : Option (List Token) → List Token
  | some ts => [.newline, .keyword k, .space] ++ ts
  | none => []

/-- Lists of tokens separated by commas; none if there are no lists. -/
def listClause (tss : List (List Token)) : Option (List Token) :=
  if tss.isEmpty then none else some (Tokens.commaSeparated tss)

/-- The select list: each item on a line of its own, indented by one level. -/
def selectTokens (d : Dialect) : List SelectItem → List Token
  | [] => []
  | [s] => [.newline, .indent 1] ++ s.tokens d
  | s :: ss => [.newline, .indent 1] ++ s.tokens d ++ .mark .comma :: selectTokens d ss

/-- The first table, if there is one, and each join on a line of its own. -/
def sourceTokens (d : Dialect) (q : Query) : List Token :=
  (match q.source with
    | some t => t.tokens
    | none => []) ++
  q.joins.flatMap fun j => .newline :: j.tokens d

/-- The tokens of a query. The joins are written only together with a first table. -/
def tokens (d : Dialect) (q : Query) : List Token :=
  .keyword .SELECT :: (selectTokens d q.select ++
    (clauseTokens .FROM (q.source.map fun _ => q.sourceTokens d) ++
    (clauseTokens .WHERE (q.condition.map (·.tokens d)) ++
    (clauseTokens .GROUP_BY (listClause (q.groupBy.map (·.tokens d))) ++
    (clauseTokens .ORDER_BY (listClause (q.orderBy.map (·.tokens d))) ++
    (match q.page with
      | some p => .newline :: p.tokens
      | none => []))))))

/-- The text of a query. -/
def sql (d : Dialect) (q : Query) : String :=
  Tokens.render d (q.tokens d)

/-- The text of the first table and the joins. -/
def sourceSql (d : Dialect) (q : Query) : String :=
  Tokens.render d (q.sourceTokens d)

/-- The numbers of the placeholders of a query, from left to right. -/
def placeholders (d : Dialect) (q : Query) : List Nat :=
  Tokens.placeholders (q.tokens d)

/-- The query without any clause. -/
def empty : Query := {}

/-- A further condition, which has to hold together with those before it. -/
def filter (q : Query) (e : Expr) : Query :=
  { q with condition := some (match q.condition with
      | some c => .binary .and c e
      | none => e) }

/-- The limits of a query, both absent if there is no such clause. -/
def pageOrEmpty (q : Query) : Page :=
  q.page.getD ⟨none, none⟩

/-- A step of building a query. The select list, the first table, the grouping, the sort order and
the limits are replaced; joins and conditions are added. -/
inductive Step where
  /-- Set the select list. -/
  | select (items : List SelectItem)
  /-- Set the first table. -/
  | source (t : TableRef)
  /-- Add a left join. -/
  | leftJoin (t : TableRef) (on : Expr)
  /-- Add a condition. -/
  | filter (e : Expr)
  /-- Set the grouping expressions. -/
  | groupBy (es : List Expr)
  /-- Set the sort order. -/
  | orderBy (os : List OrderTerm)
  /-- Set the greatest number of rows. -/
  | limit (n : UInt64)
  /-- Set the number of rows left out at the start. -/
  | offset (n : UInt64)
  /-- Set both limits. -/
  | page (p : Page)

/-- The query after a step. -/
def apply (q : Query) : Step → Query
  | .select items => { q with select := items }
  | .source t => { q with source := some t }
  | .leftJoin t on => { q with joins := q.joins ++ [⟨t, on⟩] }
  | .filter e => q.filter e
  | .groupBy es => { q with groupBy := es }
  | .orderBy os => { q with orderBy := os }
  | .limit n => { q with page := some { q.pageOrEmpty with limit := some n } }
  | .offset n => { q with page := some { q.pageOrEmpty with offset := some n } }
  | .page p => { q with page := some p }

/-- The query after some steps. -/
def build (steps : List Step) : Query :=
  steps.foldl apply empty

end Query

end MetricLayer
