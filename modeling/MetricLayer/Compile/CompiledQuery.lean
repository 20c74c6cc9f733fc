import MetricLayer.Compile.Column
import MetricLayer.Compile.Conjunct
import MetricLayer.Compile.JoinPlan
import MetricLayer.Request.Wire

/-!
# Compiled queries

A request turned into a query of a dialect, with the values to bind to its placeholders.
`Registry.compile` is the whole way, with the limits of the request cut to a cap; the texts of a
compiled query, as a whole and clause by clause, are functions of it.
-/

namespace MetricLayer

/-! ## Limits

The limit and the offset of a request against the cap on limits. A limit of zero is no limit, and an
offset needs a limit. Numbers that a query cannot name are refused and not cut.
-/

/-- Checks that a query can name a number of rows. -/
def checkRows (field : String) (n : Option UInt64) : Except RequestError Unit :=
  if n.any fun n => maxRows < n.toNat then .error (.invalidRequest (.tooLarge field)) else .ok ()

/-- The smaller of a number and a cap, if there is one. -/
def capped (cap : Option UInt64) (n : UInt64) : UInt64 :=
  match cap with
  | some m => if m < n then m else n
  | none => n

/-- The limit of a query: none for zero, and at most the cap. -/
def effectiveLimit (cap limit : Option UInt64) : Option UInt64 :=
  match limit with
  | none => none
  | some n => if n = 0 then none else some (capped cap n)

/-- The limits of a query, both absent if there is no such clause. -/
def pagination (cap : Option UInt64) (q : Request) : Except RequestError Page := do
  checkRows "limit" q.limit
  checkRows "offset" q.offset
  let limit := effectiveLimit cap q.limit
  if q.offset.isSome && limit.isNone then .error .offsetWithoutLimit else .ok ⟨limit, q.offset⟩

/-- The clause for limits, left out if both are absent. -/
def Page.clause? (p : Page) : Option Page :=
  if p.limit.isNone && p.offset.isNone then none else some p

/-! ## Compilation -/

/-- How a request is compiled. -/
structure CompileOptions where
  /-- The dialect of the query. -/
  dialect : Dialect := .postgres
  /-- The cap on limits. -/
  maxLimit : Option UInt64 := none

/-- A query in a dialect, with its values and its output columns. -/
structure CompiledQuery where
  /-- The dialect. -/
  dialect : Dialect
  /-- The query. -/
  query : Query
  /-- The values of the placeholders, the first for number one. -/
  params : List Value
  /-- The output columns. -/
  columns : List Column

/-- The items without those that occur in `seen` or earlier. -/
def distinctFrom {α : Type} [DecidableEq α] (seen : List α) : List α → List α
  | [] => []
  | x :: xs => if x ∈ seen then distinctFrom seen xs else x :: distinctFrom (x :: seen) xs

/-- What a query groups by: each selected dimension and the time bucket, once. -/
def Selection.grouping (s : Selection) : List Operand :=
  distinctFrom [] (s.dimensions.map Dimension.operand ++ s.time.toList.map (·.bucket))

namespace Registry

/-- The query of a checked selection, with its values and columns. -/
def compileSelection (r : Registry) (options : CompileOptions) (q : Request) (s : Selection) :
    Except RequestError CompiledQuery := do
  let columns ← s.columns
  let order ← orderTerms columns q.order
  let page ← pagination options.maxLimit q
  let plan ← r.joinPlan s.tables
  let conjuncts ← s.conjuncts
  .ok {
    dialect := options.dialect
    query := { plan.query with
      select := columns.map Column.selectItem
      condition := conjunction (conjuncts.map (·.expr))
      groupBy := s.grouping.map Operand.expr
      orderBy := order
      page := page.clause? }
    params := boundValues conjuncts
    columns := columns }

/-- The compiled query of a request. -/
def compile (r : Registry) (options : CompileOptions) (q : Request) :
    Except RequestError CompiledQuery := do
  let names ← r.names q
  let s ← names.select
  r.compileSelection options q s

/-- The compiled query of the text of a request. -/
def compileText (r : Registry) (options : CompileOptions) (s : String) :
    Except RequestError CompiledQuery := do
  let q ← Request.parse s
  r.compile options q

end Registry

/-! ## Texts -/

namespace CompiledQuery

/-- The text of the whole query. -/
def sql (c : CompiledQuery) : String :=
  c.query.sql c.dialect

/-- The items of the select list: the text of an expression and its column name. -/
def selectTexts (c : CompiledQuery) : List (String × String) :=
  c.query.select.map fun s => (s.expr.sql c.dialect, s.aliasName.getD "")

/-- The text of the tables. -/
def source (c : CompiledQuery) : String :=
  c.query.sourceSql c.dialect

/-- The text of the condition; empty if there is none. -/
def predicate (c : CompiledQuery) : String :=
  (c.query.condition.map (·.sql c.dialect)).getD ""

/-- The texts of the grouping expressions. -/
def groupBy (c : CompiledQuery) : List String :=
  c.query.groupBy.map (·.sql c.dialect)

/-- The texts of the items of the sort order. -/
def orderBy (c : CompiledQuery) : List String :=
  c.query.orderBy.map fun o => Tokens.render c.dialect (o.tokens c.dialect)

/-- The greatest number of rows. -/
def limit (c : CompiledQuery) : Option UInt64 :=
  c.query.page.bind (·.limit)

/-- The number of rows left out at the start. -/
def offset (c : CompiledQuery) : Option UInt64 :=
  c.query.page.bind (·.offset)

/-- The numbers of the placeholders of the whole query, from left to right. -/
def placeholders (c : CompiledQuery) : List Nat :=
  c.query.placeholders c.dialect

end CompiledQuery

end MetricLayer
