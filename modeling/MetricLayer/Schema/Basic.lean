import MetricLayer.Keyword

/-!
# Tables, measures and dimensions

What a schema registers. The SQL of a member is trusted text over the alias of its table.
-/

namespace MetricLayer

/-- How a measure summarises rows. -/
inductive Aggregation where
  | count
  | sum
  | avg
  | min
  | max
  deriving DecidableEq, Repr

/-- The keyword of an aggregation. -/
def Aggregation.name : Aggregation → String
  | count => "count"
  | sum => "sum"
  | avg => "avg"
  | min => "min"
  | max => "max"

/-- What the values of a dimension are. -/
inductive DimensionKind where
  | string
  | number
  | time
  deriving DecidableEq, Repr

/-- The keyword of a kind. -/
def DimensionKind.name : DimensionKind → String
  | string => "string"
  | number => "number"
  | time => "time"

/-- A table, and the alias that stands for it in every query. -/
structure Table where
  /-- The name of the table. -/
  name : String
  /-- The alias of the table. -/
  aliasName : String
  deriving DecidableEq, Repr

/-- A named aggregation over the rows of a table. -/
structure Measure where
  /-- The identifier. -/
  id : String
  /-- The name of the table. -/
  table : String
  /-- How rows are summarised. -/
  aggregation : Aggregation
  /-- The expression. -/
  sql : String
  /-- What the measure says, for readers. -/
  description : String := ""
  deriving DecidableEq, Repr

/-- A named key of a table, to group and filter by. -/
structure Dimension where
  /-- The identifier. -/
  id : String
  /-- The name of the table. -/
  table : String
  /-- What the values are. -/
  kind : DimensionKind
  /-- The expression. -/
  sql : String
  /-- The bucket size in which a time dimension is selected; a time clause has its own instead. -/
  grain : Option Granularity := none
  /-- What the dimension says, for readers. -/
  description : String := ""
  deriving DecidableEq, Repr

/-- The values of the dimension are timestamps. -/
def Dimension.isTime (d : Dimension) : Bool :=
  d.kind == .time

end MetricLayer
