/-!
# Keywords of requests

What a request chooses from a fixed list, by a keyword in any ASCII case: the size of time buckets,
the direction of a sort, and the operator of a filter.
-/

namespace MetricLayer

/-! ## Granularities

The bucket sizes of time: each groups timestamps by the hour, day, week, month, quarter or year that
contains them.
-/

/-- The size of a time bucket. -/
inductive Granularity where
  /-- Sixty minutes from the full hour. -/
  | hour
  /-- A calendar day. -/
  | day
  /-- Seven days from Monday. -/
  | week
  /-- A calendar month. -/
  | month
  /-- Three months from January, April, July or October. -/
  | quarter
  /-- A calendar year. -/
  | year
  deriving DecidableEq, Repr

namespace Granularity

/-- Every granularity, from the finest. -/
def all : List Granularity := [hour, day, week, month, quarter, year]

/-- The keyword of a granularity. -/
def name : Granularity → String
  | hour => "hour"
  | day => "day"
  | week => "week"
  | month => "month"
  | quarter => "quarter"
  | year => "year"

/-- The granularity of a keyword in any ASCII case. -/
def ofKeyword? (s : String) : Option Granularity :=
  all.find? fun g => g.name == s.toLower

end Granularity

/-! ## Sort directions -/

/-- The direction of a sort. -/
inductive SortDirection where
  /-- From the least. -/
  | asc
  /-- From the greatest. -/
  | desc
  deriving DecidableEq, Repr

namespace SortDirection

/-- The keyword of a direction. -/
def name : SortDirection → String
  | asc => "asc"
  | desc => "desc"

/-- The direction of a keyword in any ASCII case. -/
def ofKeyword? (s : String) : Option SortDirection :=
  if s.toLower = "asc" then some asc
  else if s.toLower = "desc" then some desc
  else none

end SortDirection

/-! ## Filter operators -/

/-- How a filter compares a dimension with its values. -/
inductive FilterOperator where
  /-- Equal to the value. -/
  | eq
  /-- Different from the value. -/
  | ne
  /-- Greater than the value. -/
  | gt
  /-- Greater than or equal to the value. -/
  | gte
  /-- Less than the value. -/
  | lt
  /-- Less than or equal to the value. -/
  | lte
  /-- Equal to one of the values. -/
  | isIn
  /-- Contains the text of the value, in any case. -/
  | contains
  deriving DecidableEq, Repr

namespace FilterOperator

/-- The keyword of an operator. -/
def name : FilterOperator → String
  | eq => "eq"
  | ne => "ne"
  | gt => "gt"
  | gte => "gte"
  | lt => "lt"
  | lte => "lte"
  | isIn => "in"
  | contains => "contains"

/-- The keywords of the operators. -/
def keywords : List (String × FilterOperator) :=
  [("eq", eq), ("equals", eq), ("ne", ne), ("notequals", ne), ("not_equals", ne), ("gt", gt),
    ("gte", gte), ("lt", lt), ("lte", lte), ("in", isIn), ("contains", contains)]

/-- The operator of a keyword in any ASCII case. -/
def ofKeyword? (s : String) : Option FilterOperator :=
  keywords.lookup s.toLower

end FilterOperator

end MetricLayer
