import MetricLayer.Keyword
import MetricLayer.Value

/-!
# Requests

A declarative analytics request: which measures to compute, by which dimensions to group them, which
rows to keep, and how to sort and limit the result.
-/

namespace MetricLayer

/-- The order key, and the name of the output column, of the time dimension of a request. -/
def timeKey : String := "time"

/-- A condition on a dimension. -/
structure Filter where
  /-- The identifier of the dimension. -/
  dimension : String
  /-- How the dimension is compared. -/
  operator : FilterOperator
  /-- What it is compared with. -/
  values : List Value
  deriving DecidableEq

/-- A range of dates, both ends included, as it was written. -/
structure DateRange where
  /-- The lower bound. -/
  lower : String
  /-- The upper bound. -/
  upper : String
  deriving DecidableEq, Repr

/-- The time dimension of a request. -/
structure TimeClause where
  /-- The identifier of the dimension. -/
  dimension : String
  /-- The size of the buckets. -/
  granularity : Granularity
  /-- The range of dates to keep. -/
  dateRange : Option DateRange
  deriving DecidableEq, Repr

/-- An item of the sort order of a request. -/
structure OrderItem where
  /-- The identifier of a selected member, or `timeKey`. -/
  key : String
  /-- The direction. -/
  direction : SortDirection
  deriving DecidableEq, Repr

/-- An analytics request. -/
structure Request where
  /-- The identifiers of the measures. -/
  measures : List String := []
  /-- The identifiers of the dimensions. -/
  dimensions : List String := []
  /-- The conditions on rows, all of which have to hold. -/
  filters : List Filter := []
  /-- The time dimension. -/
  time : Option TimeClause := none
  /-- The sort order. -/
  order : List OrderItem := []
  /-- The greatest number of rows; zero is no limit. -/
  limit : Option UInt64 := none
  /-- The number of rows left out at the start. -/
  offset : Option UInt64 := none
  deriving DecidableEq

namespace Request

/-- The request that selects nothing. -/
def empty : Request := {}

/-- The request with one more measure. -/
def addMeasure (r : Request) (id : String) : Request :=
  { r with measures := r.measures ++ [id] }

/-- The request with one more dimension. -/
def addDimension (r : Request) (id : String) : Request :=
  { r with dimensions := r.dimensions ++ [id] }

/-- The request with one more filter. -/
def addFilter (r : Request) (f : Filter) : Request :=
  { r with filters := r.filters ++ [f] }

/-- The request with a time dimension in place of its own. -/
def setTime (r : Request) (t : TimeClause) : Request :=
  { r with time := some t }

/-- The request with one more item of the sort order. -/
def addOrder (r : Request) (key : String) (direction : SortDirection) : Request :=
  { r with order := r.order ++ [⟨key, direction⟩] }

/-- The request with a limit in place of its own. -/
def setLimit (r : Request) (n : UInt64) : Request :=
  { r with limit := some n }

/-- The request with an offset in place of its own. -/
def setOffset (r : Request) (n : UInt64) : Request :=
  { r with offset := some n }

end Request

end MetricLayer
