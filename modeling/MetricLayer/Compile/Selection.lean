import MetricLayer.Calendar.DateBound
import MetricLayer.Request.Basic
import MetricLayer.Request.Error
import MetricLayer.Schema.Registry
import MetricLayer.Sql.Expr

/-!
# Selections

The names of a request looked up in a registry. Unknown names come before every other error: they
are looked for among the measures, the dimensions, the filters, the time dimension and the order
keys, in this order, and only then is the selection checked.

What a dimension is in a query is an operand: its SQL, cut to a bucket size or as it stands.
-/

namespace MetricLayer

/-! ## Operands -/

/-- The SQL of a dimension, and the bucket size to which it is cut. -/
structure Operand where
  /-- The bucket size, if there is one. -/
  grain : Option Granularity
  /-- The SQL. -/
  sql : String
  deriving DecidableEq, Repr

/-- The expression of an operand. -/
def Operand.expr (o : Operand) : Expr :=
  match o.grain with
  | some g => .bucket g (.raw o.sql)
  | none => .raw o.sql

/-- A dimension as it is selected, compared and grouped by: cut to its own grain, if it has one. -/
def Dimension.operand (d : Dimension) : Operand :=
  ⟨d.grain, d.sql⟩

/-- The raw timestamp of a time dimension cut to a bucket size, whatever its own grain. -/
def Dimension.bucket (d : Dimension) (g : Granularity) : Except RequestError Operand :=
  if d.isTime then .ok ⟨some g, d.sql⟩ else .error (.notATimeDimension d.id)

/-! ## Names -/

/-- The time dimension of a request with its definition and its buckets. -/
structure SelectedTime where
  /-- The clause of the request. -/
  clause : TimeClause
  /-- The definition of the dimension. -/
  dimension : Dimension
  /-- The start of the bucket of its timestamp. -/
  bucket : Operand

/-- The names of a request with their definitions. -/
structure Names where
  /-- The definitions of the measures. -/
  measures : List Measure
  /-- The definitions of the dimensions. -/
  dimensions : List Dimension
  /-- The filters with the definitions of their dimensions. -/
  filters : List (Filter × Dimension)
  /-- The time clause with the definition of its dimension. -/
  time : Option (TimeClause × Dimension)

/-- The names of a request after its selection is checked. -/
structure Selection where
  /-- The definitions of the measures. -/
  measures : List Measure
  /-- The definitions of the dimensions. -/
  dimensions : List Dimension
  /-- The filters with the definitions of their dimensions. -/
  filters : List (Filter × Dimension)
  /-- The time dimension. -/
  time : Option SelectedTime

/-- The definition of a measure, or the error that the name is unknown. -/
def Registry.namedMeasure (r : Registry) (id : String) : Except RequestError Measure :=
  (r.lookupMeasure id).mapError .ofSchema

/-- The definition of a dimension, or the error that the name is unknown. -/
def Registry.namedDimension (r : Registry) (id : String) : Except RequestError Dimension :=
  (r.lookupDimension id).mapError .ofSchema

/-- Checks that an order key is the time key, a measure or a dimension. -/
def Registry.checkOrderKey (r : Registry) (item : OrderItem) : Except RequestError Unit :=
  if item.key = timeKey ∨ (r.measure? item.key).isSome ∨ (r.dimension? item.key).isSome then .ok ()
  else .error (.unknownIdentifier item.key)

/-- Looks up the dimension of a filter. -/
def Registry.namedFilter (r : Registry) (f : Filter) : Except RequestError (Filter × Dimension) :=
  (r.namedDimension f.dimension).map fun d => (f, d)

/-- Looks up the dimension of a time clause, if there is one. -/
def Registry.namedTime (r : Registry) :
    Option TimeClause → Except RequestError (Option (TimeClause × Dimension))
  | none => .ok none
  | some t => (r.namedDimension t.dimension).map fun d => some (t, d)

/-- Looks up every name of a request. -/
def Registry.names (r : Registry) (q : Request) : Except RequestError Names := do
  let measures ← q.measures.mapM r.namedMeasure
  let dimensions ← q.dimensions.mapM r.namedDimension
  let filters ← q.filters.mapM r.namedFilter
  let time ← r.namedTime q.time
  q.order.forM r.checkOrderKey
  .ok ⟨measures, dimensions, filters, time⟩

/-! ## Checks -/

/-- The first of the texts that occurs in `seen` or earlier. -/
def firstRepeated? (seen : List String) : List String → Option String
  | [] => none
  | x :: xs => if x ∈ seen then some x else firstRepeated? (x :: seen) xs

/-- Checks that no identifier is repeated. -/
def checkDistinct (ids : List String) : Except RequestError Unit :=
  match firstRepeated? [] ids with
  | some id => .error (.duplicateIdentifier id)
  | none => .ok ()

/-- Reads a bound of a date range. -/
def DateRange.bound (s : String) : Except RequestError DateBound :=
  match DateBound.parse? s with
  | some b => .ok b
  | none => .error (.invalidDateRange (.notIsoDate s))

/-- The bounds of a date range: the lower one is read first, and must not lie after the upper one. -/
def DateRange.bounds (x : DateRange) : Except RequestError (DateBound × DateBound) := do
  let a ← DateRange.bound x.lower
  let b ← DateRange.bound x.upper
  if a.isAfter b then .error (.invalidDateRange (.inverted x.lower x.upper)) else .ok (a, b)

/-- Checks a date range, if there is one. -/
def checkDateRange : Option DateRange → Except RequestError Unit
  | none => .ok ()
  | some x => x.bounds.map fun _ => ()

/-- Checks the time dimension: it holds timestamps, and its date range is well formed. -/
def selectTime : Option (TimeClause × Dimension) → Except RequestError (Option SelectedTime)
  | none => .ok none
  | some (t, d) => do
    let bucket ← d.bucket t.granularity
    checkDateRange t.dateRange
    .ok (some ⟨t, d, bucket⟩)

/-- Checks that something is selected. -/
def Names.checkNonempty (n : Names) : Except RequestError Unit :=
  if n.measures.isEmpty && n.dimensions.isEmpty && n.time.isNone then .error .emptySelection
  else .ok ()

/-- Checks the selection of a request: something is selected, nothing twice, and the time dimension
is in order. -/
def Names.select (n : Names) : Except RequestError Selection := do
  n.checkNonempty
  checkDistinct (n.measures.map (·.id))
  checkDistinct (n.dimensions.map (·.id))
  let time ← selectTime n.time
  .ok ⟨n.measures, n.dimensions, n.filters, time⟩

/-- The tables that own the names of a selection. -/
def Selection.tables (s : Selection) : List String :=
  s.measures.map (·.table) ++ (s.dimensions.map (·.table) ++
    (s.filters.map (·.2.table) ++ s.time.toList.map (·.dimension.table)))

end MetricLayer
