import MetricLayer.Json.Reader
import MetricLayer.Json.Writer
import MetricLayer.Request.Basic
import MetricLayer.Request.Error

/-!
# The wire form of requests

A request as JSON. Each of its records is an object, whose unknown keys are skipped and whose known
keys must not repeat, or an array of all fields in order. `WireRequest` is a request whose shape is
checked and whose keywords are still texts; `WireRequest.resolve` reads the keywords, so that the
shape of the whole text is judged before any of them.
-/

namespace MetricLayer

/-- A filter whose operator is still a text. -/
structure WireFilter where
  /-- The identifier of the dimension. -/
  dimension : String
  /-- The keyword of the operator. -/
  operator : String
  /-- The values. -/
  values : List Value
  deriving DecidableEq

/-- A time dimension whose granularity is still a text. -/
structure WireTime where
  /-- The identifier of the dimension. -/
  dimension : String
  /-- The keyword of the granularity. -/
  granularity : String
  /-- The bounds of the date range. -/
  dateRange : Option (List String)
  deriving DecidableEq, Repr

/-- A request whose keywords are still texts. -/
structure WireRequest where
  /-- The identifiers of the measures. -/
  measures : List String
  /-- The identifiers of the dimensions. -/
  dimensions : List String
  /-- The filters. -/
  filters : List WireFilter
  /-- The time dimension. -/
  timeDimension : Option WireTime
  /-- Further time dimensions. -/
  timeDimensions : List WireTime
  /-- The order entries: a key, and perhaps the keyword of a direction. -/
  order : List (List String)
  /-- The greatest number of rows. -/
  limit : Option UInt64
  /-- The number of rows left out at the start. -/
  offset : Option UInt64
  deriving DecidableEq

namespace Wire

/-- Reads a list of what `item` reads. -/
def listOf {α : Type} (item : Json → Option α) (v : Json) : Option (List α) :=
  v.array?.bind fun items => items.mapM item

/-- Reads a list of texts. -/
def strings (v : Json) : Option (List String) :=
  listOf Json.string? v

/-- Reads what `item` reads, or `null`. -/
def optional {α : Type} (item : Json → Option α) : Json → Option (Option α)
  | .null => some none
  | v => (item v).map some

/-- Reads a number of rows: an integer without sign, fraction and exponent that fits 64 bits. -/
def rows (v : Json) : Option UInt64 :=
  v.number?.bind fun n =>
    if n.isInteger && !n.negative && n.wholeValue < UInt64.size then some (UInt64.ofNat n.wholeValue)
    else none

/-- The field of an object that stands under one of the keys: what `item` reads, or `missing` if
there is none. A field that stands there twice cannot be read. -/
def field {α : Type} (keys : List String) (missing : Option α) (item : Json → Option α)
    (entries : List (String × Json)) : Option α :=
  match entries.filter fun e => keys.contains e.1 with
  | [] => missing
  | [e] => item e.2
  | _ => none

/-- Reads a filter. -/
def filter? : Json → Option WireFilter
  | .object es => do
    let dimension ← field ["dimension", "member"] none Json.string? es
    let operator ← field ["operator"] none Json.string? es
    let values ← field ["values"] (some []) (listOf Value.ofJson?) es
    some ⟨dimension, operator, values⟩
  | .array [d, o] => do
    let dimension ← d.string?
    let operator ← o.string?
    some ⟨dimension, operator, []⟩
  | .array [d, o, vs] => do
    let dimension ← d.string?
    let operator ← o.string?
    let values ← listOf Value.ofJson? vs
    some ⟨dimension, operator, values⟩
  | _ => none

/-- Reads a time dimension. -/
def time? : Json → Option WireTime
  | .object es => do
    let dimension ← field ["dimension"] none Json.string? es
    let granularity ← field ["granularity"] none Json.string? es
    let dateRange ← field ["dateRange"] (some none) (optional strings) es
    some ⟨dimension, granularity, dateRange⟩
  | .array [d, g, r] => do
    let dimension ← d.string?
    let granularity ← g.string?
    let dateRange ← optional strings r
    some ⟨dimension, granularity, dateRange⟩
  | _ => none

/-- Reads a request. -/
def request? : Json → Option WireRequest
  | .object es => do
    let measures ← field ["measures"] (some []) strings es
    let dimensions ← field ["dimensions"] (some []) strings es
    let filters ← field ["filters"] (some []) (listOf filter?) es
    let timeDimension ← field ["timeDimension"] (some none) (optional time?) es
    let timeDimensions ← field ["timeDimensions"] (some []) (listOf time?) es
    let order ← field ["order"] (some []) (listOf strings) es
    let limit ← field ["limit"] (some none) (optional rows) es
    let offset ← field ["offset"] (some none) (optional rows) es
    some ⟨measures, dimensions, filters, timeDimension, timeDimensions, order, limit, offset⟩
  | .array [m, d, f, t, ts, o, l, n] => do
    let measures ← strings m
    let dimensions ← strings d
    let filters ← listOf filter? f
    let timeDimension ← optional time? t
    let timeDimensions ← listOf time? ts
    let order ← listOf strings o
    let limit ← optional rows l
    let offset ← optional rows n
    some ⟨measures, dimensions, filters, timeDimension, timeDimensions, order, limit, offset⟩
  | _ => none

end Wire

/-- Reads the operator of a filter. -/
def WireFilter.resolve (f : WireFilter) : Except RequestError Filter :=
  match FilterOperator.ofKeyword? f.operator with
  | some operator => .ok ⟨f.dimension, operator, f.values⟩
  | none => .error (.unsupportedOperator f.operator)

/-- Reads the bounds of a date range: exactly two. -/
def WireTime.resolveRange : Option (List String) → Except RequestError (Option DateRange)
  | none => .ok none
  | some [lower, upper] => .ok (some ⟨lower, upper⟩)
  | some bounds => .error (.arity "dateRange" (.exactly 2) bounds.length)

/-- Reads the granularity of a time dimension, and its date range. -/
def WireTime.resolve (t : WireTime) : Except RequestError TimeClause := do
  let granularity ← match Granularity.ofKeyword? t.granularity with
    | some g => .ok g
    | none => .error (.unsupportedGranularity t.granularity)
  let dateRange ← WireTime.resolveRange t.dateRange
  .ok ⟨t.dimension, granularity, dateRange⟩

/-- Reads an order entry; without a direction it is ascending. -/
def Wire.orderItem : List String → Except RequestError OrderItem
  | [key] => .ok ⟨key, .asc⟩
  | [key, direction] =>
    match SortDirection.ofKeyword? direction with
    | some dir => .ok ⟨key, dir⟩
    | none => .error (.unsupportedDirection direction)
  | entry => .error (.invalidRequest (.orderEntryLength entry.length))

/-- The time dimensions of a request, wherever they stand. -/
def WireRequest.times (w : WireRequest) : List WireTime :=
  w.timeDimension.toList ++ w.timeDimensions

/-- Reads the only time dimension, if there is any. -/
def WireRequest.resolveTime : List WireTime → Except RequestError (Option TimeClause)
  | [] => .ok none
  | [t] => t.resolve.map some
  | _ => .error (.invalidRequest .severalTimeDimensions)

/-- Reads the keywords of a request: the operators, then the granularity, then the directions. -/
def WireRequest.resolve (w : WireRequest) : Except RequestError Request := do
  let filters ← w.filters.mapM WireFilter.resolve
  let time ← WireRequest.resolveTime w.times
  let order ← w.order.mapM Wire.orderItem
  .ok ⟨w.measures, w.dimensions, filters, time, order, w.limit, w.offset⟩

/-- Reads the text of a request. -/
def Request.parse (s : String) : Except RequestError Request :=
  match (Json.parse? s).bind Wire.request? with
  | some w => w.resolve
  | none => .error (.invalidRequest .malformed)

/-! ## Writing

A request is written as an object with every field, keywords in their canonical form, and the bounds
of a date range and the parts of an order entry as arrays.
-/

/-- The wire form of a filter. -/
def Filter.toJson (f : Filter) : Json :=
  .object [("dimension", .string f.dimension), ("operator", .string f.operator.name),
    ("values", .array (f.values.map Value.toJson))]

/-- The wire form of a date range. -/
def DateRange.toJson (r : DateRange) : Json :=
  Json.ofStrings [r.lower, r.upper]

/-- The wire form of a time dimension. -/
def TimeClause.toJson (t : TimeClause) : Json :=
  .object [("dimension", .string t.dimension), ("granularity", .string t.granularity.name),
    ("dateRange", Json.ofOption (t.dateRange.map DateRange.toJson))]

/-- The wire form of an order item. -/
def OrderItem.toJson (o : OrderItem) : Json :=
  Json.ofStrings [o.key, o.direction.name]

/-- The wire form of a request. -/
def Request.toJson (r : Request) : Json :=
  .object [("measures", Json.ofStrings r.measures), ("dimensions", Json.ofStrings r.dimensions),
    ("filters", .array (r.filters.map Filter.toJson)),
    ("timeDimension", Json.ofOption (r.time.map TimeClause.toJson)),
    ("order", .array (r.order.map OrderItem.toJson)),
    ("limit", Json.ofRows r.limit), ("offset", Json.ofRows r.offset)]

/-- The text of a request in its wire form. -/
def Request.render (r : Request) : String :=
  r.toJson.compact

end MetricLayer
