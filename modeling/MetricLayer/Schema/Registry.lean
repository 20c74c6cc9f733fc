import MetricLayer.Json.Writer
import MetricLayer.Schema.Basic
import MetricLayer.Schema.Error
import MetricLayer.Schema.JoinGraph

/-!
# Registries

A checked schema: its tables, its measures and dimensions in the order of their identifiers, the
paths between tables, and which table a query starts from. `Draft.build` makes one. Its catalogue is
the listing of the measures and dimensions for readers, without any SQL.
-/

namespace MetricLayer

/-- A checked schema. -/
structure Registry where
  /-- The tables, in the order of their declaration. -/
  tables : List Table
  /-- The measures, in the order of their identifiers. -/
  measures : List Measure
  /-- The dimensions, in the order of their identifiers. -/
  dimensions : List Dimension
  /-- The paths between tables. -/
  joins : JoinGraph
  /-- The tables that a query starts from, the most preferred first. -/
  priority : List String
  /-- The table that a query starts from if none of the priority is needed. -/
  fallback : String

namespace Registry

/-- The measure with an identifier. -/
def measure? (r : Registry) (id : String) : Option Measure :=
  r.measures.find? fun m => m.id = id

/-- The dimension with an identifier. -/
def dimension? (r : Registry) (id : String) : Option Dimension :=
  r.dimensions.find? fun d => d.id = id

/-- The measure with an identifier, or the error that there is none. -/
def lookupMeasure (r : Registry) (id : String) : Except SchemaError Measure :=
  match r.measure? id with
  | some m => .ok m
  | none => .error (.measureNotFound id)

/-- The dimension with an identifier, or the error that there is none. -/
def lookupDimension (r : Registry) (id : String) : Except SchemaError Dimension :=
  match r.dimension? id with
  | some d => .ok d
  | none => .error (.dimensionNotFound id)

/-- The table with a name. -/
def table? (r : Registry) (name : String) : Option Table :=
  r.tables.find? fun t => t.name = name

/-- The alias of a table. -/
def alias? (r : Registry) (name : String) : Option String :=
  (r.table? name).map (·.aliasName)

end Registry

/-! ## Catalogues -/

/-- A line of a catalogue. -/
structure CatalogueEntry where
  /-- The identifier of the member. -/
  name : String
  /-- The aggregation of a measure, or the kind of a dimension. -/
  kind : String
  /-- The name of the table. -/
  table : String
  /-- What the member says, for readers. -/
  description : String
  deriving DecidableEq, Repr

/-- The measures and dimensions of a registry. -/
structure Catalogue where
  /-- The measures, in the order of their identifiers. -/
  measures : List CatalogueEntry
  /-- The dimensions, in the order of their identifiers. -/
  dimensions : List CatalogueEntry
  deriving DecidableEq, Repr

/-- The line of a measure. -/
def Measure.entry (m : Measure) : CatalogueEntry :=
  ⟨m.id, m.aggregation.name, m.table, m.description⟩

/-- The line of a dimension. -/
def Dimension.entry (d : Dimension) : CatalogueEntry :=
  ⟨d.id, d.kind.name, d.table, d.description⟩

/-- The catalogue of a registry. -/
def Registry.catalogue (r : Registry) : Catalogue :=
  ⟨r.measures.map Measure.entry, r.dimensions.map Dimension.entry⟩

/-- The JSON form of a line. -/
def CatalogueEntry.toJson (e : CatalogueEntry) : Json :=
  .object [("name", .string e.name), ("type", .string e.kind), ("table", .string e.table),
    ("description", .string e.description)]

/-- The JSON form of a catalogue. -/
def Catalogue.toJson (c : Catalogue) : Json :=
  .object [("measures", .array (c.measures.map CatalogueEntry.toJson)),
    ("dimensions", .array (c.dimensions.map CatalogueEntry.toJson))]

end MetricLayer
