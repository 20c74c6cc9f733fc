import MetricLayer.Compile.Selection
import MetricLayer.Sql.Query

/-!
# Output columns

The columns of a result: the measures, the dimensions and the time dimension of a selection, in this
order, under names in which an underscore stands for each period of the identifier. The sort order
refers to columns by these names.
-/

namespace MetricLayer

/-- What an output column holds. -/
inductive ColumnRole where
  | measure
  | dimension
  | time
  deriving DecidableEq, Repr

/-- The keyword of a role. -/
def ColumnRole.name : ColumnRole → String
  | measure => "measure"
  | dimension => "dimension"
  | time => "time"

/-- An output column. -/
structure Column where
  /-- What is selected. -/
  expr : Expr
  /-- The name of the column. -/
  aliasName : String
  /-- The identifier of the measure or dimension. -/
  member : String
  /-- What the column holds. -/
  role : ColumnRole

/-- The name of the column of a member. -/
def outputAlias (id : String) : String :=
  id.map fun c => if c = '.' then '_' else c

/-- The column of a measure. -/
def Measure.column (m : Measure) : Column :=
  ⟨.raw m.sql, outputAlias m.id, m.id, .measure⟩

/-- The column of a dimension. -/
def Dimension.column (d : Dimension) : Column :=
  ⟨d.operand.expr, outputAlias d.id, d.id, .dimension⟩

/-- The column of the time dimension. -/
def SelectedTime.column (t : SelectedTime) : Column :=
  ⟨t.bucket.expr, timeKey, t.clause.dimension, .time⟩

/-- The columns of a selection, which may share a name. -/
def Selection.columnList (s : Selection) : List Column :=
  s.measures.map Measure.column ++ (s.dimensions.map Dimension.column ++
    s.time.toList.map SelectedTime.column)

/-- The first of the columns whose name is in `seen` or that of an earlier one. -/
def firstClash? (seen : List String) : List Column → Option Column
  | [] => none
  | c :: cs => if c.aliasName ∈ seen then some c else firstClash? (c.aliasName :: seen) cs

/-- The columns of a selection, no two of one name. -/
def Selection.columns (s : Selection) : Except RequestError (List Column) :=
  match firstClash? [] s.columnList with
  | some c => .error (.duplicateIdentifier c.member)
  | none => .ok s.columnList

/-- The item of the select list of a column. -/
def Column.selectItem (c : Column) : SelectItem :=
  ⟨c.expr, some c.aliasName⟩

/-- The column that an order key refers to: the column of the time dimension for the time key, and
else the first column of that member. -/
def orderedColumn? (cs : List Column) (key : String) : Option Column :=
  if key = timeKey then cs.find? fun c => c.role = .time else cs.find? fun c => c.member = key

/-- The item of the sort order for an item of a request. -/
def orderTerm (cs : List Column) (item : OrderItem) : Except RequestError OrderTerm :=
  match orderedColumn? cs item.key with
  | some c => .ok ⟨.column none c.aliasName, some item.direction⟩
  | none => .error (.orderKeyNotSelected item.key)

/-- The sort order without a request for one: by time, if there is a time dimension. -/
def defaultOrder (cs : List Column) : List OrderTerm :=
  if cs.any fun c => c.role = .time then [⟨.column none timeKey, some .asc⟩] else []

/-- The sort order of a query. -/
def orderTerms (cs : List Column) (items : List OrderItem) : Except RequestError (List OrderTerm) :=
  if items.isEmpty then .ok (defaultOrder cs) else items.mapM (orderTerm cs)

end MetricLayer
