import MetricLayer.Request.Error
import MetricLayer.Schema.Registry
import MetricLayer.Sql.Query

/-!
# Join plans

The tables that a query reads: a primary table, and the joins that bring in every other table that
is needed. The joins follow the declared paths from the primary table in the order of their
declaration, whatever the order of the request, and no table is joined twice.
-/

namespace MetricLayer

/-- A table that is joined. -/
structure JoinedTable where
  /-- The name of the table. -/
  table : String
  /-- The alias of the table. -/
  aliasName : String
  /-- The condition of the join. -/
  on : Expr

/-- A primary table and the tables joined to it. -/
structure JoinPlan where
  /-- The name of the primary table. -/
  primary : String
  /-- The alias of the primary table. -/
  primaryAlias : String
  /-- The tables that are joined, in order. -/
  joins : List JoinedTable

/-- The names of the tables of a plan, in order. -/
def JoinPlan.tables (p : JoinPlan) : List String :=
  p.primary :: p.joins.map (·.table)

/-- The steps whose tables are neither in `joined` nor joined by an earlier step. -/
def newSteps (joined : List String) : List JoinStep → List JoinStep
  | [] => []
  | s :: ss =>
    if s.table ∈ joined then newSteps joined ss else s :: newSteps (joined ++ [s.table]) ss

/-- The steps of the paths to the needed tables that are not yet joined. -/
def plannedSteps (needed joined : List String) : List JoinPath → List JoinStep
  | [] => []
  | p :: ps =>
    if p.target ∈ needed ∧ p.target ∉ joined then
      let steps := newSteps joined p.steps
      steps ++ plannedSteps needed (joined ++ steps.map (·.table)) ps
    else plannedSteps needed joined ps

/-- The least of some names in the order of their characters. -/
def leastName? : List String → Option String
  | [] => none
  | x :: xs =>
    match leastName? xs with
    | some y => some (if y < x then y else x)
    | none => some x

namespace Registry

/-- The table that a query starts from: the first of the priority list that is needed, or else the
fallback. -/
def primaryTable (r : Registry) (needed : List String) : String :=
  (r.priority.find? fun t => t ∈ needed).getD r.fallback

/-- The alias of a table in a query that starts from `primary`. -/
def joinAlias (r : Registry) (primary table : String) : Except RequestError String :=
  match r.alias? table with
  | some a => .ok a
  | none => .error (.unreachableJoin primary table)

/-- The join of a step, on the equality of its two columns. -/
def joinStep (r : Registry) (primary : String) (s : JoinStep) : Except RequestError JoinedTable := do
  let fromAlias ← r.joinAlias primary s.fromTable
  let aliasName ← r.joinAlias primary s.table
  .ok ⟨s.table, aliasName,
    .binary .eq (.column (some fromAlias) s.fromColumn) (.column (some aliasName) s.toColumn)⟩

/-- The plan of a query that needs some tables. -/
def joinPlan (r : Registry) (needed : List String) : Except RequestError JoinPlan := do
  let primary := r.primaryTable needed
  let steps := plannedSteps needed [primary] (r.joins.pathsFrom primary)
  let joins ← steps.mapM (r.joinStep primary)
  match leastName? (needed.filter fun t => t ∉ primary :: steps.map (·.table)) with
  | some table => .error (.unreachableJoin primary table)
  | none =>
    let aliasName ← r.joinAlias primary primary
    .ok ⟨primary, aliasName, joins⟩

end Registry

/-- The first table of a query by a plan. -/
def JoinPlan.source (p : JoinPlan) : TableRef :=
  ⟨p.primary, some p.primaryAlias⟩

/-- The join of a query by a plan. -/
def JoinedTable.join (t : JoinedTable) : Join :=
  ⟨⟨t.table, some t.aliasName⟩, t.on⟩

/-- A query that reads the tables of a plan. -/
def JoinPlan.query (p : JoinPlan) : Query :=
  { source := some p.source, joins := p.joins.map JoinedTable.join }

end MetricLayer
