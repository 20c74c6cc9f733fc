/-!
# Join graphs

For each primary table, the tables that can be reached from it and the joins on the way. A graph
remembers the order in which its entries were first declared; declaring one again replaces its steps
and keeps its place.
-/

namespace MetricLayer

/-- A join of a table, where a column of an earlier table equals one of its own. -/
structure JoinStep where
  /-- The table that is joined. -/
  table : String
  /-- The earlier table. -/
  fromTable : String
  /-- The column of the earlier table. -/
  fromColumn : String
  /-- The column of the joined table. -/
  toColumn : String
  deriving DecidableEq, Repr

/-- The way to a table. -/
structure JoinPath where
  /-- The table that is reached. -/
  target : String
  /-- The joins on the way, in order. -/
  steps : List JoinStep
  deriving DecidableEq, Repr

/-- The paths of each primary table, in the order of their declaration. -/
structure JoinGraph where
  /-- The primary tables with their paths. -/
  edges : List (String × List JoinPath) := []
  deriving DecidableEq, Repr

namespace JoinGraph

/-- The graph without paths. -/
def empty : JoinGraph := {}

/-- The paths with `p` in place of the one to the same target, or at the end. -/
def setPath (p : JoinPath) : List JoinPath → List JoinPath
  | [] => [p]
  | q :: qs => if q.target = p.target then p :: qs else q :: setPath p qs

/-- The edges with the path `p` of a primary table set. -/
def setEdge (primary : String) (p : JoinPath) :
    List (String × List JoinPath) → List (String × List JoinPath)
  | [] => [(primary, [p])]
  | (q, ps) :: es =>
    if q = primary then (q, setPath p ps) :: es else (q, ps) :: setEdge primary p es

/-- The graph with the path from `primary` to `target` declared. -/
def addPath (g : JoinGraph) (primary target : String) (steps : List JoinStep) : JoinGraph :=
  ⟨setEdge primary ⟨target, steps⟩ g.edges⟩

/-- The paths from a primary table, in the order of their declaration. -/
def pathsFrom (g : JoinGraph) (primary : String) : List JoinPath :=
  (g.edges.lookup primary).getD []

/-- The path from a primary table to a target. -/
def path? (g : JoinGraph) (primary target : String) : Option JoinPath :=
  (g.pathsFrom primary).find? fun p => p.target = target

/-- Every path with its primary table, in the order of their declaration. -/
def toList (g : JoinGraph) : List (String × JoinPath) :=
  g.edges.flatMap fun (primary, paths) => paths.map fun p => (primary, p)

end JoinGraph

end MetricLayer
