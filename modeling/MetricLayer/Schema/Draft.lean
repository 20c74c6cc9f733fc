import MetricLayer.Schema.Registry
import MetricLayer.Sql.Term.Reader

/-!
# Drafts

A schema as it is declared, and the checks that make it a registry. They run in a fixed order, and
the first that fails decides the error: names and aliases of tables; for each measure and then each
dimension its identifier, its table and its expression; the tables of joins; the priority list; the
fallback table.

The other checks do not depend on what SQL is, so `Draft.buildWith` takes the check of expressions
as an argument. `Draft.build` is the one that reads expressions as terms.
-/

namespace MetricLayer

/-- A schema as it is declared. -/
structure Draft where
  /-- The tables. -/
  tables : List Table := []
  /-- The measures. -/
  measures : List Measure := []
  /-- The dimensions. -/
  dimensions : List Dimension := []
  /-- The paths between tables. -/
  joins : JoinGraph := .empty
  /-- The tables that a query starts from, the most preferred first. -/
  priority : List String := []
  /-- The fallback table, if one is declared. -/
  fallback : Option String := none

/-- An identifier part can begin with the character. -/
def isIdStart (c : Char) : Bool :=
  'a' ≤ c && c ≤ 'z'

/-- An identifier part can go on with the character. -/
def isIdPart (c : Char) : Bool :=
  isIdStart c || c.isDigit || c == '_'

/-- The characters are a part of an identifier. -/
def isIdName : List Char → Bool
  | [] => false
  | c :: cs => isIdStart c && cs.all isIdPart

/-- The characters are a member identifier: two parts with a period between them. -/
def isMemberIdChars (cs : List Char) : Bool :=
  match cs.span (· != '.') with
  | (group, _ :: name) => isIdName group && isIdName name
  | (_, []) => false

/-- The text is a member identifier: two parts with a period between them. -/
def isMemberId (s : String) : Bool :=
  isMemberIdChars s.toList

/-- The items with `x` put before the first that has a greater key. -/
def insertBy {α : Type} (key : α → String) (x : α) : List α → List α
  | [] => [x]
  | y :: ys => if key x < key y then x :: y :: ys else y :: insertBy key x ys

/-- The items in the order of their keys. -/
def sortBy {α : Type} (key : α → String) (xs : List α) : List α :=
  xs.foldr (insertBy key) []

/-- A check of the SQL of a member, which is named by its identifier. -/
abbrev ExpressionCheck := (id sql : String) → Except SchemaError Unit

namespace Draft

/-- The draft without declarations. -/
def empty : Draft := {}

/-- The draft with one more table. -/
def addTable (d : Draft) (t : Table) : Draft :=
  { d with tables := d.tables ++ [t] }

/-- The draft with one more measure. -/
def addMeasure (d : Draft) (m : Measure) : Draft :=
  { d with measures := d.measures ++ [m] }

/-- The draft with one more dimension. -/
def addDimension (d : Draft) (x : Dimension) : Draft :=
  { d with dimensions := d.dimensions ++ [x] }

/-- The draft with the path from a primary table to a target declared. -/
def addJoin (d : Draft) (primary target : String) (steps : List JoinStep) : Draft :=
  { d with joins := d.joins.addPath primary target steps }

/-- The draft with a priority list in place of its own. -/
def setPriority (d : Draft) (tables : List String) : Draft :=
  { d with priority := tables }

/-- The draft with a fallback table in place of its own. -/
def setFallback (d : Draft) (table : String) : Draft :=
  { d with fallback := some table }

/-- Checks that no table has the name or the alias of an earlier one. -/
def checkTables : (earlier : List Table) → List Table → Except SchemaError Unit
  | _, [] => .ok ()
  | earlier, t :: ts =>
    if earlier.any fun u => u.name = t.name then .error (.duplicateTable t.name)
    else
      match earlier.find? fun u => u.aliasName = t.aliasName with
      | some u => .error (.duplicateAlias t.aliasName u.name t.name)
      | none => checkTables (earlier ++ [t]) ts

/-- Checks that a table is registered. -/
def checkTable (tables : List Table) (context : TableContext) (name : String) :
    Except SchemaError Unit :=
  if tables.any fun t => t.name = name then .ok () else .error (.unknownTable context name)

/-- Checks that the identifier of a member is well formed and not that of an earlier one. -/
def checkId (seen : List String) (id : String) : Except SchemaError Unit :=
  if isMemberId id then
    if id ∈ seen then .error (.duplicateMember id) else .ok ()
  else .error (.invalidIdentifier id)

/-- Checks that the SQL of a member is one expression. -/
def checkExpression : ExpressionCheck := fun id sql =>
  match Term.parse sql with
  | .ok _ => .ok ()
  | .error fault => .error (.invalidExpression id fault)

/-- Checks that only a time dimension has a grain. -/
def checkGrain (d : Dimension) : Except SchemaError Unit :=
  if d.grain.isSome && !d.isTime then .error (.grainOnNonTimeDimension d.id) else .ok ()

section

variable (check : ExpressionCheck) (tables : List Table)

/-- Checks the identifier, the table and the expression of a member. -/
def checkMember (seen : List String) (id table sql : String) : Except SchemaError Unit := do
  checkId seen id
  checkTable tables (.member id) table
  check id sql

/-- Checks measures that follow members with the identifiers `seen`. -/
def checkMeasures : (seen : List String) → List Measure → Except SchemaError Unit
  | _, [] => .ok ()
  | seen, m :: ms => do
    checkMember check tables seen m.id m.table m.sql
    checkMeasures (m.id :: seen) ms

/-- Checks dimensions that follow members with the identifiers `seen`. -/
def checkDimensions : (seen : List String) → List Dimension → Except SchemaError Unit
  | _, [] => .ok ()
  | seen, d :: ds => do
    checkMember check tables seen d.id d.table d.sql
    checkGrain d
    checkDimensions (d.id :: seen) ds

end

/-- The tables that a step names, in the order in which they are checked. -/
def stepTables (s : JoinStep) : List String :=
  [s.table, s.fromTable]

/-- The tables that a path from `primary` names, in the order in which they are checked. -/
def pathTables (primary : String) (p : JoinPath) : List String :=
  primary :: p.target :: p.steps.flatMap stepTables

/-- Checks that the tables of a path are registered. -/
def checkPath (tables : List Table) (e : String × JoinPath) : Except SchemaError Unit :=
  (pathTables e.1 e.2).forM (checkTable tables (.join e.1 e.2.target))

/-- The fallback table: the declared one, else the first of the priority list, else the first
table. -/
def fallbackTable? (d : Draft) : Option String :=
  d.fallback.or (d.priority.head?.or (d.tables.head?.map (·.name)))

/-- Checks that there is a fallback table, and that it is registered. -/
def checkFallback (d : Draft) : Except SchemaError String :=
  match d.fallbackTable? with
  | some name => (checkTable d.tables .fallback name).map fun _ => name
  | none => .error (.unknownTable .fallback "")

/-- The registry of a draft that passes every check, `check` among them. -/
def buildWith (check : ExpressionCheck) (d : Draft) : Except SchemaError Registry := do
  checkTables [] d.tables
  checkMeasures check d.tables [] d.measures
  checkDimensions check d.tables (d.measures.map (·.id)) d.dimensions
  d.joins.toList.forM (checkPath d.tables)
  d.priority.forM (checkTable d.tables .priority)
  let fallback ← d.checkFallback
  .ok ⟨d.tables, sortBy (·.id) d.measures, sortBy (·.id) d.dimensions, d.joins, d.priority,
    fallback⟩

/-- The registry of a draft that passes every check. -/
def build : Draft → Except SchemaError Registry :=
  buildWith checkExpression

end Draft

end MetricLayer
