import MetricLayer.Sql.Term

/-!
# Errors of a schema
-/

namespace MetricLayer

/-- The place of a reference to a table. -/
inductive TableContext where
  /-- The measure or dimension with an identifier. -/
  | member (id : String)
  /-- The path from a primary table to a target. -/
  | join (primary target : String)
  /-- The priority list. -/
  | priority
  /-- The fallback table. -/
  | fallback
  deriving DecidableEq, Repr

/-- The words for a place. -/
def TableContext.text : TableContext → String
  | member id => id
  | join primary target => "join " ++ primary ++ " -> " ++ target
  | priority => "priority"
  | fallback => "fallback"

/-- What is wrong with a schema, or with a name that is looked up in it. -/
inductive SchemaError where
  /-- No measure has the identifier. -/
  | measureNotFound (id : String)
  /-- No dimension has the identifier. -/
  | dimensionNotFound (id : String)
  /-- The identifier is not of the form of a group and a name. -/
  | invalidIdentifier (id : String)
  /-- Two members have the identifier. -/
  | duplicateMember (id : String)
  /-- Two tables have the name. -/
  | duplicateTable (name : String)
  /-- Two tables have the alias. -/
  | duplicateAlias (aliasName first second : String)
  /-- The table is not registered. -/
  | unknownTable (context : TableContext) (table : String)
  /-- The SQL of the member is not one expression. -/
  | invalidExpression (id : String) (fault : TermFault)
  /-- The dimension has a grain and is not a time dimension. -/
  | grainOnNonTimeDimension (id : String)
  deriving DecidableEq, Repr

/-- The message of an error. -/
def SchemaError.message : SchemaError → String
  | measureNotFound id => "Measure not found: " ++ id
  | dimensionNotFound id => "Dimension not found: " ++ id
  | invalidIdentifier id =>
    "Invalid member identifier '" ++ id ++ "': expected '<group>.<name>' in lowercase"
  | duplicateMember id => "Member '" ++ id ++ "' is registered more than once"
  | duplicateTable name => "Table '" ++ name ++ "' is registered more than once"
  | duplicateAlias aliasName first second =>
    "Alias '" ++ aliasName ++ "' is used by both '" ++ first ++ "' and '" ++ second ++ "'"
  | unknownTable context table =>
    "'" ++ context.text ++ "' references unregistered table '" ++ table ++ "'"
  | invalidExpression id fault => "Invalid SQL expression for '" ++ id ++ "': " ++ fault.message
  | grainOnNonTimeDimension id =>
    "Dimension '" ++ id ++ "' has a grain but is not a time dimension"

end MetricLayer
