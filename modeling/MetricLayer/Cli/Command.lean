import MetricLayer.Sql.Dialect

/-!
# Commands

What the command line can ask for.
-/

namespace MetricLayer.Cli

/-- Where a request is read from. -/
inductive RequestSource where
  /-- The standard input. -/
  | standardInput
  /-- A file. -/
  | file (path : String)
  deriving DecidableEq, Repr

/-- The source that an argument names; a hyphen is the standard input. -/
def RequestSource.ofArgument (s : String) : RequestSource :=
  if s = "-" then .standardInput else .file s

/-- How a compiled query is printed. -/
inductive OutputFormat where
  /-- The SQL and comments that tell the values. -/
  | sql
  /-- The whole compiled query as JSON. -/
  | json
  deriving DecidableEq, Repr

/-- The format of a name. -/
def OutputFormat.ofName? (s : String) : Option OutputFormat :=
  if s = "sql" then some .sql else if s = "json" then some .json else none

/-- Something to do. -/
inductive Command where
  /-- Compiles a request and prints the query. -/
  | compile (source : RequestSource) (dialect : Option Dialect) (format : OutputFormat)
  /-- Prints the catalogue of measures and dimensions. -/
  | schema
  /-- Compiles a request and runs the query on a database. -/
  | run (source : RequestSource) (database : Option String)
  deriving DecidableEq, Repr

/-- Where the request of a command is read from. -/
def Command.source? : Command → Option RequestSource
  | compile source _ _ => some source
  | schema => none
  | run source _ => some source

/-- A page of help. -/
inductive HelpPage where
  /-- The page about the program. -/
  | overview
  /-- The page about `compile`, with or without details. -/
  | compile (detailed : Bool)
  /-- The page about `schema`. -/
  | schema
  /-- The page about `run`. -/
  | run
  /-- The page about `help`. -/
  | help
  deriving DecidableEq, Repr

/-- What the arguments of the program ask for. -/
inductive Invocation where
  /-- A command. -/
  | command (c : Command)
  /-- A page of help. -/
  | help (page : HelpPage)
  /-- The version of the program. -/
  | version
  deriving DecidableEq, Repr

end MetricLayer.Cli
