import MetricLayer.Cli.Arguments
import MetricLayer.Cli.Help
import MetricLayer.Compile.DialectMismatch
import MetricLayer.Schema.Classroom
import MetricLayer.Schema.Registry
import MetricLayer.Settings.Location

/-!
# Outcomes

What the program prints and how it ends, as a function of its arguments and surroundings. Only the
run of a query on a database is left to an engine.
-/

namespace MetricLayer.Cli

/-- What a program that has ended leaves. -/
structure Outcome where
  /-- The exit code. -/
  code : UInt8 := 0
  /-- The text on the standard output. -/
  output : String := ""
  /-- The text on the standard error output. -/
  errors : String := ""
  deriving DecidableEq, Repr

/-- The outcome of a program that prints a text. -/
def Outcome.printed (s : String) : Outcome :=
  { output := s }

/-- The outcome of a program that fails with a message. -/
def Outcome.failed (message : String) : Outcome :=
  { code := 1, errors := message ++ "\n" }

/-- The outcome of a program with wrong arguments. -/
def Outcome.misused (e : UsageError) : Outcome :=
  { code := 2, errors := e.message ++ "\n" }

/-- A query to run on a database. -/
structure Execution where
  /-- The path of the database. -/
  database : String
  /-- The longest time that the query may take. -/
  timeout : Duration
  /-- The query. -/
  query : CompiledQuery

/-- What the arguments of the program lead to. -/
inductive Ending where
  /-- The program ends. -/
  | outcome (o : Outcome)
  /-- An engine is to run a query. -/
  | execution (e : Execution)

/-- The JSON of a value on lines of its own. -/
def document (v : Json) : String :=
  v.indented ++ "\n"

/-- The text of a request, or the outcome if it cannot be read. -/
def readRequest (around : Surroundings) (source : RequestSource) : Except Outcome String :=
  let (path, state) :=
    match source with
    | .standardInput => ("-", around.input)
    | .file path => (path, around.files path)
  match state with
  | .text s => .ok s
  | .missing =>
    .error (.failed ("Error reading request '" ++ path ++
      "': No such file or directory (os error 2)"))
  | .unreadable reason =>
    .error (.failed ("Error reading request '" ++ path ++ "': " ++ reason))

/-- The compiled query of a request, or the outcome if there is none. -/
def compileRequest (around : Surroundings) (settings : Settings) (registry : Registry)
    (source : RequestSource) (dialect : Dialect) : Except Outcome CompiledQuery := do
  let s ← readRequest around source
  match registry.compileText { settings.compileOptions with dialect := dialect } s with
  | .ok c => .ok c
  | .error e => .error (.failed ("Compilation error: " ++ e.message))

/-- A compiled query in a format. -/
def OutputFormat.text (c : CompiledQuery) : OutputFormat → String
  | sql => c.listing
  | json => document c.toJson

/-- The query that `run` is to run and where, or the outcome if it comes to none. -/
def execution (around : Surroundings) (settings : Settings) (registry : Registry)
    (source : RequestSource) (database : Option String) : Except Outcome Execution := do
  let path ←
    match database with
    | some path => .ok path
    | none =>
      match settings.databasePath around.environment with
      | .ok path => .ok path
      | .error e => .error (Outcome.failed ("Error: " ++ e.message ++ " (pass --database)"))
  let timeout ←
    match settings.queryTimeout with
    | .ok d => .ok d
    | .error e => .error (Outcome.failed ("Error: " ++ e.message))
  let query ← compileRequest around settings registry source .sqlite
  .ok { database := path, timeout, query }

/-- What a command leads to. -/
def Command.perform (around : Surroundings) (settings : Settings) (registry : Registry) :
    Command → Ending
  | .schema => .outcome (.printed (document registry.catalogue.toJson))
  | .compile source dialect format =>
    match compileRequest around settings registry source
      (dialect.getD settings.compiler.dialect) with
    | .ok c => .outcome (.printed (format.text c))
    | .error o => .outcome o
  | .run source database =>
    match execution around settings registry source database with
    | .ok e => .execution e
    | .error o => .outcome o

/-- What an invocation leads to. -/
def Invocation.perform (around : Surroundings) : Invocation → Ending
  | .help page => .outcome (.printed page.text)
  | .version => .outcome (.printed versionText)
  | .command c =>
    match Settings.load around, Classroom.registry with
    | .error e, _ => .outcome (.failed ("Error loading settings: " ++ e.message))
    | .ok _, .error e => .outcome (.failed ("Error building schema registry: " ++ e.message))
    | .ok settings, .ok registry => c.perform around settings registry

/-- What the arguments of the program lead to. -/
def perform (around : Surroundings) (arguments : List String) : Ending :=
  match Invocation.parse arguments with
  | .error e => .outcome (.misused e)
  | .ok i => i.perform around

end MetricLayer.Cli
