import MetricLayer.Compile.CompiledQuery
import MetricLayer.Settings.Text
import MetricLayer.Toml.Reader

/-!
# Settings

What can be configured, and how a TOML document gives it. A document has a table for each section;
a section can also be an array of the values of its fields, in their order. What the document does
not give has its default, and what it gives beyond the known keys does not matter.
-/

namespace MetricLayer

/-- The settings of the compiler. -/
structure CompilerSettings where
  /-- The dialect of queries, where none is asked for. -/
  dialect : Dialect := .postgres
  /-- The cap on limits; zero is no cap. -/
  maxLimit : UInt64 := 10000
  deriving DecidableEq, Repr

/-- The settings of the database. -/
structure StorageSettings where
  /-- A template of the path of the database. -/
  database : Option String := none
  /-- The longest time that a query may take, as it was written. -/
  queryTimeout : String := "30s"
  deriving DecidableEq, Repr

/-- The settings of the log. -/
structure LoggingSettings where
  /-- What to log. -/
  level : String := "info"
  deriving DecidableEq, Repr

/-- All settings. -/
structure Settings where
  /-- The compiler. -/
  compiler : CompilerSettings := {}
  /-- The database. -/
  storage : StorageSettings := {}
  /-- The log. -/
  logging : LoggingSettings := {}
  deriving DecidableEq, Repr

namespace Settings

/-- The value that a section has for the field of a key and a position. -/
def field? (key : String) (position : Nat) : Toml → Option Toml
  | .table entries => entries.lookup key
  | .array items => items[position]?
  | _ => none

/-- A value can be a section. A date can, but gives nothing. -/
def isSection : Toml → Bool
  | .table _ => true
  | .array _ => true
  | .datetime _ => true
  | _ => false

/-- The value of a field by a reader, or the default if the section does not give the field. -/
def readField {α : Type} (given : Option Toml) (key : String) (position : Nat)
    (read : Toml → Option α) (default : α) : Option α :=
  match given.bind (field? key position) with
  | none => some default
  | some v => read v

/-- A value that says nothing beyond its key. -/
def isUnit : Toml → Bool
  | .table entries => entries.isEmpty
  | .array items => items.isEmpty
  | _ => false

/-- A dialect: its name, or a table whose one key is its name, with nothing in it. -/
def readDialect : Toml → Option Dialect
  | .string s => Dialect.ofName? s
  | .table [(name, v)] => if isUnit v then Dialect.ofName? name else none
  | _ => none

/-- An unsigned integer of 64 bits. -/
def readCount : Toml → Option UInt64
  | .integer i => if 0 ≤ i ∧ i.toNat < UInt64.size then some (UInt64.ofNat i.toNat) else none
  | _ => none

/-- The settings of the compiler in a section. -/
def readCompiler (given : Option Toml) : Option CompilerSettings := do
  let dialect ← readField given "dialect" 0 readDialect .postgres
  let maxLimit ← readField given "max_limit" 1 readCount 10000
  some { dialect, maxLimit }

/-- The settings of the database in a section. -/
def readStorage (given : Option Toml) : Option StorageSettings := do
  let database ← readField given "database" 0 (fun v => v.string?.map some) none
  let queryTimeout ← readField given "query_timeout" 1 Toml.string? "30s"
  some { database, queryTimeout }

/-- The settings of the log in a section. -/
def readLogging (given : Option Toml) : Option LoggingSettings := do
  let level ← readField given "level" 0 Toml.string? "info"
  some { level }

/-- The section of a key, if the document has one; nothing if it cannot be a section. -/
def sectionAt? (document : Toml) (key : String) : Option (Option Toml) :=
  match document.get? key with
  | none => some none
  | some v => if isSection v then some (some v) else none

/-- The settings of a document. -/
def ofToml? (document : Toml) : Option Settings := do
  let compiler ← readCompiler (← sectionAt? document "compiler")
  let storage ← readStorage (← sectionAt? document "storage")
  let logging ← readLogging (← sectionAt? document "logging")
  some { compiler, storage, logging }

/-- The settings in a text. -/
def parse (s : String) : Except SettingsError Settings :=
  match (Toml.parse? s).bind ofToml? with
  | some settings => .ok settings
  | none => .error .malformed

/-- How to compile by these settings. -/
def compileOptions (s : Settings) : CompileOptions :=
  { dialect := s.compiler.dialect
    maxLimit := if s.compiler.maxLimit = 0 then none else some s.compiler.maxLimit }

/-- The path of the database, given the values of the variables. -/
def databasePath (environment : String → Option String) (s : Settings) :
    Except SettingsError String :=
  match s.storage.database with
  | none => .error .noDatabase
  | some template => Template.expand environment template

/-- The longest time that a query may take. -/
def queryTimeout (s : Settings) : Except SettingsError Duration :=
  Duration.parse s.storage.queryTimeout

end Settings

end MetricLayer
