import MetricLayer.Settings.Basic

/-!
# Where settings come from

The settings are those of one file: the one that the variable `CLASSMETRICS_CONFIG` names, else the
one in the working directory, else that of the user. Only the first has to exist.
-/

namespace MetricLayer

/-- What stands at a path. -/
inductive FileState where
  /-- Nothing does. -/
  | missing
  /-- A text does. -/
  | text (s : String)
  /-- Something that cannot be read as a text does. -/
  | unreadable (reason : String)
  deriving DecidableEq, Repr

/-- What a program finds around it. -/
structure Surroundings where
  /-- The values of the variables. -/
  environment : String → Option String
  /-- What stands at each path. -/
  files : String → FileState
  /-- What the standard input holds. -/
  input : FileState
  /-- The directory with the settings of the user. -/
  configDirectory : Option String

namespace Settings

/-- A place to look for settings. -/
structure Location where
  /-- The path of the file. -/
  path : String
  /-- The file has to exist. -/
  required : Bool
  deriving DecidableEq, Repr

/-- The variable that names a file with settings. -/
def fileVariable : String := "CLASSMETRICS_CONFIG"

/-- The places to look for settings: the named file alone if there is one. -/
def locations (named configDirectory : Option String) : List Location :=
  match named with
  | some path => [⟨path, true⟩]
  | none =>
    ⟨"classmetrics.toml", false⟩ ::
      configDirectory.toList.map fun dir => ⟨dir ++ "/classmetrics/config.toml", false⟩

/-- The settings at the first place where a file is, or the defaults. -/
def loadFrom (files : String → FileState) : List Location → Except SettingsError Settings
  | [] => .ok {}
  | l :: ls =>
    match files l.path with
    | .missing => if l.required then .error (.fileNotFound l.path) else loadFrom files ls
    | .text s => parse s
    | .unreadable reason => .error (.unreadable reason)

/-- The settings of a program by its surroundings. -/
def load (around : Surroundings) : Except SettingsError Settings :=
  loadFrom around.files (locations (around.environment fileVariable) around.configDirectory)

end Settings

end MetricLayer
