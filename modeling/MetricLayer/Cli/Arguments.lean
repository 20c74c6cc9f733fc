import MetricLayer.Cli.Command

/-!
# Arguments

How the arguments of the program ask for something. They are read from left to right, and a request
for help or for the version ends the reading, so that only what stands before it can be wrong.
-/

namespace MetricLayer.Cli

/-- An option that takes a value. -/
inductive OptionName where
  /-- The dialect of the query. -/
  | dialect
  /-- The form of the output. -/
  | format
  /-- The path of the database. -/
  | database
  deriving DecidableEq, Repr

namespace OptionName

/-- The name behind two hyphens. -/
def name : OptionName → String
  | dialect => "dialect"
  | format => "format"
  | database => "database"

/-- The letter behind one hyphen. -/
def letter? : OptionName → Option Char
  | dialect => some 'd'
  | format => some 'f'
  | database => none

end OptionName

/-- What is wrong with the arguments. -/
inductive UsageError where
  /-- The argument has no meaning at its place. -/
  | unexpected (argument : String)
  /-- There is no command. -/
  | noCommand
  /-- There is no command of the name. -/
  | unknownCommand (name : String)
  /-- An option has no value. -/
  | missingValue (option : OptionName)
  /-- An option cannot have the value. -/
  | invalidValue (option : OptionName) (value : String)
  /-- An option is given twice. -/
  | repeated (option : OptionName)
  /-- No file is named. -/
  | missingFile
  deriving DecidableEq, Repr

/-- The message of an error. -/
def UsageError.message : UsageError → String
  | unexpected argument => "error: unexpected argument '" ++ argument ++ "' found"
  | noCommand => "error: a command is required"
  | unknownCommand name => "error: unrecognized command '" ++ name ++ "'"
  | missingValue option => "error: a value is required for '--" ++ option.name ++ "'"
  | invalidValue option value =>
    "error: invalid value '" ++ value ++ "' for '--" ++ option.name ++ "'"
  | repeated option => "error: '--" ++ option.name ++ "' cannot be used multiple times"
  | missingFile => "error: a file is required"

/-- What one or two arguments of a command say. -/
inductive Item where
  /-- A request for help, with or without details. -/
  | help (detailed : Bool)
  /-- An option with its value. -/
  | option (o : OptionName) (value : String)
  /-- An argument that is no option. -/
  | operand (s : String)
  deriving DecidableEq, Repr

/-- An argument that names an option or would. -/
def looksLikeOption (s : String) : Bool :=
  match s.toList with
  | '-' :: _ :: _ => true
  | _ => false

/-- The characters before the first equals sign, and those behind it if there is one. -/
def splitEquals (cs : List Char) : String × Option String :=
  (String.ofList (cs.takeWhile (· != '=')),
    match cs.dropWhile (· != '=') with
    | [] => none
    | _ :: value => some (String.ofList value))

/-- The value that follows the letter of an option in the same argument. -/
def valueBehindLetter : List Char → Option String
  | [] => none
  | '=' :: value => some (String.ofList value)
  | value => some (String.ofList value)

/-- An argument by itself. -/
inductive Argument where
  /-- The mark behind which every argument is an operand. -/
  | endOfOptions
  /-- A request for help, with or without details. -/
  | help (detailed : Bool)
  /-- An option with the value that stands in the same argument. -/
  | option (o : OptionName) (attached : Option String)
  /-- An argument that is no option. -/
  | operand
  /-- An argument without a meaning. -/
  | unexpected

/-- An argument for a command with some options. -/
def Argument.ofString (options : List OptionName) (s : String) : Argument :=
  match s.toList with
  | ['-', '-'] => .endOfOptions
  | '-' :: '-' :: cs =>
    match splitEquals cs with
    | ("help", none) => .help true
    | (name, attached) =>
      match options.find? (·.name == name) with
      | some o => .option o attached
      | none => .unexpected
  | '-' :: c :: cs =>
    -- What follows the letter of an option is its value.
    if c = 'h' then .help false
    else
      match options.find? (·.letter? == some c) with
      | some o => .option o (valueBehindLetter cs)
      | none => .unexpected
  | _ => .operand

/-- What the arguments of a command with some options say, up to a request for help. -/
def items (options : List OptionName) : List String → Except UsageError (List Item)
  | [] => .ok []
  | a :: as =>
    match Argument.ofString options a with
    | .endOfOptions => .ok (as.map .operand)
    | .help detailed => .ok [.help detailed]
    | .operand => (items options as).map (.operand a :: ·)
    | .unexpected => .error (.unexpected a)
    | .option o (some v) => (items options as).map (.option o v :: ·)
    | .option o none =>
      match as with
      | [] => .error (.missingValue o)
      | v :: as =>
        if looksLikeOption v then .error (.missingValue o)
        else (items options as).map (.option o v :: ·)

/-- The arguments of a command that are read so far. -/
structure Given where
  /-- The file. -/
  file : Option String := none
  /-- The dialect. -/
  dialect : Option Dialect := none
  /-- The format. -/
  format : Option OutputFormat := none
  /-- The path of the database. -/
  database : Option String := none

namespace Given

/-- The arguments with a further operand, which has to be the first one and a path. -/
def addOperand (g : Given) (s : String) : Except UsageError Given :=
  if g.file.isSome || s.isEmpty then .error (.unexpected s) else .ok { g with file := some s }

/-- The value of an option, which has to be the first one and one that the option can have. -/
def once {α : Type} (o : OptionName) (s : String) (before value : Option α) :
    Except UsageError (Option α) :=
  match before, value with
  | some _, _ => .error (.repeated o)
  | none, none => .error (.invalidValue o s)
  | none, some v => .ok (some v)

/-- The arguments with a further option. -/
def addOption (g : Given) (o : OptionName) (s : String) : Except UsageError Given :=
  match o with
  | .dialect => (once o s g.dialect (Dialect.ofName? s)).map fun d => { g with dialect := d }
  | .format => (once o s g.format (OutputFormat.ofName? s)).map fun f => { g with format := f }
  | .database =>
    (once o s g.database (if s.isEmpty then none else some s)).map fun p =>
      { g with database := p }

/-- The source of the request. -/
def source (g : Given) : Except UsageError RequestSource :=
  match g.file with
  | some s => .ok (.ofArgument s)
  | none => .error .missingFile

end Given

/-- How a command is read. -/
structure Form where
  /-- The options. -/
  options : List OptionName
  /-- The command names a file with a request. -/
  takesFile : Bool
  /-- The page of help, with or without details. -/
  page : Bool → HelpPage
  /-- The command that the arguments make. -/
  command : Given → Except UsageError Command

namespace Form

/-- What the items of a command ask for, behind those that are read so far. -/
def collect (form : Form) : Given → List Item → Except UsageError Invocation
  | g, [] => (form.command g).map .command
  | _, .help detailed :: _ => .ok (.help (form.page detailed))
  | g, .operand s :: is =>
    if form.takesFile then do
      let g ← g.addOperand s
      form.collect g is
    else .error (.unexpected s)
  | g, .option o v :: is => do
    let g ← g.addOption o v
    form.collect g is

/-- What the arguments of a command ask for. -/
def parse (form : Form) (as : List String) : Except UsageError Invocation := do
  let is ← items form.options as
  form.collect {} is

/-- The form of `compile`. -/
def compile : Form where
  options := [.dialect, .format]
  takesFile := true
  page := .compile
  command g := g.source.map fun s => .compile s g.dialect (g.format.getD .sql)

/-- The form of `schema`. -/
def schema : Form where
  options := []
  takesFile := false
  page _ := .schema
  command _ := .ok .schema

/-- The form of `run`. -/
def run : Form where
  options := [.database]
  takesFile := true
  page _ := .run
  command g := g.source.map fun s => .run s g.database

end Form

/-- What the arguments behind `help` ask for. -/
def parseHelp : List String → Except UsageError Invocation
  | [] => .ok (.help .overview)
  | ["compile"] => .ok (.help (.compile true))
  | ["schema"] => .ok (.help .schema)
  | ["run"] => .ok (.help .run)
  | ["help"] => .ok (.help .help)
  | name :: _ => .error (.unknownCommand name)

/-- What an option in the place of a command asks for. -/
def parseLeadingOption (s : String) : Except UsageError Invocation :=
  match s.toList with
  | '-' :: 'h' :: _ => .ok (.help .overview)
  | '-' :: 'V' :: _ => .ok .version
  | _ =>
    if s = "--help" then .ok (.help .overview)
    else if s = "--version" then .ok .version
    else .error (.unexpected s)

/-- What the arguments of the program ask for. -/
def Invocation.parse : List String → Except UsageError Invocation
  | [] => .error .noCommand
  | "compile" :: as => Form.compile.parse as
  | "schema" :: as => Form.schema.parse as
  | "run" :: as => Form.run.parse as
  | "help" :: as => parseHelp as
  | a :: _ => if looksLikeOption a then parseLeadingOption a else .error (.unknownCommand a)

end MetricLayer.Cli
