import MetricLayer.Text.Letter

/-!
# Texts of settings

Settings write a span of time as a whole number and its unit, and the path of the database as a
template that refers to variables. What can be wrong with settings is `SettingsError`.
-/

namespace MetricLayer

/-- What is wrong with the settings. -/
inductive SettingsError where
  /-- The file that the settings are to come from does not exist. -/
  | fileNotFound (path : String)
  /-- The file cannot be read. -/
  | unreadable (reason : String)
  /-- The file does not hold settings. -/
  | malformed
  /-- A text refers to a variable that is not set. -/
  | missingVariable (name : String)
  /-- The text is not that of a duration. -/
  | invalidDuration (text : String)
  /-- The settings name no database. -/
  | noDatabase
  deriving DecidableEq, Repr

/-- The message of an error. -/
def SettingsError.message : SettingsError → String
  | fileNotFound path => "Config file not found: " ++ path
  | unreadable reason => "Failed to read config file: " ++ reason
  | malformed => "Failed to parse config file: <toml>"
  | missingVariable name => "Missing environment variable: " ++ name
  | invalidDuration text => "Invalid duration format: " ++ text
  | noDatabase => "No database configured"

/-! ## Durations

A span of time is written as in `250ms`, `30s`, `5m` or `1h`. A number alone counts seconds. Blanks
around the text do not matter, and none may stand inside.
-/

/-- A span of time. -/
structure Duration where
  /-- The whole seconds. -/
  seconds : Nat
  /-- The nanoseconds beyond the whole seconds. -/
  nanoseconds : Nat
  /-- The nanoseconds do not make a second. -/
  nanoseconds_lt : nanoseconds < 1000000000
  deriving DecidableEq, Repr

namespace Duration

/-- Some milliseconds. -/
def ofMilliseconds (n : Nat) : Duration :=
  ⟨n / 1000, n % 1000 * 1000000, by have := Nat.mod_lt n (show 0 < 1000 by decide); omega⟩

/-- Some seconds. -/
def ofSeconds (n : Nat) : Duration :=
  ⟨n, 0, by decide⟩

/-- The duration of a number of units; the unit is the text after the number. -/
def ofUnits? (n : Nat) : (unit : List Char) → Option Duration
  | ['m', 's'] => some (ofMilliseconds n)
  | [] => some (ofSeconds n)
  | ['s'] => some (ofSeconds n)
  | ['m'] => some (ofSeconds (60 * n))
  | ['h'] => some (ofSeconds (3600 * n))
  | _ => none

/-- The duration that some characters write. The number has to be below `2^64`. -/
def ofChars? (cs : List Char) : Option Duration :=
  let digits := cs.takeWhile Char.isDigit
  let n := Nat.ofDigitChars 10 digits 0
  if digits.isEmpty || UInt64.size ≤ n then none
  else ofUnits? n (cs.dropWhile Char.isDigit)

/-- The duration of a text, or the error that names the text without the blanks around it. -/
def parse (s : String) : Except SettingsError Duration :=
  match ofChars? (Text.trimChars s.toList) with
  | some d => .ok d
  | none => .error (.invalidDuration (Text.trim s))

example : (ofChars? ['2', '5', '0', 'm', 's']).map (·.nanoseconds) = some 250000000 := by decide

example : ofChars? ['5', 'd'] = none ∧ ofChars? ['+', '5'] = none ∧ ofChars? [] = none := by decide

end Duration

/-! ## Templates

A text that refers to variables, as `${name}` or as `$name`. `Template.expand` puts the value of a
variable in the place of each reference, once: a value is not read as a template again.
-/

namespace Template

/-- A piece of a template. -/
inductive Piece where
  /-- A character that stands for itself. -/
  | char (c : Char)
  /-- A reference to the variable of a name. -/
  | reference (name : String)
  deriving DecidableEq, Repr

/-- A character that can stand in a name without braces. -/
def isNameChar (c : Char) : Bool :=
  Text.isAlphanumeric c || c == '_'

/-- The characters behind the first closing brace. -/
def afterBrace (cs : List Char) : List Char :=
  (cs.dropWhile (· != '\x7d')).drop 1

/-- No character is won behind a brace. -/
theorem length_afterBrace_le (cs : List Char) : (afterBrace cs).length ≤ cs.length := by
  have := (List.dropWhile_suffix (l := cs) (· != '\x7d')).length_le
  simp only [afterBrace, List.length_drop]
  omega

/-- The pieces of a template. A name in braces reaches to the closing brace, or to the end without
one; any other name is as long as it can be, and a dollar sign without a name stands for itself. -/
def pieces : List Char → List Piece
  | [] => []
  | '$' :: '\x7b' :: cs =>
    .reference (String.ofList (cs.takeWhile (· != '\x7d'))) :: pieces (afterBrace cs)
  | '$' :: cs =>
    if (cs.takeWhile isNameChar).isEmpty then .char '$' :: pieces cs
    else
      .reference (String.ofList (cs.takeWhile isNameChar)) :: pieces (cs.dropWhile isNameChar)
  | c :: cs => .char c :: pieces cs
termination_by cs => cs.length
decreasing_by
  · have := length_afterBrace_le cs
    simp only [List.length_cons]
    omega
  · simp
  · have := (List.dropWhile_suffix (l := cs) isNameChar).length_le
    simp only [List.length_cons]
    omega
  · simp

/-- What a piece stands for, given the values of the variables. -/
def Piece.value (environment : String → Option String) : Piece → Except SettingsError String
  | char c => .ok (String.singleton c)
  | reference name =>
    match environment name with
    | some v => .ok v
    | none => .error (.missingVariable name)

/-- What some pieces stand for; the first variable without a value is the error. -/
def valueOf (environment : String → Option String) : List Piece → Except SettingsError String
  | [] => .ok ""
  | p :: ps => do
    let v ← p.value environment
    let vs ← valueOf environment ps
    .ok (v ++ vs)

/-- The text of a template with a value in the place of each reference. -/
def expand (environment : String → Option String) (s : String) : Except SettingsError String :=
  valueOf environment (pieces s.toList)

/-- The names of the variables that a template refers to, in order. -/
def names (s : String) : List String :=
  (pieces s.toList).filterMap fun
    | .char _ => none
    | .reference name => some name

end Template

end MetricLayer
