import MetricLayer.Toml.Document
import MetricLayer.Toml.Value

/-!
# Reading TOML

`Toml.parse?` reads the whole of a text as a TOML document. Values nest at most eighty deep, so the
reader of a value takes the reader of the values inside it as an argument.
-/

namespace MetricLayer.Toml

/-- A reader of characters: what it reads, and the characters left. -/
abbrev CharReader (α : Type) := List Char → Option (α × List Char)

/-- A character that may stand between tokens of a line. -/
def isLineBlank (c : Char) : Bool :=
  c == ' ' || c == '\t'

/-- The characters from the first one that is not blank. -/
def skipLineBlanks (cs : List Char) : List Char :=
  cs.dropWhile isLineBlank

/-- A control character that may stand nowhere. -/
def isForbidden (c : Char) : Bool :=
  (c.toNat < 0x20 && c != '\t') || c.toNat == 0x7F

/-- Reads a line break. -/
def readLineBreak : List Char → Option (List Char)
  | '\n' :: rest => some rest
  | '\r' :: '\n' :: rest => some rest
  | _ => none

/-- Skips a comment, if there is one, up to the line break. -/
def skipComment : List Char → Option (List Char)
  | '#' :: cs =>
    let rest := cs.dropWhile fun c => !isForbidden c
    match rest with
    | [] => some []
    | '\n' :: _ => some rest
    | '\r' :: '\n' :: _ => some rest
    | _ => none
  | cs => some cs

/-- Skips what may follow a statement on its line, and the line break. -/
def endLine (cs : List Char) : Option (List Char) := do
  let rest ← skipComment (skipLineBlanks cs)
  if rest.isEmpty then some [] else readLineBreak rest

/-- Skips blanks, line breaks and comments, in at most `n` steps. -/
def skipGapUpTo : Nat → List Char → Option (List Char)
  | 0, cs => some cs
  | n + 1, cs =>
    match cs with
    | [] => some []
    | c :: rest =>
      if isLineBlank c then skipGapUpTo n rest
      else if c = '#' then (skipComment cs).bind (skipGapUpTo n)
      else
        match readLineBreak cs with
        | some rest => skipGapUpTo n rest
        | none => some cs

/-- Skips blanks, line breaks and comments. -/
def skipGap (cs : List Char) : Option (List Char) :=
  skipGapUpTo cs.length cs

/-- The character with a code, if the code is that of a character. -/
def charOfCode? (n : Nat) : Option Char :=
  if h : n.isValidChar then some (Char.ofNatAux n h) else none

/-- The character that hexadecimal digits name. -/
def hexChar? (ds : List Char) : Option Char :=
  if ds.all isHexDigit then charOfCode? (runValue 16 ds) else none

/-- Reads an escape after its backslash. -/
def readEscape : CharReader Char
  | 'b' :: rest => some ('\x08', rest)
  | 't' :: rest => some ('\t', rest)
  | 'n' :: rest => some ('\n', rest)
  | 'f' :: rest => some ('\x0c', rest)
  | 'r' :: rest => some ('\r', rest)
  | 'e' :: rest => some ('\x1b', rest)
  | '"' :: rest => some ('"', rest)
  | '\\' :: rest => some ('\\', rest)
  | 'x' :: a :: b :: rest => (hexChar? [a, b]).map fun c => (c, rest)
  | 'u' :: a :: b :: c :: d :: rest => (hexChar? [a, b, c, d]).map fun c => (c, rest)
  | 'U' :: a :: b :: c :: d :: e :: f :: g :: h :: rest =>
    (hexChar? [a, b, c, d, e, f, g, h]).map fun c => (c, rest)
  | _ => none

/-- Reads a string with escapes after its opening quote, in at most `n` steps. -/
def readBasicUpTo : Nat → CharReader (List Char)
  | 0, _ => none
  | n + 1, cs =>
    match cs with
    | [] => none
    | '"' :: rest => some ([], rest)
    | '\\' :: rest => do
      let (c, rest) ← readEscape rest
      let (s, rest) ← readBasicUpTo n rest
      some (c :: s, rest)
    | c :: rest =>
      if isForbidden c then none else (readBasicUpTo n rest).map fun (s, rest) => (c :: s, rest)

/-- Reads a string without escapes after its opening quote. -/
def readLiteral (cs : List Char) : Option (List Char × List Char) :=
  let (body, rest) := cs.span fun c => c != '\'' && !isForbidden c
  match rest with
  | '\'' :: rest => some (body, rest)
  | _ => none

/-- Drops the first line break of a text of several lines. -/
def dropFirstBreak (cs : List Char) : List Char :=
  (readLineBreak cs).getD cs

/-- Counts the quotes that characters begin with, up to five. -/
def countQuotes (q : Char) (cs : List Char) : Nat :=
  ((cs.take 5).takeWhile (· == q)).length

/-- Skips blanks and line breaks after a backslash at the end of a line; there has to be a line
break. -/
def skipContinuation (cs : List Char) : Option (List Char) :=
  let rest := cs.dropWhile fun c => isLineBlank c
  match readLineBreak rest with
  | some rest => some (rest.dropWhile fun c => isLineBlank c || c == '\n' || c == '\r')
  | none => none

/-- Reads a text of several lines after its opening quotes, in at most `n` steps; with escapes if
the quote is a double one. Up to two quotes may stand before the closing ones. -/
def readLinesUpTo (q : Char) : Nat → CharReader (List Char)
  | 0, _ => none
  | n + 1, cs =>
    match cs with
    | [] => none
    | c :: rest =>
      if c = q then
        let k := countQuotes q cs
        if 3 ≤ k then some (List.replicate (k - 3) q, cs.drop k)
        else (readLinesUpTo q n rest).map fun (s, rest) => (c :: s, rest)
      else if c = '\\' ∧ q = '"' then
        match skipContinuation rest with
        | some rest => readLinesUpTo q n rest
        | none => do
          let (c, rest) ← readEscape rest
          let (s, rest) ← readLinesUpTo q n rest
          some (c :: s, rest)
      else
        match readLineBreak cs with
        | some rest => (readLinesUpTo q n rest).map fun (s, rest) => ('\n' :: s, rest)
        | none =>
          if isForbidden c then none
          else (readLinesUpTo q n rest).map fun (s, rest) => (c :: s, rest)

/-- Reads a string of any of the four forms. -/
def readString : CharReader String
  | '"' :: '"' :: '"' :: rest =>
    (readLinesUpTo '"' (rest.length + 1) (dropFirstBreak rest)).map fun (s, rest) =>
      (String.ofList s, rest)
  | '\'' :: '\'' :: '\'' :: rest =>
    (readLinesUpTo '\'' (rest.length + 1) (dropFirstBreak rest)).map fun (s, rest) =>
      (String.ofList s, rest)
  | '"' :: rest =>
    (readBasicUpTo (rest.length + 1) rest).map fun (s, rest) => (String.ofList s, rest)
  | '\'' :: rest => (readLiteral rest).map fun (s, rest) => (String.ofList s, rest)
  | _ => none

/-- A character of a key without quotes. -/
def isBareKeyChar (c : Char) : Bool :=
  c.isAlphanum || c == '_' || c == '-'

/-- Reads one part of a key. -/
def readKeyPart (cs : List Char) : Option (String × List Char) :=
  match cs with
  | '"' :: rest =>
    (readBasicUpTo (rest.length + 1) rest).map fun (s, rest) => (String.ofList s, rest)
  | '\'' :: rest => (readLiteral rest).map fun (s, rest) => (String.ofList s, rest)
  | cs =>
    match cs.span isBareKeyChar with
    | ([], _) => none
    | (part, rest) => some (String.ofList part, rest)

/-- Reads a dotted key of at most `n` parts, with the blanks around it. -/
def readKeyUpTo : Nat → CharReader (List String)
  | 0, _ => none
  | n + 1, cs => do
    let (part, rest) ← readKeyPart (skipLineBlanks cs)
    match skipLineBlanks rest with
    | '.' :: rest => (readKeyUpTo n rest).map fun (parts, rest) => (part :: parts, rest)
    | rest => some ([part], rest)

/-- Reads a dotted key with the blanks around it. -/
def readKey (cs : List Char) : Option (List String × List Char) :=
  readKeyUpTo (cs.length + 1) cs

/-- A character of a value without quotes. -/
def isScalarChar (c : Char) : Bool :=
  c.isAlphanum || c == '_' || c == '-' || c == '+' || c == '.' || c == ':'

/-- Reads a value without quotes; a date may be followed by a space and a time. -/
def readScalar (cs : List Char) : Option (Toml × List Char) :=
  let (run, rest) := cs.span isScalarChar
  let (run, rest) :=
    match isDate run, rest with
    | true, ' ' :: c :: rest' =>
      if c.isDigit then
        let (time, rest) := (c :: rest').span isScalarChar
        (run ++ ' ' :: time, rest)
      else (run, rest)
    | _, _ => (run, rest)
  (scalar? run).map fun v => (v, rest)

/-- Reads the items of an array to its closing bracket, at most `n`. -/
def readItemsUpTo (read : CharReader Toml) : Nat → CharReader (List Toml)
  | 0, _ => none
  | n + 1, cs => do
    let cs ← skipGap cs
    match cs with
    | ']' :: rest => some ([], rest)
    | _ =>
      let (v, rest) ← read cs
      let rest ← skipGap rest
      match rest with
      | ',' :: rest => (readItemsUpTo read n rest).map fun (vs, rest) => (v :: vs, rest)
      | ']' :: rest => some ([v], rest)
      | _ => none

/-- Reads a key, an equals sign and a value. -/
def readAssignment (read : CharReader Toml) (cs : List Char) :
    Option ((List String × Toml) × List Char) := do
  let (key, rest) ← readKey cs
  match rest with
  | '=' :: rest =>
    let (v, rest) ← read (skipLineBlanks rest)
    some ((key, v), rest)
  | _ => none

/-- Reads the assignments of an inline table to its closing brace, at most `n`. -/
def readAssignmentsUpTo (read : CharReader Toml) : Nat → CharReader (List (List String × Toml))
  | 0, _ => none
  | n + 1, cs => do
    let cs ← skipGap cs
    match cs with
    | '\x7d' :: rest => some ([], rest)
    | _ =>
      let (a, rest) ← readAssignment read cs
      let rest ← skipGap rest
      match rest with
      | ',' :: rest => (readAssignmentsUpTo read n rest).map fun (as, rest) => (a :: as, rest)
      | '\x7d' :: rest => some ([a], rest)
      | _ => none

/-- Reads a value, its inner values by `read`. -/
def readValueBy (read : CharReader Toml) : CharReader Toml
  | '"' :: cs => (readString ('"' :: cs)).map fun (s, rest) => (.string s, rest)
  | '\'' :: cs => (readString ('\'' :: cs)).map fun (s, rest) => (.string s, rest)
  | '[' :: cs =>
    (readItemsUpTo read (cs.length + 1) cs).map fun (vs, rest) => (.array vs, rest)
  | '\x7b' :: cs => do
    let (as, rest) ← readAssignmentsUpTo read (cs.length + 1) cs
    let v ← ofAssignments? as
    some (v, rest)
  | cs => readScalar cs

/-- Reads a value whose inner values nest at most `depth` deep. -/
def readValue : (depth : Nat) → CharReader Toml
  | 0, _ => none
  | depth + 1, cs => readValueBy (readValue depth) cs

/-- How deep values may nest. -/
def depthLimit : Nat := 80

/-- Reads the key of a header and its closing bracket. -/
def readHeaderKey (cs : List Char) : Option ((List String × String) × List Char) := do
  let (key, rest) ← readKey cs
  let last ← key.getLast?
  match rest with
  | ']' :: rest => some ((key.dropLast, last), rest)
  | _ => none

/-- Reads a statement that begins a line. -/
def readStatement : CharReader Statement
  | '[' :: '[' :: cs => do
    let ((path, key), rest) ← readHeaderKey cs
    match rest with
    | ']' :: rest => some (.arrayHeader path key, rest)
    | _ => none
  | '[' :: cs => (readHeaderKey cs).map fun ((path, key), rest) => (.tableHeader path key, rest)
  | cs =>
    (readAssignment (readValue depthLimit) cs).map fun ((key, v), rest) => (.assign key v, rest)

/-- Reads the statements of a document, at most `n`. -/
def readStatementsUpTo : Nat → List Char → Option (List Statement)
  | 0, _ => none
  | n + 1, cs => do
    let cs ← skipGap cs
    if cs.isEmpty then some []
    else
      let (s, rest) ← readStatement cs
      let rest ← endLine rest
      let ss ← readStatementsUpTo n rest
      some (s :: ss)

/-- Reads characters as a document. -/
def parseChars? (cs : List Char) : Option Toml := do
  let cs := if cs.head? = some '\ufeff' then cs.tail else cs
  let statements ← readStatementsUpTo (cs.length + 1) cs
  ofStatements? statements

/-- Reads a text as a TOML document. -/
def parse? (s : String) : Option Toml :=
  parseChars? s.toList

end MetricLayer.Toml
