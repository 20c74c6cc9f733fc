import MetricLayer.Text.Letter
import MetricLayer.Text.Quoted
import MetricLayer.Text.Uppercase

/-!
# Lexical elements of SQL text

SQL text cut into words, literals, marks and operators. Blanks and comments separate elements and
are dropped: a line comment runs from `--` to the end of its line, and block comments nest.
`Lexeme.scan?` has no answer for text with a string, a quoted name or a block comment that is not
closed.
-/

namespace MetricLayer

/-- A lexical element of SQL text. -/
inductive Lexeme where
  /-- A keyword or a name without quotes. -/
  | word (text : String)
  /-- A name between quotes. -/
  | quotedName (quote : Char) (text : String)
  /-- A string literal; a literal of a special kind begins with the mark of the kind. -/
  | string (kind : String) (text : String)
  /-- A number. -/
  | number (text : String)
  /-- A placeholder of a parameter. -/
  | placeholder (text : String)
  | lparen
  | rparen
  | comma
  | period
  | semicolon
  /-- An operator, or any other character. -/
  | operator (text : String)
  deriving DecidableEq, Repr

namespace Lexeme

/-- The text of an element, as it is named in a message. -/
def spelling : Lexeme → String
  | word text => text
  | quotedName quote text => String.singleton quote ++ text ++ String.singleton quote
  | string kind text => kind ++ "'" ++ text ++ "'"
  | number text => text
  | placeholder text => text
  | lparen => "("
  | rparen => ")"
  | comma => ","
  | period => "."
  | semicolon => ";"
  | operator text => text

/-- The element is the keyword `k`, given in upper case: a word without quotes in any case. -/
def isKeyword (k : String) : Lexeme → Bool
  | word text => Text.uppercase text == k
  | _ => false

/-- A character that a word can begin with. -/
def isWordStart (c : Char) : Bool :=
  Text.isAlphabetic c || c == '_' || c == '#' || c == '@'

/-- A character that a word can go on with. -/
def isWordPart (c : Char) : Bool :=
  Text.isAlphabetic c || c.isDigit || c == '@' || c == '$' || c == '#' || c == '_'

/-- A hexadecimal digit. -/
def isHexDigit (c : Char) : Bool :=
  c.isDigit || ('a'.toNat ≤ c.toLower.toNat && c.toLower.toNat ≤ 'f'.toNat)

/-- The rest after a line comment: the line break and what follows it. -/
def skipLine (cs : List Char) : List Char :=
  cs.dropWhile (· != '\n')

/-- The rest after a block comment that is open `depth` times more, where `previous` stands before
the characters; none if it is not closed. -/
def skipBlock? (depth : Nat) (previous : Char) : List Char → Option (List Char)
  | [] => none
  | c :: cs =>
    if previous = '/' ∧ c = '*' then skipBlock? (depth + 1) c cs
    else if previous = '*' ∧ c = '/' then
      match depth with
      | 0 => some cs
      | d + 1 => skipBlock? d c cs
    else skipBlock? depth c cs

/-- Reads a literal with backslash escapes after its opening quote. -/
def readEscapedBody : List Char → Option (List Char × List Char)
  | [] => none
  | '\\' :: c :: cs => (readEscapedBody cs).map fun (body, rest) => (c :: body, rest)
  | '\'' :: '\'' :: cs => (readEscapedBody cs).map fun (body, rest) => ('\'' :: body, rest)
  | c :: cs =>
    if c = '\'' then some ([], cs)
    else (readEscapedBody cs).map fun (body, rest) => (c :: body, rest)

/-- Splits off an exponent: the letter, an optional sign, and at least one digit. -/
def splitExponent (cs : List Char) : List Char × List Char :=
  match cs with
  | e :: rest =>
    if e = 'e' ∨ e = 'E' then
      let (sign, rest) := match rest with
        | s :: rest' => if s = '+' ∨ s = '-' then ([s], rest') else ([], rest)
        | [] => ([], [])
      let (ds, rest) := rest.span Char.isDigit
      if ds.isEmpty then ([], cs) else (e :: (sign ++ ds), rest)
    else ([], cs)
  | [] => ([], [])

/-- Splits off a number: digits with at most one point, an exponent, and the letter `L`. -/
def splitNumber (cs : List Char) : List Char × List Char :=
  let (whole, rest) := cs.span Char.isDigit
  let (point, rest) := match rest with
    | '.' :: rest' => (['.'], rest')
    | _ => ([], rest)
  let (fraction, rest) := rest.span Char.isDigit
  let (exponent, rest) := splitExponent rest
  let (long, rest) := match rest with
    | 'L' :: rest' => (['L'], rest')
    | _ => ([], rest)
  (whole ++ (point ++ (fraction ++ (exponent ++ long))), rest)

/-- The operators of several characters, a longer one before its beginnings. -/
def operators : List (List Char) :=
  ["<=>", "->>", "||", "<=", "<>", "!=", ">=", "==", "<<", ">>", "::", ":=", "=>", "->", "//",
    "&&"].map String.toList

/-- Splits off an operator; every other character is an operator of its own. -/
def splitOperator (c : Char) (cs : List Char) : List Char × List Char :=
  match operators.find? fun o => o.isPrefixOf (c :: cs) with
  | some o => (o, (c :: cs).drop o.length)
  | none => ([c], cs)

/-- A word that begins with `c`. -/
def readWord (c : Char) (cs : List Char) : Lexeme × List Char :=
  let (part, rest) := cs.span isWordPart
  (.word (String.ofList (c :: part)), rest)

/-- A literal whose kind is marked by the letter `c` before the quote, or a word. -/
def readMarked (c : Char) (cs : List Char) : Option (Lexeme × List Char) :=
  match cs with
  | '\'' :: rest =>
    let body :=
      if c.toLower = 'b' ∨ c.toLower = 'r' then Text.readQuotedBody '\'' rest
      else readEscapedBody rest
    body.map fun (body, rest) => (.string (String.singleton c) (String.ofList body), rest)
  | _ => some (readWord c cs)

/-- Reads a dollar and what belongs to it: the number or the name of a parameter. -/
def readDollar (cs : List Char) : Lexeme × List Char :=
  let (part, rest) := cs.span fun c => Text.isAlphanumeric c || c == '_'
  (.placeholder (String.ofList ('$' :: part)), rest)

/-- Reads the element that begins with `c`, or skips a blank or a comment. -/
def readNext (c : Char) (cs : List Char) : Option (Option Lexeme × List Char) :=
  if c = '-' ∧ cs.head? = some '-' then some (none, skipLine cs)
  else if c = '/' ∧ cs.head? = some '*' then (skipBlock? 0 ' ' cs.tail).map fun rest => (none, rest)
  else if c = '\'' then
    (Text.readQuotedBody '\'' cs).map fun (body, rest) =>
      (some (.string "" (String.ofList body)), rest)
  else if c = '"' ∨ c.toNat = 0x60 then
    (Text.readQuotedBody c cs).map fun (body, rest) =>
      (some (.quotedName c (String.ofList body)), rest)
  else if c = '0' ∧ cs.head? = some 'x' then
    let (ds, rest) := cs.tail.span isHexDigit
    some (some (.number (String.ofList ('0' :: 'x' :: ds))), rest)
  else if c.isDigit ∨ (c = '.' ∧ cs.head?.any Char.isDigit) then
    let (text, rest) := splitNumber (c :: cs)
    some (some (.number (String.ofList text)), rest)
  else if c = '.' then some (some .period, cs)
  else if c = '(' then some (some .lparen, cs)
  else if c = ')' then some (some .rparen, cs)
  else if c = ',' then some (some .comma, cs)
  else if c = ';' then some (some .semicolon, cs)
  else if c = '$' then
    let (l, rest) := readDollar cs
    some (some l, rest)
  else if c = '?' then
    let (ds, rest) := cs.span Char.isDigit
    some (some (.placeholder (String.ofList ('?' :: ds))), rest)
  else if c.toLower ∈ ['b', 'r', 'n', 'e', 'x'] then
    (readMarked c cs).map fun (l, rest) => (some l, rest)
  else if isWordStart c then
    let (l, rest) := readWord c cs
    some (some l, rest)
  else if Text.isBlank c then some (none, cs)
  else
    let (text, rest) := splitOperator c cs
    some (some (.operator (String.ofList text)), rest)

/-- Reads elements to the end of the text; the number bounds the steps. -/
def scanFrom : Nat → List Char → Option (List Lexeme)
  | _, [] => some []
  | 0, _ :: _ => none
  | n + 1, c :: cs => do
    let (l, rest) ← readNext c cs
    let ls ← scanFrom n rest
    some (match l with
      | some l => l :: ls
      | none => ls)

/-- The lexical elements of characters. -/
def scanChars? (cs : List Char) : Option (List Lexeme) :=
  scanFrom cs.length cs

/-- The lexical elements of a text. -/
def scan? (s : String) : Option (List Lexeme) :=
  scanChars? s.toList

end Lexeme

end MetricLayer
