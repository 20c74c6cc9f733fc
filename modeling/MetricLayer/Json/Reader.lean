import MetricLayer.Json.Basic

/-!
# Reading JSON

`Json.parse?` reads the whole of a text as one JSON value under the strict grammar: no comments, no
trailing commas, no control characters in strings, no leading zeros. Blanks are the space, the tab
and the two line breaks.
-/

namespace MetricLayer.Json

/-- A character that may stand between tokens. -/
def isJsonBlank (c : Char) : Bool :=
  c == ' ' || c == '\t' || c == '\n' || c == '\r'

/-- The characters from the first one that is not blank. -/
def skipBlanks (cs : List Char) : List Char :=
  cs.dropWhile isJsonBlank

/-- The worth of a hexadecimal digit. -/
def hexDigit? (c : Char) : Option Nat :=
  let n := c.toNat
  if 48 ≤ n ∧ n ≤ 57 then some (n - 48)
  else if 97 ≤ n ∧ n ≤ 102 then some (n - 87)
  else if 65 ≤ n ∧ n ≤ 70 then some (n - 55)
  else none

/-- The number that four hexadecimal digits make. -/
def hexCode? (a b c d : Char) : Option Nat := do
  let a ← hexDigit? a
  let b ← hexDigit? b
  let c ← hexDigit? c
  let d ← hexDigit? d
  some (((a * 16 + b) * 16 + c) * 16 + d)

/-- A piece of a written string: a character, or a code given by an escape. -/
inductive StringPiece where
  /-- A character. -/
  | char (c : Char)
  /-- A code of sixteen bits. -/
  | code (n : Nat)

/-- The character that an escape of one letter stands for. -/
def letterEscape? (c : Char) : Option Char :=
  if c = '"' ∨ c = '\\' ∨ c = '/' then some c
  else if c = 'b' then some '\x08'
  else if c = 'f' then some '\x0c'
  else if c = 'n' then some '\n'
  else if c = 'r' then some '\r'
  else if c = 't' then some '\t'
  else none

/-- Reads the pieces of a string to its closing quote. -/
def readPieces : List Char → Option (List StringPiece × List Char)
  | [] => none
  | '"' :: rest => some ([], rest)
  | '\\' :: 'u' :: a :: b :: c :: d :: rest => do
    let n ← hexCode? a b c d
    let (ps, rest) ← readPieces rest
    some (.code n :: ps, rest)
  | '\\' :: e :: rest => do
    let c ← letterEscape? e
    let (ps, rest) ← readPieces rest
    some (.char c :: ps, rest)
  | c :: rest =>
    if c = '\\' ∨ c.toNat < 0x20 then none
    else (readPieces rest).map fun (ps, rest) => (.char c :: ps, rest)

/-- The code begins a surrogate pair. -/
def isHighSurrogate (n : Nat) : Bool :=
  0xD800 ≤ n && n < 0xDC00

/-- The code ends a surrogate pair. -/
def isLowSurrogate (n : Nat) : Bool :=
  0xDC00 ≤ n && n < 0xE000

/-- The characters that the pieces stand for; none if a code is half of a surrogate pair without
the other half. -/
def joinPieces : List StringPiece → Option (List Char)
  | [] => some []
  | .char c :: ps => (joinPieces ps).map (c :: ·)
  | [.code n] =>
    if isHighSurrogate n || isLowSurrogate n then none else some [Char.ofNat n]
  | .code n :: .char c :: ps =>
    if isHighSurrogate n || isLowSurrogate n then none
    else (joinPieces (.char c :: ps)).map (Char.ofNat n :: ·)
  | .code n :: .code m :: ps =>
    if isHighSurrogate n then
      if isLowSurrogate m then
        (joinPieces ps).map (Char.ofNat (0x10000 + (n - 0xD800) * 0x400 + (m - 0xDC00)) :: ·)
      else none
    else if isLowSurrogate n then none
    else (joinPieces (.code m :: ps)).map (Char.ofNat n :: ·)

/-- Reads a string after its opening quote; there is no text if a surrogate stands alone. -/
def readText (cs : List Char) : Option (Option String × List Char) :=
  (readPieces cs).map fun (ps, rest) => ((joinPieces ps).map String.ofList, rest)

/-- Reads digits: at least one. -/
def readDigits (cs : List Char) : Option (List Char × List Char) :=
  match cs.span Char.isDigit with
  | ([], _) => none
  | (ds, rest) => some (ds, rest)

/-- Reads the digits before the point: a zero, or digits that do not begin with zero. -/
def readWhole : List Char → Option (List Char × List Char)
  | '0' :: rest =>
    match rest with
    | c :: _ => if c.isDigit then none else some (['0'], rest)
    | [] => some (['0'], [])
  | cs => readDigits cs

/-- Reads a point and the digits after it, if there is a point. -/
def readFraction : List Char → Option (List Char × List Char)
  | '.' :: rest => readDigits rest
  | cs => some ([], cs)

/-- Reads the digits of an exponent after its letter, with an optional sign. -/
def readExponentDigits : List Char → Option (Int × List Char)
  | '-' :: rest =>
    (readDigits rest).map fun (ds, rest) => (-(Nat.ofDigitChars 10 ds 0 : Int), rest)
  | '+' :: rest => (readDigits rest).map fun (ds, rest) => ((Nat.ofDigitChars 10 ds 0 : Int), rest)
  | rest => (readDigits rest).map fun (ds, rest) => ((Nat.ofDigitChars 10 ds 0 : Int), rest)

/-- Reads an exponent, if there is one. -/
def readExponent : List Char → Option (Option Int × List Char)
  | 'e' :: rest => (readExponentDigits rest).map fun (e, rest) => (some e, rest)
  | 'E' :: rest => (readExponentDigits rest).map fun (e, rest) => (some e, rest)
  | cs => some (none, cs)

/-- Reads a minus sign, if there is one. -/
def readMinus : List Char → Bool × List Char
  | '-' :: rest => (true, rest)
  | cs => (false, cs)

/-- Reads a number. -/
def readNumeral (cs : List Char) : Option (Numeral × List Char) := do
  let (negative, cs) := readMinus cs
  let (whole, cs) ← readWhole cs
  let (fraction, cs) ← readFraction cs
  let (exponent, cs) ← readExponent cs
  some (⟨negative, whole, fraction, exponent⟩, cs)

/-- The object of some entries, each with its key if the key stands for a text. -/
def ofEntries (entries : List (Option String × Json)) : Json :=
  match entries.mapM fun (k, v) => k.map fun k => (k, v) with
  | some entries => .object entries
  | none => .garbled

mutual

/-- Reads a value after blanks; the number bounds the calls. -/
def readValue : Nat → List Char → Option (Json × List Char)
  | 0, _ => none
  | n + 1, cs =>
    match skipBlanks cs with
    | 'n' :: 'u' :: 'l' :: 'l' :: rest => some (.null, rest)
    | 't' :: 'r' :: 'u' :: 'e' :: rest => some (.bool true, rest)
    | 'f' :: 'a' :: 'l' :: 's' :: 'e' :: rest => some (.bool false, rest)
    | '"' :: rest =>
      (readText rest).map fun (s, rest) => (s.elim .garbled .string, rest)
    | '[' :: rest =>
      match skipBlanks rest with
      | ']' :: rest => some (.array [], rest)
      | _ => (readItems n rest).map fun (vs, rest) => (.array vs, rest)
    | '\x7b' :: rest =>
      match skipBlanks rest with
      | '\x7d' :: rest => some (.object [], rest)
      | _ => (readEntries n rest).map fun (es, rest) => (ofEntries es, rest)
    | cs => (readNumeral cs).map fun (x, rest) => (.number x, rest)

/-- Reads the items of an array to its closing bracket: at least one. -/
def readItems : Nat → List Char → Option (List Json × List Char)
  | 0, _ => none
  | n + 1, cs => do
    let (v, rest) ← readValue n cs
    match skipBlanks rest with
    | ']' :: rest => some ([v], rest)
    | ',' :: rest =>
      let (vs, rest) ← readItems n rest
      some (v :: vs, rest)
    | _ => none

/-- Reads the entries of an object to its closing brace: at least one. -/
def readEntries : Nat → List Char → Option (List (Option String × Json) × List Char)
  | 0, _ => none
  | n + 1, cs =>
    match skipBlanks cs with
    | '"' :: rest => do
      let (k, rest) ← readText rest
      match skipBlanks rest with
      | ':' :: rest =>
        let (v, rest) ← readValue n rest
        match skipBlanks rest with
        | '\x7d' :: rest => some ([(k, v)], rest)
        | ',' :: rest =>
          let (es, rest) ← readEntries n rest
          some ((k, v) :: es, rest)
        | _ => none
      | _ => none
    | _ => none

end

/-- Reads the characters as one value, with blanks around it. -/
def parseChars? (cs : List Char) : Option Json := do
  let (v, rest) ← readValue (2 * cs.length + 2) cs
  if (skipBlanks rest).isEmpty then some v else none

/-- Reads a text as one JSON value. -/
def parse? (s : String) : Option Json :=
  parseChars? s.toList

end MetricLayer.Json
