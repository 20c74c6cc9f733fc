import MetricLayer.Json.Basic

/-!
# Writing JSON

Two forms of one value: `compact`, without any blank, and `indented`, with one item on a line and
two spaces for each level. Strings escape the quote, the backslash and the characters below
`U+0020`, and nothing else.
-/

namespace MetricLayer.Json

/-- The escape of a character below `U+0020` by its code. -/
def codeEscape (c : Char) : List Char :=
  ['\\', 'u', '0', '0', Nat.digitChar (c.toNat / 16), Nat.digitChar (c.toNat % 16)]

/-- The characters that stand for `c` inside a string. -/
def escapedChar (c : Char) : List Char :=
  if c = '"' then ['\\', '"']
  else if c = '\\' then ['\\', '\\']
  else if c = '\x08' then ['\\', 'b']
  else if c = '\x0c' then ['\\', 'f']
  else if c = '\n' then ['\\', 'n']
  else if c = '\r' then ['\\', 'r']
  else if c = '\t' then ['\\', 't']
  else if c.toNat < 0x20 then codeEscape c
  else [c]

/-- The characters of a string with its quotes. -/
def stringChars (s : String) : List Char :=
  '"' :: (s.toList.flatMap escapedChar ++ ['"'])

mutual

/-- The characters of a value, without any blank. -/
def compactChars : Json → List Char
  | .null => ['n', 'u', 'l', 'l']
  | .bool true => ['t', 'r', 'u', 'e']
  | .bool false => ['f', 'a', 'l', 's', 'e']
  | .number n => n.chars
  | .string s => stringChars s
  | .garbled => stringChars "\ufffd"
  | .array items => '[' :: (compactItems items ++ [']'])
  | .object entries => '\x7b' :: (compactEntries entries ++ ['\x7d'])

/-- The items of an array, separated by commas. -/
def compactItems : List Json → List Char
  | [] => []
  | [v] => compactChars v
  | v :: vs => compactChars v ++ ',' :: compactItems vs

/-- The entries of an object, separated by commas. -/
def compactEntries : List (String × Json) → List Char
  | [] => []
  | [(k, v)] => stringChars k ++ ':' :: compactChars v
  | (k, v) :: es => stringChars k ++ ':' :: (compactChars v ++ ',' :: compactEntries es)

end

/-- The text of a value, without any blank. -/
def compact (v : Json) : String :=
  String.ofList v.compactChars

/-- A line break and the indentation of a level. -/
def lineBreak (level : Nat) : List Char :=
  '\n' :: List.replicate (2 * level) ' '

mutual

/-- The characters of a value that stands on a level, one item on a line. -/
def indentedChars (level : Nat) : Json → List Char
  | .array (v :: vs) =>
    '[' :: (indentedItems (level + 1) (v :: vs) ++ (lineBreak level ++ [']']))
  | .object (e :: es) =>
    '\x7b' :: (indentedEntries (level + 1) (e :: es) ++ (lineBreak level ++ ['\x7d']))
  | .null => compactChars .null
  | .bool b => compactChars (.bool b)
  | .number n => n.chars
  | .string s => stringChars s
  | .garbled => compactChars .garbled
  | .array [] => compactChars (.array [])
  | .object [] => compactChars (.object [])

/-- The items of an array, each on its line, separated by commas. -/
def indentedItems (level : Nat) : List Json → List Char
  | [] => []
  | [v] => lineBreak level ++ indentedChars level v
  | v :: vs => lineBreak level ++ (indentedChars level v ++ ',' :: indentedItems level vs)

/-- The entries of an object, each on its line, separated by commas. -/
def indentedEntries (level : Nat) : List (String × Json) → List Char
  | [] => []
  | [(k, v)] => lineBreak level ++ (stringChars k ++ ':' :: ' ' :: indentedChars level v)
  | (k, v) :: es =>
    lineBreak level ++
      (stringChars k ++ ':' :: ' ' :: (indentedChars level v ++ ',' :: indentedEntries level es))

end

/-- The text of a value, one item on a line. -/
def indented (v : Json) : String :=
  String.ofList (v.indentedChars 0)

/-- The array of some texts. -/
def ofStrings (ss : List String) : Json :=
  .array (ss.map .string)

/-- A value, or `null`. -/
def ofOption : Option Json → Json
  | some v => v
  | none => .null

/-- A number of rows, or `null`. -/
def ofRows (n : Option UInt64) : Json :=
  ofOption (n.map fun n => .number (.ofNat n.toNat))

end MetricLayer.Json
