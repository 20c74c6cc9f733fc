import MetricLayer.Sql.Term

/-!
# Reading terms

`Term.parse` reads a text as one SQL expression by the precedence of its operators: `OR` binds
loosest, then `AND`, `NOT`, `IS`, `LIKE`, the comparisons with `IN` and `BETWEEN`, the bitwise
operators, sums, and products with `||`. Operands nest at most fifty deep, so the readers of one
level take the reader of the level below as an argument.

A word that begins a special form, such as `CASE` or `NOT`, is read as a name when the form cannot
be read.
-/

namespace MetricLayer

/-- A reader of a part of some elements: what it reads, and the elements left. -/
abbrev TermReader (α : Type) := List Lexeme → Option (α × List Lexeme)

/-- A reader of an operand whose operators bind tighter than a level. -/
abbrev OperandReader := Nat → TermReader Term

namespace Term

/-- How tight `OR` binds. -/
def levelOr : Nat := 5

/-- How tight `AND` binds. -/
def levelAnd : Nat := 10

/-- How tight `NOT` binds. -/
def levelNot : Nat := 15

/-- How tight an access to a field of JSON binds. -/
def levelArrow : Nat := 16

/-- How tight a test with `IS` binds. -/
def levelIs : Nat := 17

/-- How tight a match with a pattern binds. -/
def levelLike : Nat := 19

/-- How tight comparisons, `IN` and `BETWEEN` bind. -/
def levelComparison : Nat := 20

/-- How tight sums bind. -/
def levelSum : Nat := 30

/-- How tight products and `||` bind. -/
def levelProduct : Nat := 40

/-- How tight `AT TIME ZONE` binds. -/
def levelZone : Nat := 41

/-- How tight conversions with `::` and other suffixes bind. -/
def levelSuffix : Nat := 50

/-- A level that no operator reaches, so that an operand without operators is read. -/
def levelPrimary : Nat := 100

/-- The elements after the keyword `k`. -/
def afterKeyword? (k : String) : List Lexeme → Option (List Lexeme)
  | l :: ls => if l.isKeyword k then some ls else none
  | [] => none

/-- The elements after some keywords in a row. -/
def afterKeywords? : List String → List Lexeme → Option (List Lexeme)
  | [], ls => some ls
  | k :: ks, ls => (afterKeyword? k ls).bind (afterKeywords? ks)

/-- Drops the keyword `k` if it comes first, and says whether it did. -/
def takeKeyword (k : String) (ls : List Lexeme) : Bool × List Lexeme :=
  match afterKeyword? k ls with
  | some rest => (true, rest)
  | none => (false, ls)

/-- Reads what `inner` reads, between parentheses. -/
def readParenthesized {α : Type} (inner : TermReader α) : TermReader α
  | .lparen :: ls =>
    match inner ls with
    | some (x, .rparen :: rest) => some (x, rest)
    | _ => none
  | _ => none

/-- Reads items with commas between them: at least one, and at most `n`. -/
def readListUpTo {α : Type} (item : TermReader α) : Nat → TermReader (List α)
  | 0, _ => none
  | n + 1, ls =>
    match item ls with
    | some (x, .comma :: rest) =>
      (readListUpTo item n rest).map fun (xs, rest) => (x :: xs, rest)
    | some (x, rest) => some ([x], rest)
    | none => none

/-- Reads items with commas between them: at least one. -/
def readList {α : Type} (item : TermReader α) : TermReader (List α) := fun ls =>
  readListUpTo item (ls.length + 1) ls

/-- An element that can be a part of a name after a period. -/
def isNamePart : Lexeme → Bool
  | .word _ => true
  | .quotedName _ _ => true
  | .string "" _ => true
  | _ => false

/-- Reads parts of a name, each after a period. -/
def readNameTail : TermReader (List Lexeme)
  | .period :: l :: rest =>
    if isNamePart l then (readNameTail rest).map fun (ls, rest) => (l :: ls, rest) else none
  | [.period] => none
  | ls => some ([], ls)

/-- The types that are written without a size. -/
def plainTypes : List String :=
  ["BOOLEAN", "BOOL", "REAL", "UUID", "DATE", "DATE32", "JSON", "JSONB", "REGCLASS", "TEXT",
    "BYTEA", "FLOAT4", "FLOAT8"]

/-- The types that are written with at most one size. -/
def sizedTypes : List String :=
  ["FLOAT", "TINYINT", "SMALLINT", "MEDIUMINT", "INT", "INTEGER", "BIGINT", "INT2", "INT4", "INT8",
    "VARCHAR", "NVARCHAR", "CHAR", "CHARACTER", "CLOB", "BINARY", "VARBINARY", "BLOB", "STRING",
    "BYTES", "DATETIME", "TIMESTAMPTZ", "TIMETZ"]

/-- The types that are written with a size, and places after the point, or neither. -/
def scaledTypes : List String :=
  ["NUMERIC", "DECIMAL", "DEC", "BIGNUMERIC", "BIGDECIMAL"]

/-- The types that are written with at most one size and a word on time zones. -/
def zonedTypes : List String := ["TIMESTAMP", "TIME"]

/-- The word is the name of a type known to SQL. -/
def isKnownType (k : String) : Bool :=
  k ∈ plainTypes || k ∈ sizedTypes || k ∈ scaledTypes || k ∈ zonedTypes || k == "DOUBLE"

/-- Reads at most one number between parentheses. -/
def readSize : TermReader (List Lexeme)
  | .lparen :: .number n :: .rparen :: rest => some ([.lparen, .number n, .rparen], rest)
  | .lparen :: _ => none
  | ls => some ([], ls)

/-- Reads at most two numbers between parentheses. -/
def readScale : TermReader (List Lexeme)
  | .lparen :: .number n :: .comma :: .number m :: .rparen :: rest =>
    some ([.lparen, .number n, .comma, .number m, .rparen], rest)
  | ls => readSize ls

/-- Reads `WITH TIME ZONE` or `WITHOUT TIME ZONE`, if it is there. -/
def readZone (ls : List Lexeme) : List Lexeme × List Lexeme :=
  match afterKeywords? ["WITH", "TIME", "ZONE"] ls, afterKeywords? ["WITHOUT", "TIME", "ZONE"] ls with
  | some rest, _ => (ls.take 3, rest)
  | none, some rest => (ls.take 3, rest)
  | none, none => ([], ls)

/-- Reads one keyword, if it is there. -/
def readOptionalWord (k : String) : List Lexeme → List Lexeme × List Lexeme
  | l :: rest => if l.isKeyword k then ([l], rest) else ([], l :: rest)
  | [] => ([], [])

/-- Reads the elements of a modifier to the closing parenthesis. -/
def readModifiers : TermReader (List Lexeme)
  | .rparen :: rest => some ([.rparen], rest)
  | .comma :: rest => (readModifiers rest).map fun (ls, rest) => (.comma :: ls, rest)
  | .word w :: rest => (readModifiers rest).map fun (ls, rest) => (.word w :: ls, rest)
  | .number n :: rest => (readModifiers rest).map fun (ls, rest) => (.number n :: ls, rest)
  | .string k s :: rest => (readModifiers rest).map fun (ls, rest) => (.string k s :: ls, rest)
  | _ => none

/-- Reads the brackets of array types, if there are any. -/
def readBrackets : List Lexeme → List Lexeme × List Lexeme
  | .operator "[" :: .operator "]" :: rest =>
    let (ls, rest) := readBrackets rest
    (.operator "[" :: .operator "]" :: ls, rest)
  | .operator "[" :: .number n :: .operator "]" :: rest =>
    let (ls, rest) := readBrackets rest
    (.operator "[" :: .number n :: .operator "]" :: ls, rest)
  | ls => ([], ls)

/-- Reads a type that is known to SQL and begins with the word `w`. -/
def readKnownType (w : String) (ls : List Lexeme) : Option (List Lexeme × List Lexeme) := do
  let k := Text.uppercase w
  let (extra, ls) := if k == "DOUBLE" then readOptionalWord "PRECISION" ls
    else if k == "CHARACTER" || k == "CHAR" then readOptionalWord "VARYING" ls
    else ([], ls)
  let (size, ls) ←
    if k ∈ scaledTypes then readScale ls
    else if k ∈ sizedTypes || k ∈ zonedTypes then readSize ls
    else some ([], ls)
  let (tail, ls) := if k ∈ zonedTypes then readZone ls
    else if k ∈ sizedTypes then readOptionalWord "UNSIGNED" ls
    else ([], ls)
  let (brackets, ls) := readBrackets ls
  some (.word w :: (extra ++ (size ++ (tail ++ brackets))), ls)

/-- Reads a type of another name, with modifiers. -/
def readOtherType (l : Lexeme) (ls : List Lexeme) : Option (List Lexeme × List Lexeme) := do
  let (parts, ls) ← readNameTail ls
  let (modifiers, ls) ← match ls with
    | .lparen :: rest => (readModifiers rest).map fun (ms, rest) => (.lparen :: ms, rest)
    | ls => some ([], ls)
  let (brackets, ls) := readBrackets ls
  some (l :: (parts ++ (modifiers ++ brackets)), ls)

/-- Reads the name of a type. -/
def readType : TermReader (List Lexeme)
  | .word w :: ls =>
    if isKnownType (Text.uppercase w) then readKnownType w ls else readOtherType (.word w) ls
  | .quotedName q s :: ls => readOtherType (.quotedName q s) ls
  | _ => none

/-- Reads a string literal after the name of a known type. -/
def readTyped : TermReader Term
  | .word w :: ls =>
    if isKnownType (Text.uppercase w) then
      match readKnownType w ls with
      | some (type, .string kind s :: rest) =>
        if kind.toLower ∈ ["", "e"] then some (.typed type (.string kind s), rest) else none
      | _ => none
    else none
  | _ => none

/-- Reads the parts of a name and a period before each further part, up to a star after a period. -/
def readQualifiedStar : TermReader (List Lexeme)
  | l :: .period :: .operator "*" :: rest => if isNamePart l then some ([l], rest) else none
  | l :: .period :: rest =>
    if isNamePart l then (readQualifiedStar rest).map fun (ls, rest) => (l :: ls, rest) else none
  | _ => none

/-- Reads an argument of a call: all columns, or an expression. -/
def readArgument (read : OperandReader) (ls : List Lexeme) : Option (Term × List Lexeme) :=
  match ls with
  | .operator "*" :: rest => some (.wildcard [], rest)
  | _ =>
    match readQualifiedStar ls with
    | some (parts, rest) => some (.wildcard parts, rest)
    | none => read 0 ls

/-- Reads `DISTINCT` or `ALL`, if it is there. -/
def readQuantifier (ls : List Lexeme) : Option String × List Lexeme :=
  match afterKeyword? "DISTINCT" ls, afterKeyword? "ALL" ls with
  | some rest, _ => (some "DISTINCT", rest)
  | none, some rest => (some "ALL", rest)
  | none, none => (none, ls)

/-- Reads the inside of an argument list. -/
def readArguments (read : OperandReader) (ls : List Lexeme) :
    Option ((Option String × List Term) × List Lexeme) :=
  match ls with
  | .rparen :: _ => some ((none, []), ls)
  | _ =>
    let (quantifier, ls) := readQuantifier ls
    (readList (readArgument read) ls).map fun (args, rest) => ((quantifier, args), rest)

/-- Reads a name that begins with `l`, and its arguments if it is called. -/
def readName (read : OperandReader) (l : Lexeme) (ls : List Lexeme) :
    Option (Term × List Lexeme) := do
  let (parts, ls) ← readNameTail ls
  match ls with
  | .lparen :: _ =>
    let ((quantifier, args), ls) ← readParenthesized (readArguments read) ls
    some (.call (l :: parts) quantifier args, ls)
  | ls => some (.name (l :: parts), ls)

/-- Reads the branches of a choice after the first `WHEN`: at least one, and at most `n`. -/
def readBranches (read : OperandReader) : Nat → TermReader (List (Term × Term))
  | 0, _ => none
  | n + 1, ls => do
    let (condition, ls) ← read 0 ls
    let ls ← afterKeyword? "THEN" ls
    let (result, ls) ← read 0 ls
    match afterKeyword? "WHEN" ls with
    | some ls =>
      let (branches, ls) ← readBranches read n ls
      some ((condition, result) :: branches, ls)
    | none => some ([(condition, result)], ls)

/-- Reads the result of a choice without a branch, if `ELSE` is there. -/
def readElse (read : OperandReader) (ls : List Lexeme) : Option (Option Term × List Lexeme) :=
  match afterKeyword? "ELSE" ls with
  | some ls => (read 0 ls).map fun (t, ls) => (some t, ls)
  | none => some (none, ls)

/-- Reads the subject of a choice to its first `WHEN`. -/
def readSubject (read : OperandReader) (ls : List Lexeme) : Option (Option Term × List Lexeme) :=
  match afterKeyword? "WHEN" ls with
  | some ls => some (none, ls)
  | none => do
    let (t, ls) ← read 0 ls
    let ls ← afterKeyword? "WHEN" ls
    some (some t, ls)

/-- Reads a choice after `CASE`. -/
def readChoice (read : OperandReader) (ls : List Lexeme) : Option (Term × List Lexeme) := do
  let (subject, ls) ← readSubject read ls
  let (branches, ls) ← readBranches read (ls.length + 1) ls
  let (otherwise, ls) ← readElse read ls
  let ls ← afterKeyword? "END" ls
  some (.choice subject branches otherwise, ls)

/-- Reads the inside of a conversion: an operand, `AS` and a type. -/
def readCast (read : OperandReader) (ls : List Lexeme) : Option (Term × List Lexeme) := do
  let (t, ls) ← read 0 ls
  let ls ← afterKeyword? "AS" ls
  let (type, ls) ← readType ls
  some (.cast t type, ls)

/-- Reads the inside of an extraction: a field, `FROM` and an operand. -/
def readExtract (read : OperandReader) : TermReader Term
  | .word field :: ls => do
    let ls ← afterKeyword? "FROM" ls
    let (t, ls) ← read 0 ls
    some (.extract (.word field) t, ls)
  | _ => none

/-- The words that can be the unit of a duration. -/
def durationUnits : List String :=
  ["YEAR", "YEARS", "QUARTER", "MONTH", "MONTHS", "WEEK", "WEEKS", "DAY", "DAYS", "HOUR", "HOURS",
    "MINUTE", "MINUTES", "SECOND", "SECONDS", "MILLISECOND", "MILLISECONDS", "MICROSECOND",
    "MICROSECONDS"]

/-- Reads a duration after `INTERVAL`. -/
def readInterval (read : OperandReader) (ls : List Lexeme) : Option (Term × List Lexeme) := do
  let (t, ls) ← read levelPrimary ls
  match ls with
  | .word u :: rest =>
    if Text.uppercase u ∈ durationUnits then some (.interval t (some (.word u)), rest)
    else some (.interval t none, ls)
  | _ => some (.interval t none, ls)

/-- Reads the arguments of a word that can be called or stand alone. -/
def readOptionalCall (read : OperandReader) (l : Lexeme) (ls : List Lexeme) :
    Option (Term × List Lexeme) :=
  match ls with
  | .lparen :: _ =>
    (readParenthesized (readArguments read) ls).map fun ((quantifier, args), rest) =>
      (.call [l] quantifier args, rest)
  | _ => some (.name [l], ls)

/-- Reads the form that the keyword `k`, written as `w`, begins; none if it begins no form or the
form cannot be read. -/
def readForm (read : OperandReader) (k w : String) (ls : List Lexeme) :
    Option (Term × List Lexeme) :=
  if k ∈ ["TRUE", "FALSE", "NULL"] then some (.literal (.word w), ls)
  else if k ∈ ["CURRENT_CATALOG", "CURRENT_USER", "SESSION_USER", "USER"] then
    some (.name [.word w], ls)
  else if k ∈ ["CURRENT_TIMESTAMP", "CURRENT_TIME", "CURRENT_DATE", "LOCALTIME",
      "LOCALTIMESTAMP"] then
    readOptionalCall read (.word w) ls
  else if k = "CASE" then readChoice read ls
  else if k ∈ ["CAST", "TRY_CAST", "SAFE_CAST"] then readParenthesized (readCast read) ls
  else if k = "EXTRACT" then readParenthesized (readExtract read) ls
  else if k = "INTERVAL" then readInterval read ls
  else if k = "NOT" then (read levelNot ls).map fun (t, ls) => (.unary "NOT" t, ls)
  else none

/-- The words that are never read as names. -/
def reservedWords : List String := ["EXISTS", "INTERVAL", "STRUCT"]

/-- Reads the operand that the word `w` begins. -/
def readWordOperand (read : OperandReader) (w : String) (ls : List Lexeme) :
    Option (Term × List Lexeme) :=
  let k := Text.uppercase w
  match readForm read k w ls with
  | some r => some r
  | none => if k ∈ reservedWords then none else readName read (.word w) ls

/-- Reads expressions in parentheses, and the field that a period after them names. -/
def readGroup (read : OperandReader) (ls : List Lexeme) : Option (Term × List Lexeme) := do
  let (items, ls) ← readParenthesized (readList (read 0)) ls
  match ls with
  | .period :: .word w :: rest => some (.suffixed (.group items) [.period, .word w], rest)
  | .period :: .quotedName q s :: rest =>
    some (.suffixed (.group items) [.period, .quotedName q s], rest)
  | .period :: _ => none
  | ls => some (.group items, ls)

/-- Reads an operand without operators after it. -/
def readPrimary (read : OperandReader) (ls : List Lexeme) : Option (Term × List Lexeme) :=
  match readTyped ls with
  | some r => some r
  | none =>
    match ls with
    | .word w :: rest => readWordOperand read w rest
    | .quotedName q s :: rest => readName read (.quotedName q s) rest
    | .number n :: rest => some (.literal (.number n), rest)
    | .string k s :: rest => some (.literal (.string k s), rest)
    | .placeholder p :: rest => some (.literal (.placeholder p), rest)
    | .operator op :: rest =>
      if op = "-" ∨ op = "+" then
        (read levelProduct rest).map fun (t, rest) => (.unary op t, rest)
      else none
    | .lparen :: _ => readGroup read ls
    | _ => none

/-- Reads a collation after an operand, if `COLLATE` is there. -/
def readCollation (t : Term) (ls : List Lexeme) : Option (Term × List Lexeme) :=
  match afterKeyword? "COLLATE" ls with
  | some (l :: rest) =>
    if isNamePart l then
      (readNameTail rest).map fun (parts, rest) => (.suffixed t (l :: parts), rest)
    else none
  | some [] => none
  | none => some (t, ls)

/-- How tight an operator of marks binds; zero if it does not stand between operands. -/
def operatorLevel (op : String) : Nat :=
  if op ∈ ["=", "<", "<=", "<>", "!=", ">", ">=", "==", "<=>"] then levelComparison
  else if op = "|" then 21
  else if op ∈ ["^", "<<", ">>"] then 22
  else if op = "&" then 23
  else if op ∈ ["+", "-"] then levelSum
  else if op ∈ ["*", "/", "//", "%", "||"] then levelProduct
  else if op ∈ ["::", "[", "!"] then levelSuffix
  else if op ∈ ["->", "->>"] then levelArrow
  else 0

/-- How tight the operator binds that a word begins, where `next` follows the word. -/
def wordLevel (k : String) (next : List Lexeme) : Nat :=
  if k = "OR" then levelOr
  else if k = "AND" then levelAnd
  else if k = "XOR" then 24
  else if k = "AT" then
    if (afterKeywords? ["TIME", "ZONE"] next).isSome then levelZone else 0
  else if k = "NOT" then
    match next with
    | .word w :: _ =>
      let k := Text.uppercase w
      if k = "IN" ∨ k = "BETWEEN" then levelComparison
      else if k ∈ ["LIKE", "ILIKE", "RLIKE", "REGEXP", "SIMILAR"] then levelLike
      else 0
    | _ => 0
  else if k = "IS" then levelIs
  else if k ∈ ["IN", "BETWEEN", "OVERLAPS"] then levelComparison
  else if k ∈ ["LIKE", "ILIKE", "RLIKE", "REGEXP", "SIMILAR"] then levelLike
  else if k = "DIV" then levelProduct
  else 0

/-- How tight the operator binds that the elements begin with; zero if they begin with none. -/
def levelOf : List Lexeme → Nat
  | .word w :: rest => wordLevel (Text.uppercase w) rest
  | .operator op :: _ => operatorLevel op
  | _ => 0

/-- The tests that a word or two after `IS` make. -/
def isTests : List (List String) :=
  [["NULL"], ["NOT", "NULL"], ["TRUE"], ["NOT", "TRUE"], ["FALSE"], ["NOT", "FALSE"], ["UNKNOWN"],
    ["NOT", "UNKNOWN"]]

/-- Reads the first of the tests that the elements begin with. -/
def readIsTest (t : Term) (ls : List Lexeme) : List (List String) → Option (Term × List Lexeme)
  | [] => none
  | words :: tests =>
    match afterKeywords? words ls with
    | some rest => some (.test words t, rest)
    | none => readIsTest t ls tests

/-- Reads a test of `t` after `IS`. -/
def readIs (read : OperandReader) (t : Term) (ls : List Lexeme) : Option (Term × List Lexeme) :=
  match readIsTest t ls isTests with
  | some r => some r
  | none =>
    let (negated, rest) := takeKeyword "NOT" ls
    match afterKeywords? ["DISTINCT", "FROM"] rest with
    | some rest => (read 0 rest).map fun (u, rest) => (.distinctFrom negated t u, rest)
    | none => none

/-- Reads the interval of a test of `t` after `BETWEEN`. -/
def readBetween (read : OperandReader) (negated : Bool) (t : Term) (ls : List Lexeme) :
    Option (Term × List Lexeme) := do
  let (low, ls) ← read levelComparison ls
  let ls ← afterKeyword? "AND" ls
  let (high, ls) ← read levelComparison ls
  some (.between negated t low high, ls)

/-- Reads the escape literal of a match, if `ESCAPE` is there. -/
def readEscape (ls : List Lexeme) : Option (Option Lexeme × List Lexeme) :=
  match afterKeyword? "ESCAPE" ls with
  | some (.string k s :: rest) => some (some (.string k s), rest)
  | some _ => none
  | none => some (none, ls)

/-- Reads the pattern of a match of `t` after the operator. -/
def readPattern (read : OperandReader) (negated : Bool) (op : String) (t : Term)
    (ls : List Lexeme) : Option (Term × List Lexeme) := do
  let (pattern, ls) ← read levelLike ls
  let (escape, ls) ← readEscape ls
  some (.matching negated op t pattern escape, ls)

/-- Reads the rest of a test of `t` that begins with the keyword `k`. -/
def readPredicate (read : OperandReader) (negated : Bool) (k : String) (t : Term)
    (ls : List Lexeme) : Option (Term × List Lexeme) :=
  if k = "IN" then
    (readParenthesized (readList (read 0)) ls).map fun (vs, ls) => (.isIn negated t vs, ls)
  else if k = "BETWEEN" then readBetween read negated t ls
  else if k = "LIKE" ∨ k = "ILIKE" then readPattern read negated k t ls
  else if k = "RLIKE" ∨ k = "REGEXP" then
    (read levelLike ls).map fun (u, ls) => (.matching negated k t u none, ls)
  else if k = "SIMILAR" then (afterKeyword? "TO" ls).bind (readPattern read negated k t)
  else none

/-- Reads the rest of an expression whose left operand is `t` and whose operator begins with the
keyword `k` and binds at a level. -/
def readWordOperator (read : OperandReader) (level : Nat) (k : String) (t : Term)
    (ls : List Lexeme) : Option (Term × List Lexeme) :=
  if k ∈ ["AND", "OR", "XOR", "OVERLAPS", "DIV"] then
    (read level ls).map fun (u, ls) => (.binary k t u, ls)
  else if k = "IS" then readIs read t ls
  else if k = "AT" then do
    let ls ← afterKeywords? ["TIME", "ZONE"] ls
    (read level ls).map fun (u, ls) => (.binary "AT TIME ZONE" t u, ls)
  else if k = "NOT" then
    match ls with
    | .word w :: rest => readPredicate read true (Text.uppercase w) t rest
    | _ => none
  else readPredicate read false k t ls

/-- Reads the rest of an expression whose left operand is `t` and whose operator, of marks, binds at
a level. -/
def readMarkOperator (read : OperandReader) (level : Nat) (op : String) (t : Term)
    (ls : List Lexeme) : Option (Term × List Lexeme) :=
  if op = "::" then (readType ls).map fun (type, ls) => (.cast t type, ls)
  else if op = "!" then some (.unary "!" t, ls)
  else if op = "[" then
    match read 0 ls with
    | some (u, .operator "]" :: rest) => some (.element t u, rest)
    | _ => none
  else (read level ls).map fun (u, ls) => (.binary op t u, ls)

/-- Reads the rest of an expression whose left operand is `t`. -/
def readOperator (read : OperandReader) (level : Nat) (t : Term) :
    TermReader Term
  | .word w :: ls => readWordOperator read level (Text.uppercase w) t ls
  | .operator op :: ls => readMarkOperator read level op t ls
  | _ => none

/-- Reads operators that bind tighter than `min`, with their right operands, as long as there are
any: at most `n`. -/
def readOperators (read : OperandReader) (min : Nat) :
    Nat → Term → List Lexeme → Option (Term × List Lexeme)
  | 0, t, ls => some (t, ls)
  | n + 1, t, ls =>
    if levelOf ls ≤ min then some (t, ls)
    else
      match readOperator read (levelOf ls) t ls with
      | some (t, ls) => readOperators read min n t ls
      | none => none

/-- One level of reading: an operand, and the operators after it that bind tighter than `min`. -/
def readLevel (read : OperandReader) (min : Nat) (ls : List Lexeme) :
    Option (Term × List Lexeme) := do
  let (t, ls) ← readPrimary read ls
  let (t, ls) ← readCollation t ls
  readOperators read min (ls.length + 1) t ls

/-- Reads an expression of operators that bind tighter than a level, nested at most `depth` deep. -/
def readAbove : (depth : Nat) → OperandReader
  | 0, _, _ => none
  | depth + 1, min, ls => readLevel (readAbove depth) min ls

/-- How deep expressions may nest. -/
def depthLimit : Nat := 50

/-- Reads some elements as one expression. -/
def ofLexemes (ls : List Lexeme) : Except TermFault Term :=
  match readAbove depthLimit 0 ls with
  | none => .error .unreadable
  | some (t, []) => .ok t
  | some (_, l :: _) => .error (.trailing l)

/-- Reads a text as one expression. -/
def parse (s : String) : Except TermFault Term :=
  match Lexeme.scan? s with
  | none => .error .unreadable
  | some ls => ofLexemes ls

end Term

end MetricLayer
