import MetricLayer.Calendar.Date

/-!
# TOML values

What a document holds, and what a run of characters without quotes stands for: a truth value, an
integer in one of four bases, a floating-point number, or a date, a time, or both.
-/

namespace MetricLayer

/-- A value of a TOML document. -/
inductive Toml where
  /-- A string. -/
  | string (s : String)
  /-- An integer. -/
  | integer (i : Int)
  /-- A floating-point number, as written. -/
  | float (text : String)
  /-- A truth value. -/
  | bool (b : Bool)
  /-- A date, a time, or both, as written. -/
  | datetime (text : String)
  /-- An array. -/
  | array (items : List Toml)
  /-- A table. -/
  | table (entries : List (String × Toml))

namespace Toml

/-- The text of a string. -/
def string? : Toml → Option String
  | .string s => some s
  | _ => none

/-- The value that a table has under a key. -/
def get? (key : String) : Toml → Option Toml
  | .table entries => entries.lookup key
  | _ => none

/-- The characters are digits of a kind, at least one, with single underscores between digits. -/
def isDigitRun (isDigit : Char → Bool) : List Char → Bool
  | [] => false
  | [c] => isDigit c
  | c :: '_' :: cs => isDigit c && isDigitRun isDigit cs
  | c :: cs => isDigit c && isDigitRun isDigit cs

/-- A hexadecimal digit. -/
def isHexDigit (c : Char) : Bool :=
  c.isDigit || ('a' ≤ c && c ≤ 'f') || ('A' ≤ c && c ≤ 'F')

/-- The worth of a digit in any base up to sixteen. -/
def digitWorth (c : Char) : Nat :=
  if c.isDigit then c.toNat - 48 else c.toLower.toNat - 87

/-- The number that the digits of a run make in a base. -/
def runValue (base : Nat) (cs : List Char) : Nat :=
  (cs.filter (· != '_')).foldl (fun v c => base * v + digitWorth c) 0

/-- The characters are a decimal number without sign: a zero, or digits that do not begin with
zero. -/
def isDecimal : List Char → Bool
  | ['0'] => true
  | '0' :: _ => false
  | cs => isDigitRun Char.isDigit cs

/-- The characters without a sign, and whether the sign is a minus. -/
def splitSign : List Char → Bool × List Char
  | '-' :: cs => (true, cs)
  | '+' :: cs => (false, cs)
  | cs => (false, cs)

/-- The integer that the characters stand for. -/
def integer? (cs : List Char) : Option Int :=
  match cs with
  | '0' :: 'x' :: ds => if isDigitRun isHexDigit ds then some (runValue 16 ds) else none
  | '0' :: 'o' :: ds =>
    if isDigitRun (fun c => '0' ≤ c && c ≤ '7') ds then some (runValue 8 ds) else none
  | '0' :: 'b' :: ds =>
    if isDigitRun (fun c => c == '0' || c == '1') ds then some (runValue 2 ds) else none
  | cs =>
    let (negative, ds) := splitSign cs
    if isDecimal ds then
      some (if negative then -(runValue 10 ds : Int) else (runValue 10 ds : Int))
    else none

/-- The characters are an exponent of a floating-point number after its letter. -/
def isExponent (cs : List Char) : Bool :=
  isDigitRun Char.isDigit (splitSign cs).2

/-- The characters are a fraction and an exponent of which at least one is there. -/
def isFloatTail : List Char → Bool
  | '.' :: cs =>
    let (fraction, rest) := cs.span fun c => c.isDigit || c == '_'
    isDigitRun Char.isDigit fraction &&
      match rest with
      | [] => true
      | e :: cs => (e == 'e' || e == 'E') && isExponent cs
  | e :: cs => (e == 'e' || e == 'E') && isExponent cs
  | [] => false

/-- The characters are a floating-point number. -/
def isFloat (cs : List Char) : Bool :=
  let (_, ds) := splitSign cs
  if ds = ['i', 'n', 'f'] ∨ ds = ['n', 'a', 'n'] then true
  else
    let (whole, rest) := ds.span fun c => c.isDigit || c == '_'
    isDecimal whole && isFloatTail rest

/-- The number that two digits make. -/
def twoDigits? (a b : Char) : Option Nat :=
  if a.isDigit && b.isDigit then some (Nat.ofDigitChars 10 [a, b] 0) else none

/-- The characters are a date. -/
def isDate : List Char → Bool
  | [y1, y2, y3, y4, '-', m1, m2, '-', d1, d2] =>
    match twoDigits? y1 y2, twoDigits? y3 y4, twoDigits? m1 m2, twoDigits? d1 d2 with
    | some c, some y, some m, some d => (Date.ofParts? (100 * c + y) m d).isSome
    | _, _, _, _ => false
  | _ => false

/-- The characters are two digits of a number up to `max`. -/
def isTwoDigitsUpTo (max : Nat) (a b : Char) : Bool :=
  (twoDigits? a b).any (· ≤ max)

/-- The characters are the seconds of a time with their fraction, or nothing. -/
def isSeconds : List Char → Bool
  | [] => true
  | [':', a, b] => isTwoDigitsUpTo 60 a b
  | ':' :: a :: b :: '.' :: ds => isTwoDigitsUpTo 60 a b && !ds.isEmpty && ds.all Char.isDigit
  | _ => false

/-- The characters are a time of day. -/
def isTime : List Char → Bool
  | a :: b :: ':' :: c :: d :: rest =>
    isTwoDigitsUpTo 23 a b && isTwoDigitsUpTo 59 c d && isSeconds rest
  | _ => false

/-- The characters are a time zone: a letter, or hours and minutes from Greenwich. -/
def isZone : List Char → Bool
  | [c] => c == 'Z' || c == 'z'
  | [s, a, b, ':', c, d] =>
    (s == '+' || s == '-') && isTwoDigitsUpTo 23 a b && isTwoDigitsUpTo 59 c d
  | _ => false

/-- The character begins a time zone. -/
def isZoneStart (c : Char) : Bool :=
  c == 'Z' || c == 'z' || c == '+' || c == '-'

/-- The characters are a date, a time, or a date and a time with or without a time zone. -/
def isDatetime (cs : List Char) : Bool :=
  isTime cs || isDate cs ||
    (isDate (cs.take 10) &&
      match cs.drop 10 with
      | sep :: rest =>
        let (time, zone) := rest.span fun c => !isZoneStart c
        (sep == 'T' || sep == 't' || sep == ' ') && isTime time && (zone.isEmpty || isZone zone)
      | [] => false)

/-- The integer fits 128 bits, with or without a sign. -/
def isStorable (i : Int) : Bool :=
  -0x80000000000000000000000000000000 ≤ i && i < 0x100000000000000000000000000000000

/-- The value that characters without quotes stand for. -/
def scalar? (cs : List Char) : Option Toml :=
  if cs = ['t', 'r', 'u', 'e'] then some (.bool true)
  else if cs = ['f', 'a', 'l', 's', 'e'] then some (.bool false)
  else
    match integer? cs with
    | some i => if isStorable i then some (.integer i) else none
    | none =>
      if isFloat cs then some (.float (String.ofList cs))
      else if isDatetime cs then some (.datetime (String.ofList cs))
      else none

end Toml

end MetricLayer
