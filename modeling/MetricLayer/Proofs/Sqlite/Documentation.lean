import MetricLayer.Proofs.Calendar.Period
import MetricLayer.Proofs.Sql.Meaning

/-!
# What SQLite computes

The documented behaviour of what the buckets of SQLite are made of, and of nothing else: literals,
arithmetic on integers, conversion to an integer, `STRFTIME` and `DATE` with two of their modifiers,
and `PRINTF`. An evaluation gives each term a value in some row, and reads the values that denote
an instant; `Documented` says of both what the documentation of SQLite says. Nothing is said of
names of columns, whose values differ from row to row, and little of how instants are given: the
texts of dates and of timestamps are understood, and perhaps more.

`documented_evaluate` gives an evaluation of that kind, so the behaviours agree with each other.
-/

namespace MetricLayer

/-- A value of SQLite. -/
inductive Datum where
  /-- The missing value. -/
  | null
  /-- An integer. -/
  | integer (n : Int)
  /-- A floating-point number, by its bits. -/
  | real (bits : UInt64)
  /-- A text. -/
  | text (s : String)
  /-- Bytes. -/
  | blob (bytes : List UInt8)
  deriving DecidableEq

namespace Sqlite

/-! ## Formats -/

/-- The characters for a letter after the percent sign in a format of an instant. -/
def directive? (i : Instant) : Char → Option (List Char)
  | 'Y' => some (Date.padded 4 i.date.year)
  | 'm' => some (Date.padded 2 i.date.month)
  | 'd' => some (Date.padded 2 i.date.day)
  | 'H' => some (Date.padded 2 i.time.hour)
  | 'M' => some (Date.padded 2 i.time.minute)
  | 'S' => some (Date.padded 2 i.time.second)
  | '%' => some ['%']
  | _ => none

/-- An instant in a format, if all of its directives are known. -/
def formatted? (i : Instant) : List Char → Option (List Char)
  | [] => some []
  | '%' :: c :: cs => (directive? i c).bind fun ds => (formatted? i cs).map (ds ++ ·)
  | c :: cs => if c = '%' then none else (formatted? i cs).map (c :: ·)

/-- Values in a format of texts and of numbers with zeros up to a width. -/
def printed? : List Char → List Datum → Option (List Char)
  | [], [] => some []
  | '%' :: 's' :: cs, .text s :: vs => (printed? cs vs).map (s.toList ++ ·)
  | '%' :: '0' :: w :: 'd' :: cs, .integer (.ofNat n) :: vs =>
    if w.isDigit then (printed? cs vs).map (Date.padded (w.toNat - '0'.toNat) n ++ ·) else none
  | c :: cs, vs => if c = '%' then none else (printed? cs vs).map (c :: ·)
  | [], _ :: _ => none

/-! ## Modifiers -/

/-- An instant is changed to another by modifiers, from the left to the right. -/
inductive Modified : List Datum → Instant → Instant → Prop
  /-- No modifier changes nothing. -/
  | nil (i : Instant) : Modified [] i i
  /-- A weekday moves the date forward to the next Sunday, unless it is one. -/
  | sunday {i j : Instant} {t : Date} {ms : List Datum}
    (sunday : t.weekday = 0) (first_le : i.date.dayNumber ≤ t.dayNumber)
    (lt_last : t.dayNumber < i.date.dayNumber + 7) (year_le : t.year ≤ 9999)
    (rest : Modified ms { i with date := t } j) : Modified (.text "weekday 0" :: ms) i j
  /-- A negative number of days moves the date back. -/
  | sixDays {i j : Instant} {t : Date} {ms : List Datum}
    (days : t.dayNumber + 6 = i.date.dayNumber)
    (rest : Modified ms { i with date := t } j) : Modified (.text "-6 days" :: ms) i j

/-! ## Arithmetic -/

/-- An integer of 64 bits. -/
def InRange (n : Int) : Prop :=
  -0x8000000000000000 ≤ n ∧ n ≤ 0x7fffffffffffffff

/-- The operation of an operator on integers; division truncates towards zero. -/
def operation? : String → Option (Int → Int → Int)
  | "+" => some (· + ·)
  | "-" => some (· - ·)
  | "*" => some (· * ·)
  | "/" => some Int.tdiv
  | _ => none

/-! ## Terms -/

/-- The values of terms, and the instants that values denote, are those that the documentation of
SQLite describes. -/
structure Documented (instant? : Datum → Option Instant) (value : Term → Datum) : Prop where
  /-- A string literal is its text. -/
  string : ∀ s, value (.literal (.string "" s)) = .text s
  /-- Digits are their number. -/
  number : ∀ width ds n, IsNumeral width ds n → InRange n →
    value (.literal (.number (String.ofList ds))) = .integer n
  /-- Parentheses have the value of what they enclose. -/
  group : ∀ t, value (.group [t]) = value t
  /-- Integers are computed with, if the result has 64 bits and nothing is divided by zero. -/
  operation : ∀ op f t u m n, operation? op = some f → value t = .integer m →
    value u = .integer n → (op = "/" → n ≠ 0) → InRange (f m n) →
    value (.binary op t u) = .integer (f m n)
  /-- A text of digits is converted to their number. -/
  cast : ∀ t s width n, value t = .text s → IsNumeral width s.toList n → InRange n →
    value (.cast t [.word "INTEGER"]) = .integer n
  /-- `STRFTIME` puts the modified instant into the format. -/
  strftime : ∀ format t modifiers f i j out, value format = .text f →
    instant? (value t) = some i → Modified (modifiers.map value) i j →
    formatted? j f.toList = some out →
    value (.apply "STRFTIME" (format :: t :: modifiers)) = .text (String.ofList out)
  /-- `DATE` is `STRFTIME` with the format of a date. -/
  date : ∀ format t modifiers, value format = .text "%Y-%m-%d" →
    value (.apply "DATE" (t :: modifiers)) = value (.apply "STRFTIME" (format :: t :: modifiers))
  /-- `PRINTF` puts values into the format. -/
  printf : ∀ format args f out, value format = .text f →
    printed? f.toList (args.map value) = some out →
    value (.apply "PRINTF" (format :: args)) = .text (String.ofList out)
  /-- The text of a date denotes the first instant of the day. -/
  instant_date : ∀ t : Date, t.year ≤ 9999 → instant? (.text t.text) = some (.dawn t)
  /-- The text of a timestamp denotes its instant. -/
  instant_timestamp : ∀ s t time, DateBound.IsTimestamp s t time → time.second ≤ 59 →
    instant? (.text s) = some ⟨t, time, 0⟩

/-! ## An evaluation -/

/-- The instant that a value denotes, for texts of dates and timestamps. -/
def instantOf? : Datum → Option Instant
  | .text s =>
    match DateBound.parse? s with
    | some (.day t) => some (.dawn t)
    | some (.moment t time) => if time.second ≤ 59 then some ⟨t, time, 0⟩ else none
    | none => none
  | _ => none

/-- The first Sunday from a date on. -/
def sundayFrom (t : Date) : Date :=
  Date.ofDayNumber (t.dayNumber + (7 - t.weekday) % 7)

/-- An instant that is changed by modifiers. -/
def modify? : List Datum → Instant → Option Instant
  | [], i => some i
  | .text s :: ms, i =>
    if s = "weekday 0" then
      if (sundayFrom i.date).year ≤ 9999 then modify? ms { i with date := sundayFrom i.date }
      else none
    else if s = "-6 days" ∧ 6 ≤ i.date.dayNumber then
      modify? ms { i with date := Date.ofDayNumber (i.date.dayNumber - 6) }
    else none
  | _, _ => none

/-- A text of characters, if there are any to be had. -/
def textOf : Option (List Char) → Datum
  | some cs => .text (String.ofList cs)
  | none => .null

/-- A value in a format of instants, after some modifiers. -/
def formatted (format : String) (v : Datum) (modifiers : List Datum) : Datum :=
  textOf (do
    let i ← instantOf? v
    let j ← modify? modifiers i
    formatted? j format.toList)

/-- The result of a function. -/
def result (name : String) (args : List Datum) : Datum :=
  if name = "STRFTIME" then
    match args with
    | .text format :: v :: modifiers => formatted format v modifiers
    | _ => .null
  else if name = "DATE" then
    match args with
    | v :: modifiers => formatted "%Y-%m-%d" v modifiers
    | [] => .null
  else if name = "PRINTF" then
    match args with
    | .text format :: vs => textOf (printed? format.toList vs)
    | _ => .null
  else .null

/-- The number of digits. -/
def integerOf (cs : List Char) : Datum :=
  match DateBound.number? cs with
  | some n => .integer n
  | none => .null

/-- The result of an operator. -/
def computed (op : String) : Datum → Datum → Datum
  | .integer m, .integer n =>
    match operation? op with
    | some f => .integer (f m n)
    | none => .null
  | _, _ => .null

mutual

/-- The value of a term in a row where every name has one value. -/
def evaluate (row : Datum) : Term → Datum
  | .name _ => row
  | .literal (.string "" s) => .text s
  | .literal (.number s) => integerOf s.toList
  | .group [t] => evaluate row t
  | .binary op t u => computed op (evaluate row t) (evaluate row u)
  | .cast t _ =>
    match evaluate row t with
    | .text s => integerOf s.toList
    | _ => .null
  | .call [.word name] none args => result name (evaluateAll row args)
  | _ => .null

/-- The values of terms. -/
def evaluateAll (row : Datum) : List Term → List Datum
  | [] => []
  | t :: ts => evaluate row t :: evaluateAll row ts

end

variable {i j : Instant} {ms : List Datum} {row : Datum}

/-- The values of terms are those of each. -/
theorem evaluateAll_eq_map (row : Datum) (ts : List Term) :
    evaluateAll row ts = ts.map (evaluate row) := by
  induction ts with
  | nil => rfl
  | cons t ts ih => rw [evaluateAll, ih, List.map_cons]

/-- A changed instant is the one that the modifiers give. -/
theorem Modified.modify? (h : Modified ms i j) : Sqlite.modify? ms i = some j := by
  induction h with
  | nil i => rfl
  | @sunday i j t ms hsunday hle hlt hyear _ ih =>
    have ht : sundayFrom i.date = t := by
      unfold Date.weekday at hsunday
      unfold sundayFrom Date.weekday
      rw [Date.ofDayNumber_eq_iff]
      omega
    rw [Sqlite.modify?, if_pos rfl, ht, if_pos hyear, ih]
  | @sixDays i j t ms hdays _ ih =>
    have ht : Date.ofDayNumber (i.date.dayNumber - 6) = t := by
      rw [Date.ofDayNumber_eq_iff]
      omega
    rw [Sqlite.modify?, if_neg (by decide), if_pos ⟨rfl, by omega⟩, ht, ih]

/-- A numeral is evaluated to its number. -/
theorem integerOf_eq {width n : Nat} {cs : List Char} (h : IsNumeral width cs n) :
    integerOf cs = .integer n := by
  unfold integerOf
  rw [h.number?]

/-- The value of a call is the result of its function. -/
theorem evaluate_apply {name : String} (hname : Text.isKeywordText name = true)
    (args : List Term) :
    evaluate row (.apply name args) = result name (args.map (evaluate row)) := by
  rw [Term.apply, Text.uppercase_eq_self hname, evaluate, evaluateAll_eq_map]

/-- The evaluation is one that the documentation describes. -/
theorem documented_evaluate (row : Datum) : Documented instantOf? (evaluate row) where
  string s := by rw [evaluate]
  number width ds n h _ := by
    rw [evaluate, String.toList_ofList]
    exact integerOf_eq h
  group t := by rw [evaluate]
  operation op f t u m n hop ht hu _ _ := by
    rw [evaluate, ht, hu, computed, hop]
  cast t s width n ht h _ := by
    rw [evaluate, ht]
    exact integerOf_eq h
  strftime format t modifiers f i j out hformat hi hmodified hout := by
    rw [evaluate_apply (by decide), List.map_cons, List.map_cons, hformat, result, if_pos rfl]
    simp only [formatted, hi, hmodified.modify?, hout, Option.bind_eq_bind, Option.bind_some]
    rfl
  date format t modifiers hformat := by
    rw [evaluate_apply (by decide), evaluate_apply (by decide), List.map_cons, List.map_cons,
      List.map_cons, hformat]
    simp [result]
  printf format args f out hformat hout := by
    rw [evaluate_apply (by decide), List.map_cons, hformat]
    simp [result, hout, textOf]
  instant_date t ht := by
    have hdate := (DateBound.isWrittenDate_chars t).isIsoDate ht
    have hparse : DateBound.parse? t.text = some (.day t) := by
      rw [DateBound.parse?_eq_some_iff, Date.text, String.toList_ofList]
      exact .day hdate
    simp only [instantOf?, hparse]
  instant_timestamp s t time hs hsecond := by
    have hparse : DateBound.parse? s = some (.moment t time) :=
      DateBound.parse?_eq_some_iff.2 hs.isIsoText
    simp only [instantOf?, hparse, if_pos hsecond]

end Sqlite

end MetricLayer
