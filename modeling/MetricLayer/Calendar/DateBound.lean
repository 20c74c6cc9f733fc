import MetricLayer.Calendar.Date

/-!
# Bounds of a date range

The ISO texts `YYYY-MM-DD`, `YYYY-MM-DD HH:MM` and `YYYY-MM-DD HH:MM:SS`, in which a `T` may stand
for the space: a day, or a moment of a day. A second may be 60, which is a leap second.
-/

namespace MetricLayer

/-- A time of day. -/
structure TimeOfDay where
  /-- The hour. -/
  hour : Nat
  /-- The minute. -/
  minute : Nat
  /-- The second, 60 for a leap second. -/
  second : Nat
  /-- A day has 24 hours. -/
  hour_le : hour ≤ 23
  /-- An hour has 60 minutes. -/
  minute_le : minute ≤ 59
  /-- A minute has 60 seconds and perhaps a leap second. -/
  second_le : second ≤ 60
  deriving DecidableEq, Repr

namespace TimeOfDay

/-- The time of an hour, a minute and a second, if there is one. -/
def ofParts? (h m s : Nat) : Option TimeOfDay :=
  if hh : h ≤ 23 then
    if hm : m ≤ 59 then
      if hs : s ≤ 60 then some ⟨h, m, s, hh, hm, hs⟩ else none
    else none
  else none

/-- The position of a time in its day; a leap second comes before the next minute. -/
def position (t : TimeOfDay) : Nat :=
  (t.hour * 60 + t.minute) * 61 + t.second

end TimeOfDay

/-- A bound of a date range. -/
inductive DateBound where
  /-- A whole day. -/
  | day (d : Date)
  /-- A moment of a day. -/
  | moment (d : Date) (t : TimeOfDay)
  deriving DecidableEq, Repr

namespace DateBound

/-- The day of a bound. -/
def date : DateBound → Date
  | day d => d
  | moment d _ => d

/-- The number that some digits make. -/
def number? (cs : List Char) : Option Nat :=
  if cs.all Char.isDigit then some (Nat.ofDigitChars 10 cs 0) else none

/-- Reads a date. -/
def readDate? (y m d : List Char) : Option Date := do
  let y ← number? y
  let m ← number? m
  let d ← number? d
  Date.ofParts? y m d

/-- Reads a time of day. -/
def readTime? (h m s : List Char) : Option TimeOfDay := do
  let h ← number? h
  let m ← number? m
  let s ← number? s
  TimeOfDay.ofParts? h m s

/-- Reads what follows a date: nothing, or a separator and a time. -/
def readTail? (d : Date) : List Char → Option DateBound
  | [] => some (day d)
  | [sep, h1, h2, ':', m1, m2] =>
    if sep = ' ' ∨ sep = 'T' then (readTime? [h1, h2] [m1, m2] ['0']).map (moment d) else none
  | [sep, h1, h2, ':', m1, m2, ':', s1, s2] =>
    if sep = ' ' ∨ sep = 'T' then (readTime? [h1, h2] [m1, m2] [s1, s2]).map (moment d) else none
  | _ => none

/-- Reads the characters of a bound. -/
def ofChars? : List Char → Option DateBound
  | y1 :: y2 :: y3 :: y4 :: '-' :: m1 :: m2 :: '-' :: d1 :: d2 :: tail => do
    let d ← readDate? [y1, y2, y3, y4] [m1, m2] [d1, d2]
    readTail? d tail
  | _ => none

/-- Reads the text of a bound. -/
def parse? (s : String) : Option DateBound :=
  ofChars? s.toList

/-- The range from `a` to `b` is empty: of two moments the first is the later one, or else the first
day is the later one. -/
def isAfter (a b : DateBound) : Bool :=
  match a, b with
  | moment d t, moment e u =>
    e.dayNumber < d.dayNumber || (d.dayNumber == e.dayNumber && u.position < t.position)
  | a, b => b.date.dayNumber < a.date.dayNumber

end DateBound

end MetricLayer
