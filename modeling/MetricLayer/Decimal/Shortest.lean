import MetricLayer.Decimal.Binary64

/-!
# Shortest decimals

The decimal with the fewest digits that reads back as a given binary64 number, and of those the
nearest to it. The decimals that read back form an interval around the number; the coarsest grid of
multiples of a power of ten that meets the interval gives the fewest digits.
-/

namespace MetricLayer.Binary64

/-- Which of two equally near decimals is taken. -/
inductive Tie where
  /-- The one with an even last digit. -/
  | toEven
  /-- The larger one. -/
  | up
  deriving DecidableEq, Repr

/-- A number and the interval of the reals that round to it, in units of `2 ^ -1076`. -/
structure Interval where
  /-- The lower end. -/
  low : Nat
  /-- The number itself. -/
  value : Nat
  /-- The upper end. -/
  high : Nat
  /-- The ends belong to the interval. -/
  closed : Bool

/-- The interval of a rank: half a unit of the last place to each side, a quarter below a power of
two; the ends round to an even mantissa. -/
def interval (rank : Nat) : Interval :=
  let m := mantissa rank
  let s := shift rank
  let below := if m = leadingBit ∧ 0 < s then 1 <<< s else 2 <<< s
  let value := (4 * m) <<< s
  ⟨value - below, value, value + 2 <<< s, m % 2 == 0⟩

/-- The multiple of `10 ^ k` that lies in the interval and nearest to the number. -/
def gridPoint? (tie : Tie) (x : Interval) (k : Int) : Option Nat :=
  let a := Nat.pow 10 (-k).toNat
  let b := Nat.pow 10 k.toNat <<< 1076
  let has (d : Nat) : Bool :=
    if x.closed then x.low * a ≤ d * b && d * b ≤ x.high * a
    else x.low * a < d * b && d * b < x.high * a
  -- If any point of the grid lies in the interval, one of the two next to the number does.
  let d := x.value * a / b
  match has d, has (d + 1) with
  | false, false => none
  | true, false => some d
  | false, true => some (d + 1)
  | true, true =>
    let twice := 2 * x.value * a
    let middle := (2 * d + 1) * b
    if twice < middle then some d
    else if middle < twice then some (d + 1)
    else match tie with
      | .toEven => if d % 2 = 0 then some d else some (d + 1)
      | .up => some (d + 1)

/-- The point of the coarsest grid that meets the interval, from `10 ^ k` down through at most
`n` grids, with the exponent of the grid. -/
def coarsestPoint (tie : Tie) (x : Interval) : Nat → Int → Nat × Int
  | 0, k => (0, k)
  | n + 1, k =>
    match gridPoint? tie x k with
    | some d => (d, k)
    | none => coarsestPoint tie x n (k - 1)

/-- The shortest decimal of a rank: digits and the power of ten that multiplies them. -/
def shortest (tie : Tie) (rank : Nat) : Nat × Int :=
  if rank = 0 then (0, 0) else coarsestPoint tie (interval rank) 640 308

/-- Digits times `10 ^ k` written with a point: the whole digits and the fraction digits. -/
def positional (ds : List Char) (k : Int) : List Char × List Char :=
  if 0 ≤ k then (ds ++ List.replicate k.toNat '0', [])
  else
    let places := (-k).toNat
    if places < ds.length then (ds.take (ds.length - places), ds.drop (ds.length - places))
    else (['0'], List.replicate (places - ds.length) '0' ++ ds)

/-- The numeral that stands for a number in data: positional from `0.00001` to below `10 ^ 16`, and
always with a fraction; scientific outside. -/
def numeral (x : Binary64) : Numeral :=
  let (d, k) := shortest .toEven x.rank
  let ds := Nat.toDigits 10 d
  let e := k + ds.length - 1
  if -5 ≤ e ∧ e < 16 then
    let (whole, fraction) := positional ds k
    ⟨x.negative, whole, if fraction.isEmpty then ['0'] else fraction, none⟩
  else ⟨x.negative, ds.take 1, ds.drop 1, some e⟩

/-- The numeral that stands for a number in running text: always positional, with a fraction only
if there is one. -/
def plainNumeral (x : Binary64) : Numeral :=
  let (d, k) := shortest .up x.rank
  let (whole, fraction) := positional (Nat.toDigits 10 d) k
  ⟨x.negative, whole, fraction, none⟩

example : shortest .toEven 1 = (5, -324) := by decide +kernel

example : shortest .toEven (nearestRank 1 10) = (1, -1) := by decide +kernel

example : shortest .toEven (rankLimit - 1) = (17976931348623157, 292) := by decide +kernel

end MetricLayer.Binary64
