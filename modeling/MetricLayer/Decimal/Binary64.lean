import MetricLayer.Decimal.Numeral

/-!
# Finite 64-bit floating-point numbers

The finite numbers of the IEEE 754 binary64 format, without arithmetic of the machine: a magnitude
is known by its rank among the non-negative finite numbers in increasing order, so the number of
rank `r` is `mantissa r · 2 ^ shift r` units of `2 ^ -1074`. `nearestRank` rounds a ratio to the
nearest of them, and `ofNumeral?` reads a decimal numeral.
-/

namespace MetricLayer

/-- The mantissa of a power of two, `2 ^ 52`; that many ranks share a shift. -/
def Binary64.leadingBit : Nat := 0x10000000000000

/-- The first rank beyond the finite numbers. -/
def Binary64.rankLimit : Nat := 2047 * Binary64.leadingBit

/-- A finite number of the binary64 format. -/
structure Binary64 where
  /-- The sign bit. -/
  negative : Bool
  /-- The position of the magnitude among the non-negative finite numbers, counted from `0.0`. -/
  rank : Nat
  /-- The magnitude is finite. -/
  rank_lt : rank < Binary64.rankLimit
  deriving DecidableEq

namespace Binary64

/-- The whole factor of the magnitude of a rank. -/
def mantissa (rank : Nat) : Nat :=
  if rank < leadingBit then rank else leadingBit + rank % leadingBit

/-- The power of two that multiplies the mantissa of a rank. -/
def shift (rank : Nat) : Nat :=
  rank / leadingBit - 1

/-- The magnitude of a rank in units of `2 ^ -1074`. -/
def units (rank : Nat) : Nat :=
  mantissa rank <<< shift rank

/-- The integer nearest to `num / den`, a half going to the even neighbour. -/
def halfEven (num den : Nat) : Nat :=
  let q := num / den
  let r := num % den
  if 2 * r < den ∨ (2 * r = den ∧ q % 2 = 0) then q else q + 1

/-- The rank nearest to `num / den`, a half going to the even mantissa. It is not below
`rankLimit` if the ratio is too large. -/
def nearestRank (num den : Nat) : Nat :=
  let scaled := num <<< 1074
  -- The mantissa keeps 53 bits, so `s` bits of the ratio are rounded away.
  let s := (scaled / den).log2 - 52
  s * leadingBit + halfEven scaled (den <<< s)

/-- The rank of `10 ^ k`. -/
def powerOfTen (k : Nat) : Nat :=
  nearestRank (Nat.pow 10 k) 1

/-- The rank of a product, rounded once. -/
def timesRank (a b : Nat) : Nat :=
  nearestRank (units a * units b) (1 <<< 2148)

/-- The rank of a quotient, rounded once. -/
def overRank (a b : Nat) : Nat :=
  nearestRank (units a) (units b)

/-- The rank of `significand · 10 ^ exponent`, computed as the rounded significand times, or over, a
rounded power of ten; the largest power is `10 ^ 308`, so a far smaller number takes two steps. -/
def decimalRank (significand : Nat) (exponent : Int) : Nat :=
  let f := nearestRank significand 1
  if significand = 0 then 0
  else if 308 < exponent then rankLimit
  else if 0 ≤ exponent then timesRank f (powerOfTen exponent.toNat)
  else if -308 ≤ exponent then overRank f (powerOfTen (-exponent).toNat)
  -- The two steps round one after the other.
  else if -616 ≤ exponent then
    overRank (overRank f (powerOfTen 308)) (powerOfTen (-exponent - 308).toNat)
  else 0

/-- Takes digits as long as the number they make, after `v`, stays below `2 ^ 64`: that number and
the digits left. -/
def absorbDigits (v : Nat) : List Char → Nat × List Char
  | [] => (v, [])
  | c :: cs =>
    let w := 10 * v + (c.toNat - '0'.toNat)
    if w < UInt64.size then absorbDigits w cs else (v, c :: cs)

/-- The significand and the exponent that a numeral is read as: a significand below `2 ^ 64`, in
which later whole digits count as zeros and later fraction digits are dropped. -/
def decimalParts (n : Numeral) : Nat × Int :=
  let (v, wholeLeft) := absorbDigits 0 n.whole
  let (w, fractionLeft) := absorbDigits v n.fraction
  let taken := n.fraction.length - fractionLeft.length
  (w, (wholeLeft.length : Int) - (taken : Int) + n.exponent.getD 0)

/-- The number that a numeral is read as; none if it is too large. -/
def ofNumeral? (n : Numeral) : Option Binary64 :=
  let (significand, exponent) := decimalParts n
  let rank := decimalRank significand exponent
  if h : rank < rankLimit then some ⟨n.negative, rank, h⟩ else none

example : nearestRank 1 1 = 1023 * leadingBit ∧ units (1023 * leadingBit) = 1 <<< 1074 := by
  decide +kernel

example : nearestRank 1 10 = 0x3FB999999999999A := by
  decide +kernel

end Binary64

end MetricLayer
