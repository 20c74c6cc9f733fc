/-!
# Decimal numerals

A number as it is written in decimal digits: a sign, whole digits, digits after the point, and an
exponent. `Numeral.chars` writes it, always with the sign of the exponent.
-/

namespace MetricLayer

/-- A number written in decimal digits. -/
structure Numeral where
  /-- A minus sign stands before the digits. -/
  negative : Bool
  /-- The digits before the point. -/
  whole : List Char
  /-- The digits after the point; there is no point without them. -/
  fraction : List Char
  /-- The power of ten that multiplies the digits, if one is written. -/
  exponent : Option Int
  deriving DecidableEq, Repr

namespace Numeral

/-- The numeral of an integer. -/
def ofInt (i : Int) : Numeral :=
  ⟨i < 0, Nat.toDigits 10 i.natAbs, [], none⟩

/-- The numeral of a natural number. -/
def ofNat (n : Nat) : Numeral :=
  ⟨false, Nat.toDigits 10 n, [], none⟩

/-- Neither a fraction nor an exponent is written. -/
def isInteger (n : Numeral) : Bool :=
  n.fraction.isEmpty && n.exponent.isNone

/-- The number that the digits before the point make. -/
def wholeValue (n : Numeral) : Nat :=
  Nat.ofDigitChars 10 n.whole 0

/-- The characters of an exponent, its sign always written. -/
def exponentChars : Option Int → List Char
  | none => []
  | some e => 'e' :: (if e < 0 then '-' else '+') :: Nat.toDigits 10 e.natAbs

/-- The characters of a fraction with its point. -/
def fractionChars (ds : List Char) : List Char :=
  if ds.isEmpty then [] else '.' :: ds

/-- The characters of a numeral. -/
def chars (n : Numeral) : List Char :=
  (if n.negative then ['-'] else []) ++
    (n.whole ++ (fractionChars n.fraction ++ exponentChars n.exponent))

/-- The text of a numeral. -/
def render (n : Numeral) : String :=
  String.ofList n.chars

/-- The digits of a natural number are worth that number. -/
@[simp] theorem wholeValue_ofNat (n : Nat) : (ofNat n).wholeValue = n := by
  simp [ofNat, wholeValue]

/-- The digits of an integer are worth its magnitude. -/
@[simp] theorem wholeValue_ofInt (i : Int) : (ofInt i).wholeValue = i.natAbs := by
  simp [ofInt, wholeValue]

end Numeral

end MetricLayer
