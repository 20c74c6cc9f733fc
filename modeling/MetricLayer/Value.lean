import MetricLayer.Decimal.Shortest
import MetricLayer.Json.Basic

/-!
# Values

The values that a request compares with, which a query binds as parameters: truth values, signed
64-bit integers, finite 64-bit floating-point numbers and texts.
-/

namespace MetricLayer

/-- A value of a parameter. -/
inductive Value where
  /-- A truth value. -/
  | bool (b : Bool)
  /-- An integer. -/
  | int (i : Int64)
  /-- A finite floating-point number. -/
  | float (x : Binary64)
  /-- A text. -/
  | text (s : String)
  deriving DecidableEq

namespace Value

/-- The value of a number: an integer if it is written without fraction and exponent and fits 64
bits, and not as `-0`; else a floating-point number, unless it is too large. -/
def ofNumeral? (n : Numeral) : Option Value :=
  let v := n.wholeValue
  if n.isInteger && !n.negative && v < 0x8000000000000000 then some (.int (Int64.ofNat v))
  else if n.isInteger && n.negative && 0 < v && v ≤ 0x8000000000000000 then
    some (.int (Int64.ofInt (-(v : Int))))
  else (Binary64.ofNumeral? n).map .float

/-- The value that a JSON value stands for. -/
def ofJson? : Json → Option Value
  | .bool b => some (.bool b)
  | .number n => ofNumeral? n
  | .string s => some (.text s)
  | _ => none

/-- The JSON value that stands for a value. -/
def toJson : Value → Json
  | bool b => .bool b
  | int i => .number (.ofInt i.toInt)
  | float x => .number x.numeral
  | text s => .string s

/-- The text of a value, in which a pattern looks for it. -/
def asText : Value → String
  | bool true => "true"
  | bool false => "false"
  | int i => toString i.toInt
  | float x => x.plainNumeral.render
  | text s => s

end Value

end MetricLayer
