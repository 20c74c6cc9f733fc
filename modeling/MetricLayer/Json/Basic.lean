import MetricLayer.Decimal.Numeral

/-!
# JSON values

A JSON value as it was written: the entries of an object keep their order and may repeat a key, and
a number keeps its digits. What repetition means is for the reader of a particular form to say.
-/

namespace MetricLayer

/-- A JSON value. -/
inductive Json where
  /-- The value `null`. -/
  | null
  /-- A truth value. -/
  | bool (b : Bool)
  /-- A number, as written. -/
  | number (n : Numeral)
  /-- A string. -/
  | string (s : String)
  /-- A string, or an object with a key, in which an escape names half of a surrogate pair. It is
  well written but stands for no text, so it can be skipped and not be used. -/
  | garbled
  /-- An array. -/
  | array (items : List Json)
  /-- An object: its entries in the order in which they are written. -/
  | object (entries : List (String × Json))

namespace Json

/-- The values that stand under a key, in order. -/
def valuesAt (key : String) (entries : List (String × Json)) : List Json :=
  (entries.filter (·.1 = key)).map (·.2)

/-- The text of a string. -/
def string? : Json → Option String
  | .string s => some s
  | _ => none

/-- The truth value. -/
def bool? : Json → Option Bool
  | .bool b => some b
  | _ => none

/-- The number. -/
def number? : Json → Option Numeral
  | .number n => some n
  | _ => none

/-- The items of an array. -/
def array? : Json → Option (List Json)
  | .array items => some items
  | _ => none

/-- The entries of an object. -/
def object? : Json → Option (List (String × Json))
  | .object entries => some entries
  | _ => none

/-- The value `null`. -/
def isNull : Json → Bool
  | .null => true
  | _ => false

end Json

end MetricLayer
