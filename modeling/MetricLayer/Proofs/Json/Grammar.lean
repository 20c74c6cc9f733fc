import MetricLayer.Json.Reader

/-!
# The grammar of JSON

Which characters are a text of a JSON value: `Json.IsElement` for a value with blanks around it, and
`Json.IsText` for a whole text. Blanks may stand before and after every value, key and mark, a
string may escape its characters in any way that there is, and a number is taken digit by digit. So
a value has many texts.
-/

namespace MetricLayer.Json

/-- Blanks, if there are characters at all. -/
def IsBlanks (cs : List Char) : Prop :=
  ∀ c ∈ cs, c = ' ' ∨ c = '\t' ∨ c = '\n' ∨ c = '\r'

/-! ## Numbers -/

/-- Digits: at least one. -/
def IsDigits (cs : List Char) : Prop :=
  cs ≠ [] ∧ ∀ c ∈ cs, c.isDigit = true

/-- The digits before the point: a zero, or digits that do not begin with zero. -/
def IsWhole (cs : List Char) : Prop :=
  cs = ['0'] ∨ IsDigits cs ∧ cs.head? ≠ some '0'

/-- The text of an exponent: a letter, and digits with or without a sign. -/
inductive IsExponent : List Char → Option Int → Prop
  /-- There is no exponent. -/
  | absent : IsExponent [] none
  /-- There is no sign. -/
  | unsigned {e : Char} {ds : List Char} (he : e = 'e' ∨ e = 'E') (hds : IsDigits ds) :
    IsExponent (e :: ds) (some (Nat.ofDigitChars 10 ds 0 : Int))
  /-- There is a plus sign. -/
  | plus {e : Char} {ds : List Char} (he : e = 'e' ∨ e = 'E') (hds : IsDigits ds) :
    IsExponent (e :: '+' :: ds) (some (Nat.ofDigitChars 10 ds 0 : Int))
  /-- There is a minus sign. -/
  | minus {e : Char} {ds : List Char} (he : e = 'e' ∨ e = 'E') (hds : IsDigits ds) :
    IsExponent (e :: '-' :: ds) (some (-(Nat.ofDigitChars 10 ds 0 : Int)))

/-- The text of a number: a minus sign or none, whole digits, a point with digits or none, and an
exponent or none. -/
inductive IsNumber : List Char → Numeral → Prop
  /-- The parts of a number follow each other. -/
  | intro {negative : Bool} {whole fraction exponent : List Char} {e : Option Int}
      (hwhole : IsWhole whole) (hfraction : fraction = [] ∨ IsDigits fraction)
      (hexponent : IsExponent exponent e) :
    IsNumber ((if negative then ['-'] else []) ++
      (whole ++ (Numeral.fractionChars fraction ++ exponent))) ⟨negative, whole, fraction, e⟩

/-! ## Strings -/

/-- What stands between the quotes of a string, piece by piece. -/
inductive IsPieces : List Char → List StringPiece → Prop
  /-- Nothing is left. -/
  | nil : IsPieces [] []
  /-- A character stands for itself, unless it is a quote, a backslash or a control character. -/
  | char {c : Char} {cs : List Char} {ps : List StringPiece}
      (hc : c ≠ '"' ∧ c ≠ '\\' ∧ 0x20 ≤ c.toNat) (h : IsPieces cs ps) :
    IsPieces (c :: cs) (.char c :: ps)
  /-- A character is escaped by a letter. -/
  | escape {e c : Char} {cs : List Char} {ps : List StringPiece} (he : letterEscape? e = some c)
      (h : IsPieces cs ps) : IsPieces ('\\' :: e :: cs) (.char c :: ps)
  /-- A code is given by four hexadecimal digits. -/
  | code {a b c d : Char} {n : Nat} {cs : List Char} {ps : List StringPiece}
      (hn : hexCode? a b c d = some n) (h : IsPieces cs ps) :
    IsPieces ('\\' :: 'u' :: a :: b :: c :: d :: cs) (.code n :: ps)

/-- The text of a string with its quotes; it stands for no text if a surrogate is alone. -/
inductive IsString : List Char → Option String → Prop
  /-- The pieces stand between quotes. -/
  | intro {cs : List Char} {ps : List StringPiece} (h : IsPieces cs ps) :
    IsString ('"' :: (cs ++ ['"'])) ((joinPieces ps).map String.ofList)

/-- The text of a key, with blanks around it. -/
inductive IsKey : List Char → Option String → Prop
  /-- Blanks stand around a string. -/
  | intro {b cs b' : List Char} {k : Option String} (hb : IsBlanks b) (h : IsString cs k)
      (hb' : IsBlanks b') : IsKey (b ++ (cs ++ b')) k

/-! ## Values -/

mutual

/-- The text of a value, without blanks around it. -/
inductive IsValue : List Char → Json → Prop
  /-- The word for `null`. -/
  | nullWord : IsValue ['n', 'u', 'l', 'l'] .null
  /-- The word for the truth. -/
  | trueWord : IsValue ['t', 'r', 'u', 'e'] (.bool true)
  /-- The word for the falsehood. -/
  | falseWord : IsValue ['f', 'a', 'l', 's', 'e'] (.bool false)
  /-- A number. -/
  | number {cs : List Char} {n : Numeral} (h : IsNumber cs n) : IsValue cs (.number n)
  /-- A string. -/
  | string {cs : List Char} {s : Option String} (h : IsString cs s) :
    IsValue cs (s.elim .garbled .string)
  /-- An array without items. -/
  | emptyArray {b : List Char} (hb : IsBlanks b) : IsValue ('[' :: (b ++ [']'])) (.array [])
  /-- An array with items. -/
  | array {cs : List Char} {vs : List Json} (h : IsElements cs vs) :
    IsValue ('[' :: (cs ++ [']'])) (.array vs)
  /-- An object without entries. -/
  | emptyObject {b : List Char} (hb : IsBlanks b) :
    IsValue ('\x7b' :: (b ++ ['\x7d'])) (.object [])
  /-- An object with entries. -/
  | object {cs : List Char} {es : List (Option String × Json)} (h : IsMembers cs es) :
    IsValue ('\x7b' :: (cs ++ ['\x7d'])) (ofEntries es)

/-- The text of a value, with blanks around it. -/
inductive IsElement : List Char → Json → Prop
  /-- Blanks stand around a value. -/
  | intro {b cs b' : List Char} {v : Json} (hb : IsBlanks b) (h : IsValue cs v)
      (hb' : IsBlanks b') : IsElement (b ++ (cs ++ b')) v

/-- The text of the items of an array: at least one, with commas between them. -/
inductive IsElements : List Char → List Json → Prop
  /-- The last item. -/
  | last {cs : List Char} {v : Json} (h : IsElement cs v) : IsElements cs [v]
  /-- An item before others. -/
  | cons {cs ds : List Char} {v : Json} {vs : List Json} (h : IsElement cs v)
      (hs : IsElements ds vs) : IsElements (cs ++ ',' :: ds) (v :: vs)

/-- The text of the entries of an object: at least one, with commas between them. -/
inductive IsMembers : List Char → List (Option String × Json) → Prop
  /-- The last entry. -/
  | last {ks cs : List Char} {k : Option String} {v : Json} (hk : IsKey ks k)
      (h : IsElement cs v) : IsMembers (ks ++ ':' :: cs) [(k, v)]
  /-- An entry before others. -/
  | cons {ks cs ds : List Char} {k : Option String} {v : Json}
      {es : List (Option String × Json)} (hk : IsKey ks k) (h : IsElement cs v)
      (hs : IsMembers ds es) : IsMembers (ks ++ ':' :: (cs ++ ',' :: ds)) ((k, v) :: es)

end

/-- The text is one of the value, with blanks around it. -/
def IsText (s : String) (v : Json) : Prop :=
  IsElement s.toList v

end MetricLayer.Json
