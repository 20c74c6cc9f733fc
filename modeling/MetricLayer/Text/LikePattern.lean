/-!
# LIKE patterns

A pattern in which `%` stands for any run of characters, `_` for any one character, and the escape
character takes the next character literally. `likeMatches` is the meaning of a pattern, and
`likeEscaped` writes a text so that it stands for itself.
-/

namespace MetricLayer.Text

/-- The character that takes the next one literally in a pattern. -/
def likeEscape : Char := '\\'

/-- A character with a meaning of its own in a pattern. -/
def isLikeSpecial (c : Char) : Bool :=
  c == likeEscape || c == '%' || c == '_'

/-- The characters with an escape character before each one that has a meaning of its own. -/
def likeEscapedChars : List Char → List Char
  | [] => []
  | c :: cs =>
    if isLikeSpecial c then likeEscape :: c :: likeEscapedChars cs else c :: likeEscapedChars cs

/-- The text as a pattern that matches nothing but the text. -/
def likeEscaped (s : String) : String :=
  String.ofList (likeEscapedChars s.toList)

/-- The pattern of the texts that contain `s`. -/
def containsPattern (s : String) : String :=
  "%" ++ likeEscaped s ++ "%"

/-- One step of a pattern. -/
inductive LikeItem where
  /-- Any run of characters. -/
  | anyRun
  /-- Any one character. -/
  | anyOne
  /-- The character itself. -/
  | only (c : Char)
  deriving DecidableEq, Repr

/-- The steps of a pattern under an escape character; none if an escape character ends it. -/
def likeItems? (escape : Char) : List Char → Option (List LikeItem)
  | [] => some []
  | [c] =>
    if c = escape then none
    else some [if c = '%' then .anyRun else if c = '_' then .anyOne else .only c]
  | c :: d :: cs =>
    if c = escape then (likeItems? escape cs).map (LikeItem.only d :: ·)
    else
      (likeItems? escape (d :: cs)).map
        ((if c = '%' then .anyRun else if c = '_' then .anyOne else .only c) :: ·)

/-- The steps match the whole of the text. -/
def likeMatches : List LikeItem → List Char → Bool
  | [], cs => cs.isEmpty
  | .anyRun :: items, [] => likeMatches items []
  | .anyRun :: items, c :: cs => likeMatches items (c :: cs) || likeMatches (.anyRun :: items) cs
  | .anyOne :: _, [] => false
  | .anyOne :: items, _ :: cs => likeMatches items cs
  | .only _ :: _, [] => false
  | .only d :: items, c :: cs => c == d && likeMatches items cs

end MetricLayer.Text
