/-!
# Quoted text

A text between two quote characters, in which a quote that belongs to the text is written twice.
`quoted` writes the form and `readQuoted` reads it: `readQuoted_quotedChars` says that what was
written is read back, whatever follows, unless another quote follows.
-/

namespace MetricLayer.Text

/-- The characters with every `q` written twice. -/
def doubled (q : Char) : List Char → List Char
  | [] => []
  | c :: cs => if c = q then q :: q :: doubled q cs else c :: doubled q cs

/-- The characters between quotes, an inner quote written twice. -/
def quotedChars (q : Char) (cs : List Char) : List Char :=
  q :: (doubled q cs ++ [q])

/-- The text between quotes, an inner quote written twice. -/
def quoted (q : Char) (s : String) : String :=
  String.ofList (quotedChars q s.toList)

/-- Reads to the closing quote: the text and what follows it. A doubled quote is one quote of the
text, and there is no answer if the closing quote is missing. -/
def readQuotedBody (q : Char) : List Char → Option (List Char × List Char)
  | [] => none
  | [c] => if c = q then some ([], []) else none
  | c :: d :: cs =>
    if c = q then
      if d = q then (readQuotedBody q cs).map fun (body, rest) => (q :: body, rest)
      else some ([], d :: cs)
    else (readQuotedBody q (d :: cs)).map fun (body, rest) => (c :: body, rest)

/-- Reads a text between quotes. -/
def readQuoted (q : Char) : List Char → Option (List Char × List Char)
  | [] => none
  | c :: cs => if c = q then readQuotedBody q cs else none

/-- The text written between quotes is read back, and what follows is left. -/
theorem readQuotedBody_doubled {q : Char} {rest : List Char} (hrest : rest.head? ≠ some q) :
    ∀ cs : List Char, readQuotedBody q (doubled q cs ++ q :: rest) = some (cs, rest)
  | [] => by
    cases rest with
    | nil => simp [doubled, readQuotedBody]
    | cons d ds =>
      have hd : d ≠ q := by simpa using hrest
      simp [doubled, readQuotedBody, hd]
  | c :: cs => by
    have ih := readQuotedBody_doubled hrest cs
    by_cases hc : c = q
    · simp [doubled, readQuotedBody, hc, ih]
    · cases hds : doubled q cs ++ q :: rest with
      | nil => simp at hds
      | cons d ds =>
        rw [hds] at ih
        simp [doubled, readQuotedBody, hc, hds, ih]

/-- What `quotedChars` writes, `readQuoted` reads back. -/
theorem readQuoted_quotedChars {q : Char} {rest : List Char} (hrest : rest.head? ≠ some q)
    (cs : List Char) : readQuoted q (quotedChars q cs ++ rest) = some (cs, rest) := by
  simp [readQuoted, quotedChars, readQuotedBody_doubled hrest]

end MetricLayer.Text
