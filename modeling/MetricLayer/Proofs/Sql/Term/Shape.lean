import MetricLayer.Proofs.Sql.Term.Consumption

/-!
# The shape of terms

What decides whether the text of a term can be put in front of other text and is still read as that
term. A term is plain if it names nothing by a word that begins a special form, such as `CASE`: what
such a word means depends on the text behind it. A term closes at a level if every operator at its
right end binds at least as tight, so that an operator of that level behind the term is not taken
into it: `u.age + 1` closes at the level of comparisons, `u.teacher OR u.admin` does not.
-/

namespace MetricLayer.Term

/-! ## Plain terms -/

/-- The words that begin a form, or stand before the arguments of a call, and are read as names
where they do not. -/
def formWords : List String :=
  ["CASE", "CAST", "TRY_CAST", "SAFE_CAST", "EXTRACT", "NOT", "DISTINCT", "ALL"]

/-- The name does not begin with a word that begins a form. -/
def isPlainName : List Lexeme → Bool
  | .word w :: _ => Text.uppercase w ∉ formWords
  | _ => true

mutual

/-- No name in a term, of a column or of a function, begins with a word that begins a form. -/
def plain : Term → Bool
  | .name parts => isPlainName parts
  | literal _ => true
  | typed _ _ => true
  | unary _ t => t.plain
  | binary _ t u => t.plain && u.plain
  | test _ t => t.plain
  | distinctFrom _ t u => t.plain && u.plain
  | isIn _ t vs => t.plain && plainList vs
  | between _ t u v => t.plain && (u.plain && v.plain)
  | matching _ _ t u _ => t.plain && u.plain
  | .call parts _ args => isPlainName parts && plainList args
  | wildcard _ => true
  | cast t _ => t.plain
  | choice s bs o => plainOption s && (plainBranches bs && plainOption o)
  | group ts => plainList ts
  | extract _ t => t.plain
  | interval t _ => t.plain
  | suffixed t _ => t.plain
  | element t u => t.plain && u.plain

/-- A term is plain, if there is one. -/
def plainOption : Option Term → Bool
  | none => true
  | some t => t.plain

/-- All terms are plain. -/
def plainList : List Term → Bool
  | [] => true
  | t :: ts => t.plain && plainList ts

/-- All terms of some branches are plain. -/
def plainBranches : List (Term × Term) → Bool
  | [] => true
  | (t, u) :: bs => t.plain && (u.plain && plainBranches bs)

end

/-! ## The right end of a term -/

/-- How tight an operator before its operand binds. -/
def prefixLevel (op : String) : Nat :=
  if op = "NOT" then levelNot else levelProduct

/-- How tight an operator between two operands binds. -/
def binaryLevel (op : String) : Nat :=
  if op = "AT TIME ZONE" then levelZone else max (operatorLevel op) (wordLevel op [])

/-- The operators at the right end of a term bind at least as tight as `m`. -/
def closes (m : Nat) : Term → Bool
  | unary op t => op == "!" || (m ≤ prefixLevel op && t.closes m)
  | binary op _ u => m ≤ binaryLevel op && u.closes m
  | distinctFrom _ _ u => m == 0 && u.closes m
  | between _ _ _ v => m ≤ levelComparison && v.closes m
  | matching _ _ _ u none => m ≤ levelLike && u.closes m
  | interval t none => t.closes m
  | _ => true

/-- What closes at a level closes at every looser one. -/
theorem closes_of_le {m n : Nat} (hmn : m ≤ n) {t : Term} (h : t.closes n) : t.closes m := by
  fun_induction closes n t <;> grind [closes.eq_def]

/-! ## Levels -/

/-- No operator binds tighter than an operand without operators. -/
theorem levelOf_le (ls : List Lexeme) : levelOf ls ≤ levelPrimary := by
  grind [levelOf.eq_def, wordLevel.eq_def, operatorLevel, levelOr, levelAnd, levelNot, levelArrow,
    levelIs, levelLike, levelComparison, levelSum, levelProduct, levelZone, levelSuffix,
    levelPrimary]

/-- The words between operands bind as tight wherever they stand. -/
theorem wordLevel_eq_binaryLevel {k : String} (hk : k ∈ ["AND", "OR", "XOR", "OVERLAPS", "DIV"])
    (ls : List Lexeme) : wordLevel k ls = binaryLevel k := by
  simp only [List.mem_cons, List.not_mem_nil, or_false] at hk
  rcases hk with rfl | rfl | rfl | rfl | rfl <;> simp [wordLevel, binaryLevel, operatorLevel]

/-- The words that begin operators. -/
def operatorWords : List String :=
  ["OR", "AND", "XOR", "AT", "NOT", "IS", "IN", "BETWEEN", "OVERLAPS", "LIKE", "ILIKE", "RLIKE",
    "REGEXP", "SIMILAR", "DIV"]

/-- What is no word of an operator binds as a mark. -/
theorem wordLevel_of_notMem {k : String} (hk : k ∉ operatorWords) (ls : List Lexeme) :
    wordLevel k ls = 0 := by
  simp only [operatorWords, List.mem_cons, List.not_mem_nil, or_false, not_or] at hk
  simp [wordLevel, hk]

/-- Marks between operands bind as tight wherever they stand. -/
theorem operatorLevel_eq_binaryLevel {op : String} (hop : 0 < operatorLevel op) :
    operatorLevel op = binaryLevel op := by
  have hzero : ∀ k ∈ "AT TIME ZONE" :: operatorWords, operatorLevel k = 0 := by decide
  have hwords : op ∉ "AT TIME ZONE" :: operatorWords := fun h => Nat.ne_of_gt hop (hzero op h)
  rw [List.mem_cons, not_or] at hwords
  obtain ⟨hzone, hwords⟩ := hwords
  rw [binaryLevel, if_neg hzone, wordLevel_of_notMem hwords, Nat.max_zero]

end MetricLayer.Term
