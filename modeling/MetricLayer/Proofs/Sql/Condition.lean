import MetricLayer.Proofs.Items
import MetricLayer.Proofs.Sql.Operand

/-!
# Reading conditions

The text of a condition is read as the conjunction of its conjuncts: `Expr.readsAs_conjuncts`. Each
conjunct is read as a whole wherever it stands between `AND` (`IsConjunct`), and `AND` is taken in
one at a time, with what is read so far as its left operand (`opens_conjunction`).
-/

namespace MetricLayer

namespace Term

variable {more ls us vs : List Lexeme} {t u v : Term} {ts : List Term}

/-! ## Single conditions -/

/-- The elements are read as a term between other conditions: after `AND` or at the beginning, and
before `AND` or at the end. -/
def IsConjunct (ls : List Lexeme) (t : Term) : Prop :=
  ∀ min, min ≤ levelAnd → ∀ more : List Lexeme, (∀ l ∈ more.head?, l = .word "AND") →
    Opens min ls t more

/-- The word `AND` is a separator. -/
theorem mem_separators_of_and (hmore : ∀ l ∈ more.head?, l = .word "AND") :
    ∀ l ∈ more.head?, l ∈ separators := by
  intro l hl
  rw [hmore l hl]
  decide

/-- The word `AND` binds as tight as `AND`. -/
theorem levelOf_le_of_and (hmore : ∀ l ∈ more.head?, l = .word "AND") :
    levelOf more ≤ levelAnd := by
  have hupper : Text.uppercase "AND" = "AND" := Text.uppercase_eq_self (by decide)
  cases more with
  | nil => exact Nat.zero_le _
  | cons l more =>
    rw [hmore l rfl]
    simp [levelOf, hupper, wordLevel]

/-- A placeholder ends before `AND`. -/
theorem reads_placeholder_and (p : String) (hmore : ∀ l ∈ more.head?, l = .word "AND") {min : Nat}
    (hmin : levelAnd ≤ min) :
    Reads (readAbove · min) [.placeholder p] (.literal (.placeholder p)) more :=
  (reads_placeholder p more).above (collate_eq_none (mem_separators_of_and hmore))
    ((levelOf_le_of_and hmore).trans hmin)

/-- A comparison with a placeholder is a conjunct. -/
theorem Compares.comparison {op : String} (h : Compares levelComparison ls t)
    (hop : op ∈ separatorMarks) (p : String) :
    IsConjunct (ls ++ [.operator op, .placeholder p])
      (.binary op t (.literal (.placeholder p))) := by
  have hmarks : ∀ op ∈ separatorMarks, operatorLevel op = levelComparison ∧
      op ∉ ["::", "!", "["] ∧ .operator op ∈ separators := by decide
  obtain ⟨hlevel, hmark, hseparator⟩ := hmarks op hop
  intro min hmin more hmore
  have hfollows : Follows (.operator op :: .placeholder p :: more) :=
    follows_operator hseparator (by simp) (by simp) (by simp)
  have hopens := h min hmin (.operator op :: .placeholder p :: more) hfollows hlevel.le
  have hless : levelAnd < operatorLevel op := hlevel ▸ (by decide : levelAnd < levelComparison)
  exact hopens.mark hmark (hmin.trans_lt hless) (reads_placeholder_and p hmore hless.le)

/-- Placeholders with commas between them are items. -/
theorem readsItems_placeholders (p : String) (ps : List String) (more : List Lexeme) :
    ReadsItems (readAbove · 0) ([.comma].intercalate ((p :: ps).map fun p => [.placeholder p]))
      ((p :: ps).map fun p => .literal (.placeholder p)) more := by
  induction ps generalizing p with
  | nil =>
    have hplaceholder : Reads (readAbove · 0) [.placeholder p] (.literal (.placeholder p))
        (.rparen :: more) := (reads_placeholder p _).above rfl (Nat.zero_le 0)
    simpa using hplaceholder.items
  | cons q qs ih =>
    have hplaceholder : Reads (readAbove · 0) [.placeholder p] (.literal (.placeholder p))
        (.comma :: ([.comma].intercalate ((q :: qs).map fun p => [.placeholder p]) ++
          .rparen :: more)) := (reads_placeholder p _).above rfl (Nat.zero_le 0)
    have hitems := ReadsItems.cons hplaceholder (ih q)
    simpa [List.intercalate_cons_cons] using hitems

/-- Membership in a list of placeholders is a conjunct. -/
theorem Compares.isIn (h : Compares levelComparison ls t) (p : String) (ps : List String) :
    IsConjunct (ls ++ .word "IN" :: .lparen ::
        ([.comma].intercalate ((p :: ps).map fun p => [.placeholder p]) ++ [.rparen]))
      (.isIn false t ((p :: ps).map fun p => .literal (.placeholder p))) := by
  have hupper : Text.uppercase "IN" = "IN" := Text.uppercase_eq_self (by decide)
  have hless : levelAnd < levelComparison := by decide
  intro min hmin more hmore
  refine Opens.isIn (h min hmin _ (follows_operator (by decide) (by simp) (by simp) (by simp)) ?_)
    (hmin.trans_lt hless) (readsItems_placeholders p ps more)
  simp [levelOf, hupper, wordLevel]

/-- Membership in an interval of placeholders is a conjunct. -/
theorem Compares.between (h : Compares levelComparison ls t) (p q : String) :
    IsConjunct (ls ++ .word "BETWEEN" :: ([.placeholder p] ++ .word "AND" :: [.placeholder q]))
      (.between false t (.literal (.placeholder p)) (.literal (.placeholder q))) := by
  have hupper : Text.uppercase "BETWEEN" = "BETWEEN" :=
    Text.uppercase_eq_self (by decide)
  have hless : levelAnd < levelComparison := by decide
  intro min hmin more hmore
  refine Opens.between (h min hmin _ (follows_operator (by decide) (by simp) (by simp) (by simp)) ?_)
    (hmin.trans_lt hless) (reads_placeholder_and p (by simp) hless.le)
    (reads_placeholder_and q hmore hless.le)
  simp [levelOf, hupper, wordLevel]

/-- A match with a pattern under an escape literal is a conjunct. -/
theorem Compares.matching {w : String} (h : Compares levelLike ls t) (hw : w ∈ ["LIKE", "ILIKE"])
    (hus : ∀ more, Reads (fun depth => readPrimary (readAbove depth)) us u more)
    (hperiod : us.head? ≠ some .period) (k s : String) :
    IsConjunct (ls ++ .word w :: (us ++ [.word "ESCAPE", .string k s]))
      (.matching false w t u (some (.string k s))) := by
  have hwords : ∀ w ∈ ["LIKE", "ILIKE"], .word w ∈ separators ∧ Text.uppercase w = w := by
    decide +kernel
  have hescape : Text.uppercase "ESCAPE" = "ESCAPE" := Text.uppercase_eq_self (by decide)
  obtain ⟨hseparator, hupper⟩ := hwords w hw
  have hless : levelAnd < levelLike := by decide
  intro min hmin more hmore
  have hfollows : Follows (.word w :: (us ++ .word "ESCAPE" :: .string k s :: more)) := by
    refine follows_operator hseparator (by simp) (by simp) ?_
    cases us with
    | nil => simp
    | cons l us => simpa using hperiod
  have hlevel : levelOf (.word w :: (us ++ .word "ESCAPE" :: .string k s :: more)) ≤ levelLike := by
    simp only [List.mem_cons, List.not_mem_nil, or_false] at hw
    rw [levelOf, hupper]
    rcases hw with rfl | rfl <;> simp [wordLevel]
  have hpattern : Reads (readAbove · levelLike) us u (.word "ESCAPE" :: .string k s :: more) := by
    refine (hus _).above ?_ ?_
    · simp [afterKeyword?, Lexeme.isKeyword, hescape]
    · simp [levelOf, hescape, wordLevel]
  exact Opens.matching hw (h min hmin _ hfollows hlevel) (hmin.trans_lt hless) hpattern

/-- A placeholder in lower case is an operand. -/
theorem reads_loweredPlaceholder (p : String) (more : List Lexeme) :
    Reads (fun depth => readPrimary (readAbove depth))
      (.word (Text.uppercase "LOWER") :: .lparen :: ([.placeholder p] ++ [.rparen]))
      (apply "LOWER" [.literal (.placeholder p)]) more := by
  have hlower : "LOWER" ∈ functionNames := by decide
  have hplaceholder := (reads_placeholder p (.rparen :: more)).above rfl (Nat.zero_le 0)
  exact (hplaceholder.argument (by simp)).items.call hlower ⟨_, _, rfl, by simp, rfl, rfl⟩

/-! ## Conjunctions -/

/-- Conjuncts are taken in one after the other. -/
theorem opens_conjunction {lss : List (List Lexeme)} (h : List.Forall₂ IsConjunct lss ts)
    (hls : Opens 0 ls t (lss.flatMap (.word "AND" :: ·))) :
    Opens 0 (ls ++ lss.flatMap (.word "AND" :: ·)) (ts.foldl (.binary "AND") t) [] := by
  induction h generalizing ls t with
  | nil => simpa using hls
  | @cons us u lss ts hus _ ih =>
    have hmore : ∀ l ∈ (lss.flatMap (.word "AND" :: ·)).head?, l = .word "AND" := by
      cases lss with
      | nil => simp
      | cons vs lss => simp
    have hright := (hus levelAnd (Nat.le_refl _) _ hmore).reads (levelOf_le_of_and hmore)
    have hnext := ih (Opens.and (by simpa using hls) (by decide) hright)
    simpa using hnext

/-- The conjuncts of a conjunction. -/
theorem conjuncts_foldl (t : Term) (ts : List Term) :
    (ts.foldl (.binary "AND") t).conjuncts = t.conjuncts ++ ts.flatMap conjuncts := by
  induction ts generalizing t with
  | nil => simp
  | cons u ts ih =>
    rw [List.foldl_cons, ih]
    simp [conjuncts]

end Term

/-! ## Expressions -/

namespace Expr

variable {d : Dialect}

/-- An expression is read as its term, as one conjunct. -/
structure IsConjunct (d : Dialect) (e : Expr) (t : Term) : Prop where
  /-- The term is that of the expression. -/
  term : e.term? d = some t
  /-- It is read wherever the expression stands between others. -/
  reads : Term.IsConjunct (e.lexemes d) t
  /-- It is no conjunction. -/
  single : t.conjuncts = [t]

/-- The elements of a conjunction. -/
theorem lexemes_and (left right : Expr) :
    (binary .and left right).lexemes d = left.lexemes d ++ .word "AND" :: right.lexemes d := by
  simp [lexemes, tokens, BinaryOp.token, Tokens.lexemes, Token.lexemes, Keyword.lexemes,
    Keyword.text]

/-- The elements of an expression are those of its conjuncts with `AND` between them. -/
theorem exists_conjuncts (d : Dialect) (e : Expr) :
    ∃ c cs, e.conjuncts = c :: cs ∧
      e.lexemes d = c.lexemes d ++ (cs.map (lexemes d)).flatMap (.word "AND" :: ·) := by
  fun_induction conjuncts e with
  | case1 left right ihl ihr =>
    obtain ⟨c, cs, hc, hleft⟩ := ihl
    obtain ⟨c', cs', hc', hright⟩ := ihr
    refine ⟨c, cs ++ c' :: cs', by rw [hc, hc', List.cons_append], ?_⟩
    rw [lexemes_and, hleft, hright]
    simp
  | case2 e => exact ⟨e, [], rfl, by simp⟩

/-- A condition is read as the conjunction of its conjuncts, if each of them is one. -/
theorem readsAs_conjuncts {e : Expr} (h : ∀ c ∈ e.conjuncts, ∃ t, c.IsConjunct d t) :
    ∃ t, Term.ReadsAs (e.lexemes d) t ∧
      List.Forall₂ (fun c u => c.term? d = some u) e.conjuncts t.conjuncts := by
  obtain ⟨ts, hts⟩ := exists_results_iff.2 h
  obtain ⟨c, cs, hcs, hlexemes⟩ := exists_conjuncts d e
  rw [hcs] at hts ⊢
  cases hts with
  | @cons _ t _ ts hc hrest =>
    have hconjuncts : List.Forall₂ Term.IsConjunct (cs.map (lexemes d)) ts :=
      List.forall₂_map_left_iff.2 (hrest.imp fun _ _ h => h.reads)
    have hmore : ∀ l ∈ ((cs.map (lexemes d)).flatMap (.word "AND" :: ·)).head?, l = .word "AND" := by
      cases cs <;> simp
    have hopens := Term.opens_conjunction hconjuncts (hc.reads 0 (Nat.zero_le _) _ hmore)
    have hreads := hopens.reads (Nat.le_refl 0)
    have hsingle : ts.flatMap Term.conjuncts = ts := by
      clear hconjuncts hmore hopens hreads hlexemes hcs
      induction hrest with
      | nil => rfl
      | cons h _ ih => rw [List.flatMap_cons, h.single, ih, List.singleton_append]
    refine ⟨ts.foldl (.binary "AND") t, ?_, ?_⟩
    · rw [hlexemes]
      simpa [Term.ReadsAs, Term.Reads, Filter.eventually_atTop] using hreads
    · rw [Term.conjuncts_foldl, hc.single, hsingle]
      exact .cons hc.term (hrest.imp fun _ _ h => h.term)

end Expr

end MetricLayer
