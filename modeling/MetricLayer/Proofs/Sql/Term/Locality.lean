import MetricLayer.Proofs.Sql.Term.Operand

/-!
# Expressions in front of other text

A plain expression that is read to its end is read as the same operand in front of a separator, if
it closes at the level of the operator that the separator begins, and then the operators of what
follows are read: `readLevel_append`. If these do not bind tight enough to be read, the expression
ends there: `extends_readAbove`, by induction on the depth.

A reader only goes on from a part to a larger term that holds it on the left, so the part is plain
if the term is (`plain_of_readRest`).
-/

namespace MetricLayer.Term

variable {more ls rest : List Lexeme} {k : String} {t u : Term}

/-! ## The left operand -/

section

variable {read : OperandReader} {negated : Bool}

/-- The operand of a test is plain if the test is. -/
theorem plain_of_readIsTest {tests : List (List String)}
    (h : readIsTest u ls tests = some (t, rest)) (ht : t.plain) : u.plain := by
  induction tests with
  | nil => cases h
  | cons words tests ih =>
    rw [readIsTest] at h
    split at h
    · obtain ⟨rfl, rfl⟩ := Prod.mk.inj (Option.some.inj h)
      exact ht
    · exact ih h

/-- The operand before `IS` is plain if the whole is. -/
theorem plain_of_readIs (h : readIs read u ls = some (t, rest)) (ht : t.plain) : u.plain := by
  unfold readIs at h
  split at h
  case h_1 r hr =>
    obtain rfl := Option.some.inj h
    exact plain_of_readIsTest hr ht
  case h_2 => grind [plain, Option.map_eq_some_iff]

/-- The operand of a match is plain if the match is. -/
theorem plain_of_readPattern {op : String}
    (h : readPattern read negated op u ls = some (t, rest)) (ht : t.plain) : u.plain := by
  simp only [readPattern, Option.bind_eq_bind, Option.bind_eq_some_iff, Prod.exists] at h
  grind [plain]

/-- The operand of a membership, an interval or a match is plain if the whole is. -/
theorem plain_of_readPredicate (h : readPredicate read negated k u ls = some (t, rest))
    (ht : t.plain) : u.plain := by
  unfold readPredicate at h
  split_ifs at h with hin hbetween hlike hregexp hsimilar
  · grind [plain, Option.map_eq_some_iff]
  · simp only [readBetween, Option.bind_eq_bind, Option.bind_eq_some_iff, Prod.exists] at h
    grind [plain]
  · exact plain_of_readPattern h ht
  · grind [plain, Option.map_eq_some_iff]
  · obtain ⟨ls₁, -, h⟩ := Option.bind_eq_some_iff.1 h
    exact plain_of_readPattern h ht

/-- The operand before an operator is plain if the whole is. -/
theorem plain_of_readOperator {level : Nat} (h : readOperator read level u ls = some (t, rest))
    (ht : t.plain) : u.plain := by
  unfold readOperator at h
  split at h
  case h_1 w ls =>
    unfold readWordOperator at h
    split_ifs at h with hbinary his hat hnot
    · grind [plain, Option.map_eq_some_iff]
    · exact plain_of_readIs h ht
    · simp only [Option.bind_eq_bind, Option.bind_eq_some_iff] at h
      grind [plain, Option.map_eq_some_iff]
    · split at h
      · exact plain_of_readPredicate h ht
      · cases h
    · exact plain_of_readPredicate h ht
  case h_2 op ls =>
    unfold readMarkOperator at h
    split_ifs at h with hcast hbang helement
    · grind [plain, Option.map_eq_some_iff]
    · grind [plain]
    · grind [plain]
    · grind [plain, Option.map_eq_some_iff]
  case h_3 => cases h

/-- The operand before operators is plain if the whole is. -/
theorem plain_of_readRest {min : Nat} (h : readRest read min u ls = some (t, rest))
    (ht : t.plain) : u.plain := by
  unfold readRest at h
  generalize ls.length + 1 = n at h
  induction n generalizing u ls with
  | zero =>
    obtain ⟨rfl, rfl⟩ := Prod.mk.inj (Option.some.inj h)
    exact ht
  | succ n ih =>
    rw [readOperators] at h
    split at h
    · obtain ⟨rfl, rfl⟩ := Prod.mk.inj (Option.some.inj h)
      exact ht
    · split at h
      case h_1 u₁ ls₁ hstep => exact plain_of_readOperator hstep (ih h)
      case h_2 => cases h

/-- The operand before a collation is plain if the whole is. -/
theorem plain_of_readCollation (h : readCollation u ls = some (t, rest)) (ht : t.plain) :
    u.plain := by
  grind [readCollation.eq_def, plain, Option.map_eq_some_iff]

end

/-! ## Levels in front of other text -/

/-- The operator that some elements begin with is the same in front of others. -/
theorem levelOf_append (hmore : Follows more) (hls : ls ≠ []) (h : ¬ Dangling ls) :
    levelOf (ls ++ more) = levelOf ls := by
  obtain ⟨l, ls, rfl⟩ := List.exists_cons_of_ne_nil hls
  cases l with
  | word w =>
    have hzone := afterKeywords?_append hmore ["TIME", "ZONE"] (by decide) ls
    have hnot : Text.uppercase w = "NOT" → ls ≠ [] := by
      rintro hw rfl
      exact h ⟨_, rfl, by simpa [Lexeme.isKeyword] using hw⟩
    simp only [List.cons_append, levelOf, wordLevel, hzone, Option.isSome_map]
    by_cases hw : Text.uppercase w = "NOT"
    · obtain ⟨l', ls, rfl⟩ := List.exists_cons_of_ne_nil (hnot hw)
      cases l' <;> simp
    · simp [hw]
  | _ => rfl

/-- The word `NOT` alone begins no operator. -/
theorem levelOf_of_dangling (h : Dangling ls) : levelOf ls = 0 := by
  obtain ⟨l, rfl, hl⟩ := h
  cases l with
  | word w =>
    have hw : Text.uppercase w = "NOT" := by simpa [Lexeme.isKeyword] using hl
    simp [levelOf, wordLevel, hw]
  | _ => cases hl

/-- No operators are read that do not bind tight enough. -/
theorem readRest_of_levelOf_le {read : OperandReader} {min : Nat} (h : levelOf ls ≤ min) :
    readRest read min t ls = some (t, ls) := by
  rw [readRest, readOperators, if_pos h]

/-- No collation begins with the word `NOT`. -/
theorem readCollation_of_dangling (h : Dangling ls) : readCollation u ls = some (u, ls) := by
  obtain ⟨l, rfl, hl⟩ := h
  have hcollate : l.isKeyword "COLLATE" = false := by
    cases l with
    | word w =>
      have hw : Text.uppercase w = "NOT" := by simpa [Lexeme.isKeyword] using hl
      simp [Lexeme.isKeyword, hw]
    | _ => rfl
  simp [readCollation, afterKeyword?, hcollate]

/-! ## Operators -/

section

variable {read read' : OperandReader} {min level : Nat} {negated : Bool}
variable (hmore : Follows more) (hread : Extends more read read')

include hmore

/-- A test is made in front of other elements. -/
theorem readIsTest_append (u : Term) (ls : List Lexeme) (tests : List (List String))
    (htests : ∀ words ∈ tests, ∀ k ∈ words, k ∉ separatorWords) :
    readIsTest u (ls ++ more) tests =
      (readIsTest u ls tests).map fun p => (p.1, p.2 ++ more) := by
  induction tests with
  | nil => rfl
  | cons words tests ih =>
    obtain ⟨hwords, htests⟩ := List.forall_mem_cons.1 htests
    have happend := afterKeywords?_append hmore words hwords ls
    unfold readIsTest
    rw [happend]
    cases afterKeywords? words ls with
    | some rest => rfl
    | none => exact ih htests

/-- A keyword that may be there is taken in front of other elements. -/
theorem takeKeyword_append (hk : k ∉ separatorWords) (ls : List Lexeme) :
    takeKeyword k (ls ++ more) = ((takeKeyword k ls).1, (takeKeyword k ls).2 ++ more) := by
  unfold takeKeyword
  rw [afterKeyword?_append hmore hk]
  cases afterKeyword? k ls <;> rfl

include hread

/-- What follows `IS` is read in front of other elements. -/
theorem readIs_append (h : readIs read u ls = some (t, rest)) (ht : t.plain)
    (hrest : Ends more t rest) : readIs read' u (ls ++ more) = some (t, rest ++ more) := by
  have htest := readIsTest_append hmore u ls isTests (by decide)
  unfold readIs at h ⊢
  rw [htest]
  split at h
  case h_1 r hr =>
    obtain rfl := Option.some.inj h
    simp [hr]
  case h_2 hr =>
    rw [hr, takeKeyword_append hmore (by decide)]
    cases hnegated : takeKeyword "NOT" ls with
    | mk negated ls₁ =>
      have hdistinct := afterKeywords?_append hmore ["DISTINCT", "FROM"] (by decide) ls₁
      simp only [hnegated, hdistinct] at h ⊢
      split at h
      case h_1 ls₂ hfrom =>
        obtain ⟨⟨v, ls₃⟩, hv, h⟩ := Option.map_eq_some_iff.1 h
        obtain ⟨rfl, rfl⟩ := Prod.mk.inj h
        simp only [plain, Bool.and_eq_true] at ht
        have hv' := hread.last hv ht.2 hrest fun h => by simpa [closes] using h
        simp [hfrom, hv']
      case h_2 => cases h

omit hmore in
/-- An interval is read in front of other elements. -/
theorem readBetween_append (h : readBetween read negated u ls = some (t, rest)) (ht : t.plain)
    (hrest : Ends more t rest) :
    readBetween read' negated u (ls ++ more) = some (t, rest ++ more) := by
  simp only [readBetween, Option.bind_eq_bind, Option.bind_eq_some_iff, Prod.exists] at h
  obtain ⟨low, ls₁, hlow, ls₂, hand, high, ls₃, hhigh, h⟩ := h
  obtain ⟨rfl, rfl⟩ := Prod.mk.inj (Option.some.inj h)
  simp only [plain, Bool.and_eq_true] at ht
  have hlow' := hread.inner hlow ht.2.1 (inner_of_afterKeyword? hand (by decide))
  have hand' := afterKeyword?_append_of_some more hand
  have hhigh' := hread.last hhigh ht.2.2 hrest fun h => by simpa [closes] using h
  simp [readBetween, hlow', hand', hhigh']

omit hread in
/-- An escape literal is read in front of other elements. -/
theorem readEscape_append {o : Option Lexeme} (h : readEscape ls = some (o, rest)) :
    readEscape (ls ++ more) = some (o, rest ++ more) := by
  have hescape := afterKeyword?_append hmore (k := "ESCAPE") (by decide) ls
  unfold readEscape at h ⊢
  rw [hescape]
  split at h
  case h_1 k s ls₁ hk =>
    obtain ⟨rfl, rfl⟩ := Prod.mk.inj (Option.some.inj h)
    simp [hk]
  case h_2 => cases h
  case h_3 hk =>
    obtain ⟨rfl, rfl⟩ := Prod.mk.inj (Option.some.inj h)
    simp [hk]

omit hmore hread in
/-- Without an escape literal nothing is taken in for it. -/
theorem eq_of_readEscape (h : readEscape ls = some (none, rest)) : ls = rest := by
  unfold readEscape at h
  split at h
  case h_1 => cases h
  case h_2 => cases h
  case h_3 => exact (Prod.mk.inj (Option.some.inj h)).2

omit hmore hread in
/-- Before an escape literal something is left. -/
theorem inner_of_readEscape {l : Lexeme} (h : readEscape ls = some (some l, rest)) : Inner ls := by
  unfold readEscape at h
  split at h
  case h_1 hk => exact inner_of_afterKeyword? hk (by decide)
  case h_2 => cases h
  case h_3 => cases h

/-- A pattern is read in front of other elements. -/
theorem readPattern_append {op : String} (h : readPattern read negated op u ls = some (t, rest))
    (ht : t.plain) (hrest : Ends more t rest) :
    readPattern read' negated op u (ls ++ more) = some (t, rest ++ more) := by
  simp only [readPattern, Option.bind_eq_bind, Option.bind_eq_some_iff, Prod.exists] at h
  obtain ⟨pattern, ls₁, hpattern, escape, ls₂, hescape, h⟩ := h
  obtain ⟨rfl, rfl⟩ := Prod.mk.inj (Option.some.inj h)
  simp only [plain, Bool.and_eq_true] at ht
  have hescape' := readEscape_append hmore hescape
  have hpattern' : read' levelLike (ls ++ more) = some (pattern, ls₁ ++ more) := by
    cases escape with
    | none =>
      obtain rfl := eq_of_readEscape hescape
      exact hread.last hpattern ht.2 hrest fun h => by simpa [closes] using h
    | some l => exact hread.inner hpattern ht.2 (inner_of_readEscape hescape)
  simp [readPattern, hpattern', hescape']

/-- A membership, an interval or a match is read in front of other elements. -/
theorem readPredicate_append (h : readPredicate read negated k u ls = some (t, rest))
    (ht : t.plain) (hrest : Ends more t rest) :
    readPredicate read' negated k u (ls ++ more) = some (t, rest ++ more) := by
  unfold readPredicate at h ⊢
  split_ifs at h ⊢ with hin hbetween hlike hregexp hsimilar
  · obtain ⟨⟨vs, ls₁⟩, hvs, h⟩ := Option.map_eq_some_iff.1 h
    obtain ⟨rfl, rfl⟩ := Prod.mk.inj h
    simp only [plain, Bool.and_eq_true] at ht
    have hvs' := readItems_append hread hvs ht.2
    simp [hvs']
  · exact readBetween_append hread h ht hrest
  · exact readPattern_append hmore hread h ht hrest
  · obtain ⟨⟨v, ls₁⟩, hv, h⟩ := Option.map_eq_some_iff.1 h
    obtain ⟨rfl, rfl⟩ := Prod.mk.inj h
    simp only [plain, Bool.and_eq_true] at ht
    have hv' := hread.last hv ht.2 hrest fun h => by simpa [closes] using h
    simp [hv']
  · rw [Option.bind_eq_some_iff] at h
    obtain ⟨ls₁, hto, h⟩ := h
    have hto' := afterKeyword?_append_of_some more hto
    have hpattern := readPattern_append hmore hread h ht hrest
    simp [hto', hpattern]

/-- An operator that is a word is read in front of other elements. -/
theorem readWordOperator_append (hlevel : level = wordLevel k ls)
    (h : readWordOperator read level k u ls = some (t, rest)) (ht : t.plain)
    (hrest : Ends more t rest) :
    readWordOperator read' level k u (ls ++ more) = some (t, rest ++ more) := by
  unfold readWordOperator at h ⊢
  split_ifs at h ⊢ with hbinary his hat hnot
  · obtain ⟨⟨v, ls₁⟩, hv, h⟩ := Option.map_eq_some_iff.1 h
    obtain ⟨rfl, rfl⟩ := Prod.mk.inj h
    simp only [plain, Bool.and_eq_true] at ht
    have hbinaryLevel : level = binaryLevel k := hlevel.trans (wordLevel_eq_binaryLevel hbinary ls)
    have hv' := hread.last hv ht.2 hrest fun h => by simpa [closes, ← hbinaryLevel] using h
    simp [hv']
  · exact readIs_append hmore hread h ht hrest
  · simp only [Option.bind_eq_bind, Option.bind_eq_some_iff] at h
    obtain ⟨ls₁, hzone, h⟩ := h
    obtain ⟨⟨v, ls₂⟩, hv, h⟩ := Option.map_eq_some_iff.1 h
    obtain ⟨rfl, rfl⟩ := Prod.mk.inj h
    simp only [plain, Bool.and_eq_true] at ht
    have hzone' := afterKeywords?_append hmore ["TIME", "ZONE"] (by decide) ls
    have hbinaryLevel : level = binaryLevel "AT TIME ZONE" := by
      rw [hlevel, hat]
      simp [wordLevel, hzone, binaryLevel]
    have hv' := hread.last hv ht.2 hrest fun h => by simpa [closes, ← hbinaryLevel] using h
    simp [hzone', hzone, hv']
  · split at h
    case h_1 w ls => exact readPredicate_append hmore hread h ht hrest
    case h_2 => cases h
  · exact readPredicate_append hmore hread h ht hrest

/-- An operator of marks is read in front of other elements. -/
theorem readMarkOperator_append {op : String} (hlevel : level = operatorLevel op)
    (hpos : 0 < level) (h : readMarkOperator read level op u ls = some (t, rest)) (ht : t.plain)
    (hrest : Ends more t rest) :
    readMarkOperator read' level op u (ls ++ more) = some (t, rest ++ more) := by
  unfold readMarkOperator at h ⊢
  split_ifs at h ⊢ with hcast hbang helement
  · obtain ⟨⟨type, ls₁⟩, htype, h⟩ := Option.map_eq_some_iff.1 h
    obtain ⟨rfl, rfl⟩ := Prod.mk.inj h
    have htype' := readType_append hmore htype
    simp [htype']
  · obtain ⟨rfl, rfl⟩ := Prod.mk.inj (Option.some.inj h)
    rfl
  · split at h
    case h_1 v ls₁ hv =>
      obtain ⟨rfl, rfl⟩ := Prod.mk.inj (Option.some.inj h)
      simp only [plain, Bool.and_eq_true] at ht
      have hv' := hread.inner hv ht.2 ⟨_, _, rfl, rfl⟩
      simp [hv']
    case h_2 => cases h
  · obtain ⟨⟨v, ls₁⟩, hv, h⟩ := Option.map_eq_some_iff.1 h
    obtain ⟨rfl, rfl⟩ := Prod.mk.inj h
    simp only [plain, Bool.and_eq_true] at ht
    have hbinaryLevel : level = binaryLevel op :=
      hlevel.trans (operatorLevel_eq_binaryLevel (hlevel ▸ hpos))
    have hv' := hread.last hv ht.2 hrest fun h => by simpa [closes, ← hbinaryLevel] using h
    simp [hv']

/-- An operator is read in front of other elements. -/
theorem readOperator_append (hpos : 0 < levelOf ls)
    (h : readOperator read (levelOf ls) u ls = some (t, rest)) (ht : t.plain)
    (hrest : Ends more t rest) :
    readOperator read' (levelOf ls) u (ls ++ more) = some (t, rest ++ more) := by
  unfold readOperator at h
  split at h
  case h_1 w ls => exact readWordOperator_append hmore hread rfl h ht hrest
  case h_2 op ls => exact readMarkOperator_append hmore hread rfl hpos h ht hrest
  case h_3 => cases h

/-! ## Expressions -/

omit hmore hread in
/-- What takes in nothing of what follows an expression does so in the first part of it, too. -/
theorem ends_of_readRest (h : readRest read min u ls = some (t, rest))
    (hrest : Ends more t rest) : Ends more u ls := by
  refine ⟨fun hdangling => ?_, ?_⟩
  · rw [readRest_of_levelOf_le (by simp [levelOf_of_dangling hdangling])] at h
    obtain ⟨-, rfl⟩ := Prod.mk.inj (Option.some.inj h)
    exact hrest.1 hdangling
  · rintro rfl
    rw [readRest_of_levelOf_le (Nat.zero_le min)] at h
    obtain ⟨rfl, rfl⟩ := Prod.mk.inj (Option.some.inj h)
    exact hrest.2 rfl

/-- The operators after an operand are read in front of other elements, and then those of the other
elements. -/
theorem readRest_append (hconsumes : Consumes read')
    (h : readRest read min u ls = some (t, rest)) (ht : t.plain) (hrest : Ends more t rest) :
    readRest read' min u (ls ++ more) = readRest read' min t (rest ++ more) := by
  -- Each step leaves fewer elements, and the invariant is that `u` takes in nothing of `more`.
  induction hn : ls.length using Nat.strongRecOn generalizing ls u with
  | ind n ih =>
    have hplain := plain_of_readRest h ht
    rw [readRest_eq hread.consumes] at h
    split at h
    case isTrue hstop =>
      obtain ⟨rfl, rfl⟩ := Prod.mk.inj (Option.some.inj h)
      rfl
    case isFalse hgo =>
      have hpos : 0 < levelOf ls := by omega
      have hls : ls ≠ [] := by
        rintro rfl
        exact absurd hpos (by decide)
      have hlevel := levelOf_append hmore hls fun h => Nat.ne_of_gt hpos (levelOf_of_dangling h)
      obtain ⟨⟨v, ls₁⟩, hstep, h⟩ := Option.bind_eq_some_iff.1 h
      have hlength : ls₁.length < ls.length := (takes_readOperator hread.consumes hstep).length
      have hstep' := readOperator_append hmore hread hpos hstep (plain_of_readRest h ht)
        (ends_of_readRest h hrest)
      rw [readRest_eq hconsumes, hlevel, if_neg hgo, hstep']
      exact ih _ (hn ▸ hlength) h rfl

/-- An expression is read as an operand in front of other elements, and then the operators of the
other elements. -/
theorem readLevel_append (hconsumes : Consumes read')
    (h : readLevel read min ls = some (t, rest)) (ht : t.plain) (hrest : Ends more t rest) :
    readLevel read' min (ls ++ more) = readRest read' min t (rest ++ more) := by
  obtain ⟨u, ls₁, v, ls₂, hu, hv, h⟩ := readLevel_eq_some_iff.1 h
  have hplain := plain_of_readRest h ht
  have hends := ends_of_readRest h hrest
  have hends' : Ends more u ls₁ := by
    refine ⟨fun hdangling => ?_, ?_⟩
    · rw [readCollation_of_dangling hdangling] at hv
      obtain ⟨rfl, rfl⟩ := Prod.mk.inj (Option.some.inj hv)
      exact hends.1 hdangling
    · rintro rfl
      obtain ⟨rfl, rfl⟩ := Prod.mk.inj (Option.some.inj hv)
      exact hends.2 rfl
  have hu' := readPrimary_append hmore hread hu (plain_of_readCollation hv hplain) hends'
  have hv' := readCollation_append hmore hv
  have hrest' := readRest_append hmore hread hconsumes h ht hrest
  rw [← hrest', readLevel, hu']
  simp only [Option.bind_eq_bind, Option.bind_some, hv']
  rfl

end

/-- After the operators that bind tighter than `min`, none is left. -/
theorem levelOf_le_of_readRest {read : OperandReader} {min : Nat}
    (hread : Consumes read)
    (h : readRest read min u ls = some (t, rest)) : levelOf rest ≤ min := by
  induction hn : ls.length using Nat.strongRecOn generalizing ls u with
  | ind n ih =>
    rw [readRest_eq hread] at h
    split at h
    case isTrue hstop =>
      obtain ⟨rfl, rfl⟩ := Prod.mk.inj (Option.some.inj h)
      exact hstop
    case isFalse =>
      obtain ⟨⟨v, ls₁⟩, hstep, h⟩ := Option.bind_eq_some_iff.1 h
      have hlength : ls₁.length < ls.length := (takes_readOperator hread hstep).length
      exact ih _ (hn ▸ hlength) h rfl

/-- After an expression of operators that bind tighter than `min`, none is left. -/
theorem levelOf_le_of_readAbove {depth min : Nat} (h : readAbove depth min ls = some (t, rest)) :
    levelOf rest ≤ min := by
  cases depth with
  | zero => cases h
  | succ depth =>
    obtain ⟨u, ls₁, v, ls₂, -, -, h⟩ := readLevel_eq_some_iff.1 h
    exact levelOf_le_of_readRest (consumes_readAbove _) h

/-- A deeper reader reads in front of other elements what a shallower one reads without them. -/
theorem extends_readAbove (hmore : Follows more) {depth depth' : Nat} (hdepth : depth ≤ depth') :
    Extends more (readAbove depth) (readAbove depth') := by
  induction depth generalizing depth' with
  | zero => exact ⟨consumes_readAbove _, fun h => by cases h⟩
  | succ depth ih =>
    obtain ⟨depth', rfl⟩ : ∃ d, depth' = d + 1 := ⟨depth' - 1, by omega⟩
    have hread := ih (Nat.le_of_succ_le_succ hdepth)
    refine ⟨consumes_readAbove _, fun {min ls t rest} h ht hrest hmin => ?_⟩
    have hlevel : levelOf (rest ++ more) ≤ min := by
      by_cases hnil : rest = []
      · rw [hnil]
        exact hmin hnil
      · rw [levelOf_append hmore hnil hrest.1]
        exact levelOf_le_of_readAbove h
    rw [readAbove, readLevel_append hmore hread (consumes_readAbove _) h ht hrest]
    exact readRest_of_levelOf_le hlevel

end MetricLayer.Term
