import Mathlib.Order.Filter.AtTopBot.Basic
import MetricLayer.Proofs.Sql.Term.Locality

/-!
# Reading what is put together

How text that is put together from parts is read, if its parts are. `Reads` says what a reader makes
of some elements in front of others from some depth on, so that no depth has to be counted. `Opens`
says it of an expression that need not end there: the elements are its left operand, and the
operators of what follows are still to be read. An operand opens an expression (`Reads.opens`), each
operator with its right operand makes the left operand larger (`Opens.operate`), and an expression
ends where no operator follows that binds tight enough (`Opens.reads`).
-/

namespace MetricLayer.Term

open Filter (atTop)

/-- From some depth on, a reader makes `x` of the elements `ls` in front of others. -/
def Reads {α : Type} (reader : Nat → TermReader α) (ls : List Lexeme) (x : α)
    (more : List Lexeme) : Prop :=
  ∀ᶠ depth in atTop, reader depth (ls ++ more) = some (x, more)

/-- From some depth on, the elements `ls` are read as an operand `t`, and then the operators of what
follows that bind tighter than `min`. -/
def Opens (min : Nat) (ls : List Lexeme) (t : Term) (more : List Lexeme) : Prop :=
  ∀ᶠ depth in atTop,
    readAbove (depth + 1) min (ls ++ more) = readRest (readAbove depth) min t more

variable {min : Nat} {more ls us vs : List Lexeme} {t u v : Term} {ts : List Term}

/-- What holds of every next depth from some depth on, holds of every depth from some depth on. -/
theorem eventually_succ_iff {p : Nat → Prop} :
    (∀ᶠ depth in atTop, p (depth + 1)) ↔ ∀ᶠ depth in atTop, p depth := by
  conv_rhs => rw [← Filter.map_add_atTop_eq_nat 1, Filter.eventually_map]

/-- An expression ends where no operator follows that binds tight enough. -/
theorem Opens.reads (h : Opens min ls t more) (hmore : levelOf more ≤ min) :
    Reads (readAbove · min) ls t more := by
  refine eventually_succ_iff.1 ?_
  filter_upwards [h] with depth h
  rw [h, readRest_of_levelOf_le hmore]

/-- An operand opens an expression. -/
theorem Reads.opens (h : Reads (fun depth => readPrimary (readAbove depth)) ls t more)
    (hmore : afterKeyword? "COLLATE" more = none) : Opens min ls t more := by
  filter_upwards [h] with depth h
  simp [readAbove, readLevel, h, readCollation, hmore, readRest]

/-! ## Lists -/

/-- From some depth on, a reader of items makes `ts` of the elements `ls` with commas between them,
in front of a parenthesis. -/
structure ReadsItems (item : Nat → TermReader Term) (ls : List Lexeme) (ts : List Term)
    (more : List Lexeme) : Prop where
  /-- There are not more items than elements can hold. -/
  length_le : ts.length ≤ ls.length + 1
  /-- The items are read. -/
  reads : ∀ᶠ depth in atTop, ∀ n, ts.length ≤ n →
    readListUpTo (item depth) n (ls ++ .rparen :: more) = some (ts, .rparen :: more)

section

variable {item : Nat → TermReader Term}

/-- A single item. -/
theorem Reads.items (h : Reads item ls t (.rparen :: more)) : ReadsItems item ls [t] more := by
  refine ⟨Nat.le_add_left 1 ls.length, ?_⟩
  filter_upwards [h] with depth h n hn
  obtain ⟨n, rfl⟩ : ∃ m, n = m + 1 := ⟨n - 1, by simp at hn; omega⟩
  simp [readListUpTo, h]

/-- An item and a comma before other items. -/
theorem ReadsItems.cons (h : Reads item ls t (.comma :: (us ++ .rparen :: more)))
    (hus : ReadsItems item us ts more) :
    ReadsItems item (ls ++ .comma :: us) (t :: ts) more := by
  refine ⟨?_, ?_⟩
  · have hlength := hus.length_le
    simp only [List.length_cons, List.length_append]
    omega
  · filter_upwards [h, hus.reads] with depth h hus n hn
    obtain ⟨n, rfl⟩ : ∃ m, n = m + 1 := ⟨n - 1, by simp at hn; omega⟩
    have htail := hus n (by simpa using hn)
    simp [readListUpTo, h, htail]

/-- Items in parentheses. -/
theorem ReadsItems.list (h : ReadsItems item ls ts more) :
    ∀ᶠ depth in atTop, readList (item depth) (ls ++ .rparen :: more) =
      some (ts, .rparen :: more) := by
  filter_upwards [h.reads] with depth hreads
  refine hreads _ ?_
  have hlength := h.length_le
  simp only [List.length_append, List.length_cons]
  omega

end

/-! ## Operands -/

/-- A placeholder is an operand. -/
theorem reads_placeholder (p : String) (more : List Lexeme) :
    Reads (fun depth => readPrimary (readAbove depth)) [.placeholder p]
      (.literal (.placeholder p)) more :=
  .of_forall fun _ => rfl

/-- A string literal is an operand. -/
theorem reads_string (k s : String) (more : List Lexeme) :
    Reads (fun depth => readPrimary (readAbove depth)) [.string k s] (.literal (.string k s))
      more :=
  .of_forall fun _ => rfl

/-- A number is an operand. -/
theorem reads_number (n : String) (more : List Lexeme) :
    Reads (fun depth => readPrimary (readAbove depth)) [.number n] (.literal (.number n)) more :=
  .of_forall fun _ => rfl

/-- Expressions in parentheses are an operand, unless a period follows. -/
theorem ReadsItems.group (h : ReadsItems (readAbove · 0) ls ts more)
    (hmore : more.head? ≠ some .period) :
    Reads (fun depth => readPrimary (readAbove depth)) (.lparen :: (ls ++ [.rparen])) (.group ts)
      more := by
  filter_upwards [h.list] with depth h
  have hitems : readParenthesized (readList (readAbove depth 0))
      (.lparen :: (ls ++ .rparen :: more)) = some (ts, more) := by
    simp [readParenthesized, h]
  have hgroup : readGroup (readAbove depth) (.lparen :: (ls ++ .rparen :: more)) =
      some (.group ts, more) := by
    simp only [readGroup, hitems, Option.bind_eq_bind, Option.bind_some]
    split <;> simp_all
  rw [List.cons_append, List.append_assoc, List.singleton_append, ← hgroup]
  rfl

/-- A word that begins no typed literal is read as an operand that begins with a word. -/
theorem readPrimary_word {read : OperandReader} {w : String}
    (h : readTyped (.word w :: ls) = none) :
    readPrimary read (.word w :: ls) = readWordOperand read w ls := by
  unfold readPrimary
  rw [h]

/-- A conversion is an operand. -/
theorem Reads.cast {type : List Lexeme}
    (h : Reads (readAbove · 0) ls t (.word "AS" :: (type ++ .rparen :: more)))
    (htype : readType (type ++ .rparen :: more) = some (type, .rparen :: more)) :
    Reads (fun depth => readPrimary (readAbove depth))
      (.word "CAST" :: .lparen :: (ls ++ .word "AS" :: (type ++ [.rparen]))) (.cast t type) more := by
  have hupper : Text.uppercase "CAST" = "CAST" ∧ Text.uppercase "AS" = "AS" :=
    ⟨Text.uppercase_eq_self (by decide), Text.uppercase_eq_self (by decide)⟩
  have hknown : isKnownType "CAST" = false := by decide
  filter_upwards [h] with depth h
  have hcast : readCast (readAbove depth) (ls ++ .word "AS" :: (type ++ .rparen :: more)) =
      some (.cast t type, .rparen :: more) := by
    simp [readCast, h, afterKeyword?, Lexeme.isKeyword, hupper, htype]
  have hword : ∀ ls, readTyped (.word "CAST" :: ls) = none := by
    intro ls
    rw [readTyped_word, hupper.1, hknown]
    rfl
  simp [readPrimary_word (hword _), hupper, readWordOperand, readForm, readParenthesized, hcast]

/-! ## Arguments -/

/-- What ends with a star after a period is not a name. -/
theorem exists_period_of_readQualifiedStar {p : List Lexeme × List Lexeme}
    (h : readQualifiedStar ls = some p) :
    ∃ l rest, ls = l :: .period :: rest ∧ isNamePart l ∧ readNameTail (.period :: rest) = none := by
  fun_induction readQualifiedStar ls generalizing p with
  | case1 l rest hl => exact ⟨l, _, rfl, hl, by simp [readNameTail, isNamePart]⟩
  | case2 => cases h
  | case3 l rest hne hl ih =>
    obtain ⟨q, hq, -⟩ := Option.map_eq_some_iff.1 h
    obtain ⟨l', rest', rfl, hl', htail⟩ := ih hq
    exact ⟨l, _, rfl, hl, by simp [readNameTail, hl', htail]⟩
  | case4 => cases h
  | case5 => cases h

/-- A period is no part of a type. -/
theorem readTyped_period (w : String) (ls : List Lexeme) :
    readTyped (.word w :: .period :: ls) = none := by
  have hextra : typeExtra (Text.uppercase w) (.period :: ls) = ([], .period :: ls) := by
    simp [typeExtra, readOptionalWord, Lexeme.isKeyword]
  have hsize : typeSize (Text.uppercase w) (.period :: ls) = some ([], .period :: ls) := by
    simp [typeSize, readScale, readSize]
  have htail : typeTail (Text.uppercase w) (.period :: ls) = ([], .period :: ls) := by
    simp [typeTail, readZone, readOptionalWord, afterKeywords?, afterKeyword?, Lexeme.isKeyword]
  rw [readTyped_word, readKnownType_eq, hextra]
  simp [hsize, htail, readBrackets, typedLiteral]

/-- What is no name, but begins as one, ends before its first period if it is read. -/
theorem eq_of_readPrimary_period {read : OperandReader} {l : Lexeme} {rest : List Lexeme}
    (hread : ∀ min rest, read min (.period :: rest) = none) (hl : isNamePart l)
    (hls : readNameTail (.period :: ls) = none)
    (h : readPrimary read (l :: .period :: ls) = some (t, rest)) : rest = .period :: ls := by
  have hname : readName read l (.period :: ls) = none := by simp [readName, hls]
  cases l with
  | word w =>
    rw [readPrimary_word (readTyped_period w ls), readWordOperand] at h
    simp only [hname, ite_self] at h
    split at h
    case h_1 r hr =>
      obtain rfl := Option.some.inj h
      unfold readForm at hr
      split_ifs at hr <;>
        simp_all [readOptionalCall, readChoice, readSubject, afterKeyword?, Lexeme.isKeyword,
          readParenthesized, readInterval]
    case h_2 => cases h
  | quotedName q s =>
    have hnone : readPrimary read (.quotedName q s :: .period :: ls) = none := hname
    exact absurd (hnone.symm.trans h) (by simp)
  | string k s =>
    obtain ⟨rfl, rfl⟩ := Prod.mk.inj (Option.some.inj h)
    rfl
  | _ => cases hl

/-- No expression begins with a period. -/
theorem readAbove_period (depth min : Nat) (ls : List Lexeme) :
    readAbove depth min (.period :: ls) = none := by
  cases depth with
  | zero => rfl
  | succ depth => rfl

/-- An expression that is read is no list of columns. -/
theorem readQualifiedStar_of_readAbove {depth : Nat} {rest : List Lexeme}
    (h : readAbove depth 0 ls = some (t, rest)) (hrest : rest.head? ≠ some .period) :
    readQualifiedStar ls = none := by
  cases hstar : readQualifiedStar ls with
  | none => rfl
  | some p =>
    obtain ⟨l, ls, rfl, hl, hls⟩ := exists_period_of_readQualifiedStar hstar
    cases depth with
    | zero => cases h
    | succ depth =>
      obtain ⟨u, ls₁, v, ls₂, hu, hv, h⟩ := readLevel_eq_some_iff.1 h
      obtain rfl := eq_of_readPrimary_period (readAbove_period depth) hl hls hu
      obtain ⟨rfl, rfl⟩ := Prod.mk.inj (Option.some.inj hv)
      rw [readRest_of_levelOf_le (Nat.le_refl 0)] at h
      obtain ⟨rfl, rfl⟩ := Prod.mk.inj (Option.some.inj h)
      exact absurd rfl hrest

/-- An expression is an argument. -/
theorem Reads.argument (h : Reads (readAbove · 0) ls t more) (hmore : more.head? ≠ some .period) :
    Reads (fun depth => readArgument (readAbove depth)) ls t more := by
  filter_upwards [h] with depth h
  have hstar := readQualifiedStar_of_readAbove h hmore
  unfold readArgument
  split
  case h_1 rest heq =>
    rw [heq] at h
    cases depth with
    | zero => cases h
    | succ depth => cases h
  case h_2 => rw [hstar, h]

/-! ## Operators -/

/-- An operator and its right operand make the operand before it larger. -/
theorem Opens.operate (us : List Lexeme) (h : Opens min ls t (us ++ more))
    (hmin : min < levelOf (us ++ more))
    (hus : Reads (fun depth => readOperator (readAbove depth) (levelOf (us ++ more)) t) us u more) :
    Opens min (ls ++ us) u more := by
  filter_upwards [h, hus] with depth h hus
  have hconsumes := consumes_readAbove depth
  rw [List.append_assoc, h, readRest_eq hconsumes, if_neg (Nat.not_le.2 hmin), hus]
  rfl

/-- An operator of marks with its right operand. -/
theorem Opens.mark {op : String} (h : Opens min ls t (.operator op :: (us ++ more)))
    (hop : op ∉ ["::", "!", "["]) (hmin : min < operatorLevel op)
    (hus : Reads (readAbove · (operatorLevel op)) us u more) :
    Opens min (ls ++ .operator op :: us) (.binary op t u) more := by
  have hlevel : levelOf (.operator op :: us ++ more) = operatorLevel op := rfl
  refine Opens.operate (.operator op :: us) h (hmin.trans_eq hlevel.symm) ?_
  filter_upwards [hus] with depth hus
  simp only [List.mem_cons, List.not_mem_nil, or_false, not_or] at hop
  simp [readOperator, readMarkOperator, hop, levelOf, hus]

/-- The operator `AND` with its right operand. -/
theorem Opens.and (h : Opens min ls t (.word "AND" :: (us ++ more))) (hmin : min < levelAnd)
    (hus : Reads (readAbove · levelAnd) us u more) :
    Opens min (ls ++ .word "AND" :: us) (.binary "AND" t u) more := by
  have hand : Text.uppercase "AND" = "AND" := Text.uppercase_eq_self (by decide)
  have hlevel : levelOf (.word "AND" :: (us ++ more)) = levelAnd := by
    simp [levelOf, hand, wordLevel]
  refine Opens.operate (.word "AND" :: us) h (hmin.trans_eq hlevel.symm) ?_
  filter_upwards [hus] with depth hus
  rw [List.cons_append, hlevel]
  simp [readOperator, hand, readWordOperator, hus]

/-- The words that begin a test of the operand before them. -/
def testWords : List String := ["IN", "BETWEEN", "LIKE", "ILIKE"]

/-- A word that begins a test, with the rest of the test. -/
theorem Opens.test {w : String} (us : List Lexeme) (h : Opens min ls t (.word w :: (us ++ more)))
    (hw : w ∈ testWords) (hmin : min < wordLevel w [])
    (hus : Reads (fun depth => readPredicate (readAbove depth) false w t) us u more) :
    Opens min (ls ++ .word w :: us) u more := by
  have hchars : ∀ w ∈ testWords, Text.isKeywordText w = true := by decide
  have hword := Text.uppercase_eq_self (hchars w hw)
  have hlevel : levelOf (.word w :: (us ++ more)) = wordLevel w [] := by
    simp only [testWords, List.mem_cons, List.not_mem_nil, or_false] at hw
    rw [levelOf, hword]
    rcases hw with rfl | rfl | rfl | rfl <;> rfl
  refine Opens.operate (.word w :: us) h (hmin.trans_eq hlevel.symm) ?_
  filter_upwards [hus] with depth hus
  rw [List.cons_append, readOperator, hword, ← hus]
  simp only [testWords, List.mem_cons, List.not_mem_nil, or_false] at hw
  rcases hw with rfl | rfl | rfl | rfl <;> simp [readWordOperator]

/-- Membership in a list. -/
theorem Opens.isIn (h : Opens min ls t (.word "IN" :: .lparen :: (us ++ .rparen :: more)))
    (hmin : min < levelComparison) (hus : ReadsItems (readAbove · 0) us ts more) :
    Opens min (ls ++ .word "IN" :: .lparen :: (us ++ [.rparen])) (.isIn false t ts) more := by
  have htest : Reads (fun depth => readPredicate (readAbove depth) false "IN" t)
      (.lparen :: (us ++ [.rparen])) (.isIn false t ts) more := by
    filter_upwards [hus.list] with depth hus
    simp [readPredicate, readParenthesized, hus]
  exact Opens.test _ (by simpa using h) (by decide) hmin htest

/-- Membership in an interval. -/
theorem Opens.between
    (h : Opens min ls t (.word "BETWEEN" :: (us ++ .word "AND" :: (vs ++ more))))
    (hmin : min < levelComparison)
    (hus : Reads (readAbove · levelComparison) us u (.word "AND" :: (vs ++ more)))
    (hvs : Reads (readAbove · levelComparison) vs v more) :
    Opens min (ls ++ .word "BETWEEN" :: (us ++ .word "AND" :: vs)) (.between false t u v) more := by
  refine Opens.test (us ++ .word "AND" :: vs) (by simpa using h) (by decide) hmin ?_
  have hand : afterKeyword? "AND" (.word "AND" :: (vs ++ more)) = some (vs ++ more) := by
    have hupper : Text.uppercase "AND" = "AND" := Text.uppercase_eq_self (by decide)
    simp [afterKeyword?, Lexeme.isKeyword, hupper]
  filter_upwards [hus, hvs] with depth hus hvs
  simp [readPredicate, readBetween, hus, hand, hvs]

/-- A match with a pattern under an escape literal. -/
theorem Opens.matching {w k s : String} (hw : w ∈ ["LIKE", "ILIKE"])
    (h : Opens min ls t (.word w :: (us ++ .word "ESCAPE" :: .string k s :: more)))
    (hmin : min < levelLike)
    (hus : Reads (readAbove · levelLike) us u (.word "ESCAPE" :: .string k s :: more)) :
    Opens min (ls ++ .word w :: (us ++ [.word "ESCAPE", .string k s]))
      (.matching false w t u (some (.string k s))) more := by
  have hescape : readEscape (.word "ESCAPE" :: .string k s :: more) =
      some (some (.string k s), more) := by
    have hupper : Text.uppercase "ESCAPE" = "ESCAPE" := Text.uppercase_eq_self (by decide)
    simp [readEscape, afterKeyword?, Lexeme.isKeyword, hupper]
  have hpattern : Reads (fun depth => readPattern (readAbove depth) false w t)
      (us ++ [.word "ESCAPE", .string k s]) (.matching false w t u (some (.string k s))) more := by
    filter_upwards [hus] with depth hus
    simp [readPattern, hus, hescape]
  simp only [List.mem_cons, List.not_mem_nil, or_false] at hw
  rcases hw with rfl | rfl
  · exact Opens.test _ (by simpa using h) (by decide) hmin hpattern
  · exact Opens.test _ (by simpa using h) (by decide) hmin hpattern

/-! ## Expressions that are spliced in -/

/-- Every term closes at the loosest level. -/
theorem closes_zero (t : Term) : t.closes 0 = true := by
  generalize hm : 0 = m
  fun_induction closes m t <;> grind

/-- Text is one expression if its elements are read to their end. -/
theorem parse_eq_ok_iff {s : String} :
    parse s = .ok t ↔
      ∃ ls, Lexeme.scan? s = some ls ∧ readAbove depthLimit 0 ls = some (t, []) := by
  unfold parse ofLexemes
  cases Lexeme.scan? s with
  | none => simp
  | some ls =>
    dsimp only
    split <;> simp_all

/-- The operators that bind no tighter than `AND` are `AND` and `OR`. -/
theorem word_of_levelOf_le (hpos : 0 < levelOf ls) (hle : levelOf ls ≤ levelAnd) :
    ∃ w rest, ls = .word w :: rest ∧ Text.uppercase w ∈ ["AND", "OR"] := by
  match ls with
  | .word w :: rest =>
    refine ⟨w, rest, rfl, ?_⟩
    grind [levelOf.eq_def, wordLevel.eq_def, levelOr, levelAnd, levelIs, levelLike, levelComparison,
      levelProduct, levelZone]
  | .operator op :: rest =>
    grind [levelOf.eq_def, operatorLevel, levelAnd, levelArrow, levelComparison, levelSum,
      levelProduct, levelSuffix]

/-- After an operator that binds no tighter than `AND` the whole does not close any tighter, and
further operators bind no tighter either. -/
theorem not_closes_of_readOperator {depth m : Nat} {rest : List Lexeme} (hpos : 0 < levelOf ls)
    (hle : levelOf ls ≤ levelAnd) (hm : levelAnd < m)
    (h : readOperator (readAbove depth) (levelOf ls) t ls = some (u, rest)) :
    u.closes m = false ∧ levelOf rest ≤ levelAnd := by
  obtain ⟨w, us, rfl, hw⟩ := word_of_levelOf_le hpos hle
  have hbinary : Text.uppercase w ∈ ["AND", "OR", "XOR", "OVERLAPS", "DIV"] := by
    revert hw
    generalize Text.uppercase w = k
    simp only [List.mem_cons, List.not_mem_nil, or_false]
    rintro (rfl | rfl) <;> simp
  simp only [readOperator, readWordOperator, if_pos hbinary] at h
  obtain ⟨⟨v, vs⟩, hv, h⟩ := Option.map_eq_some_iff.1 h
  obtain ⟨rfl, rfl⟩ := Prod.mk.inj h
  have hlevel : binaryLevel (Text.uppercase w) ≤ levelAnd :=
    (wordLevel_eq_binaryLevel hbinary us).symm.trans_le hle
  refine ⟨?_, (levelOf_le_of_readAbove hv).trans hle⟩
  rw [closes, Bool.and_eq_false_iff]
  exact .inl (by simpa using hlevel.trans_lt hm)

/-- What does not close above `AND` still does not with further operators that bind no tighter. -/
theorem not_closes_of_readRest {depth m : Nat} {rest : List Lexeme} (hle : levelOf ls ≤ levelAnd)
    (hm : levelAnd < m) (ht : t.closes m = false)
    (h : readRest (readAbove depth) 0 t ls = some (u, rest)) : u.closes m = false := by
  have hconsumes := consumes_readAbove depth
  induction hn : ls.length using Nat.strongRecOn generalizing ls t with
  | ind n ih =>
    rw [readRest_eq hconsumes] at h
    split at h
    case isTrue =>
      obtain ⟨rfl, rfl⟩ := Prod.mk.inj (Option.some.inj h)
      exact ht
    case isFalse hgo =>
      obtain ⟨⟨v, ls₁⟩, hstep, h⟩ := Option.bind_eq_some_iff.1 h
      have hlength : ls₁.length < ls.length := (takes_readOperator hconsumes hstep).length
      obtain ⟨hv, hle₁⟩ := not_closes_of_readOperator (by omega) hle hm hstep
      exact ih _ (hn ▸ hlength) hle₁ hv h rfl

/-- An expression that closes above `AND` has no operator that binds no tighter than `AND`, so that
it is read to its end as a right operand of `AND`, too. -/
theorem readRest_of_closes {depth m : Nat} (hmin : min ≤ levelAnd) (hm : levelAnd < m)
    (h : readRest (readAbove depth) 0 t ls = some (u, [])) (hu : u.closes m) :
    readRest (readAbove depth) min t ls = some (u, []) := by
  have hconsumes := consumes_readAbove depth
  induction hn : ls.length using Nat.strongRecOn generalizing ls t with
  | ind n ih =>
    rw [readRest_eq hconsumes] at h ⊢
    split at h
    case isTrue hstop =>
      obtain ⟨rfl, rfl⟩ := Prod.mk.inj (Option.some.inj h)
      rw [if_pos (hstop.trans (Nat.zero_le min))]
    case isFalse hgo =>
      obtain ⟨⟨v, ls₁⟩, hstep, h⟩ := Option.bind_eq_some_iff.1 h
      have hlength : ls₁.length < ls.length := (takes_readOperator hconsumes hstep).length
      by_cases hle : levelOf ls ≤ levelAnd
      · obtain ⟨hv, hle₁⟩ := not_closes_of_readOperator (by omega) hle hm hstep
        rw [not_closes_of_readRest hle₁ hm hv h] at hu
        cases hu
      · rw [if_neg (by omega), hstep]
        exact ih _ (hn ▸ hlength) h rfl

/-- A registered expression is read as an operand before other elements, and then their operators,
if it is plain and closes at the level of the first of them. -/
theorem opens_of_parse {s : String} (hs : parse s = .ok t) (hscan : Lexeme.scan? s = some ls)
    (ht : t.plain) {m : Nat} (hclose : t.closes m) (hm : levelAnd < m) (hmin : min ≤ levelAnd)
    (hmore : Follows more) (hlevel : levelOf more ≤ m) : Opens min ls t more := by
  obtain ⟨ls', hls, h⟩ := parse_eq_ok_iff.1 hs
  obtain rfl := Option.some.inj (hscan.symm.trans hls)
  obtain ⟨u, ls₁, v, ls₂, hu, hv, h⟩ := readLevel_eq_some_iff.1 h
  have htight := readRest_of_closes hmin hm h hclose
  have hread := readLevel_eq_some_iff.2 ⟨u, ls₁, v, ls₂, hu, hv, htight⟩
  have hends : Ends more t [] := ⟨by simp [Dangling], fun _ => closes_of_le hlevel hclose⟩
  filter_upwards [Filter.eventually_ge_atTop (depthLimit - 1)] with depth hdepth
  have hextends : Extends more (readAbove (depthLimit - 1)) (readAbove depth) :=
    extends_readAbove hmore hdepth
  exact readLevel_append hmore hextends (consumes_readAbove _) hread ht hends

/-- A registered expression is read to its end before other elements that begin with no operator, if
it is plain. -/
theorem reads_of_parse {s : String} (hs : parse s = .ok t) (hscan : Lexeme.scan? s = some ls)
    (ht : t.plain) (hmore : Follows more) (hlevel : levelOf more = 0) :
    Reads (readAbove · 0) ls t more := by
  obtain ⟨ls', hls, h⟩ := parse_eq_ok_iff.1 hs
  obtain rfl := Option.some.inj (hscan.symm.trans hls)
  have hends : Ends more t [] := ⟨by simp [Dangling], fun _ => hlevel ▸ closes_zero t⟩
  filter_upwards [Filter.eventually_ge_atTop depthLimit] with depth hdepth
  exact (extends_readAbove hmore hdepth).append h ht hends fun _ => hlevel.le

end MetricLayer.Term
