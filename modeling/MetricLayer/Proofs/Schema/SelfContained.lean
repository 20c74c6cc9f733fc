import MetricLayer.Proofs.Schema.Draft
import MetricLayer.Proofs.Sql.Operand

/-!
# Registered expressions stand for themselves

A query wraps the expression of a member in a call, to cut a timestamp or to ignore the case of a
text, and writes the expression as it stands. `checkExpression_selfContained` says what the check of
a registry does for that: the lexical elements of an expression that it lets through have no
semicolon, and their parentheses match among themselves, so that those of the call match each other.

The last step needs that the text of the expression does not end within a line comment. The check
lets such text through, and the comment swallows the closing parenthesis of the call
(`comment_swallows_parenthesis`).
-/

namespace MetricLayer

variable {ls us inner : List Lexeme} {l : Lexeme} {n m : Nat}

/-- Elements that stand for themselves: no semicolon is among them, no parenthesis is closed before
it is opened, and as many are closed as are opened. -/
structure SelfContained (ls : List Lexeme) : Prop where
  /-- No semicolon is among the elements. -/
  no_semicolon : .semicolon ∉ ls
  /-- From left to right no more parentheses are closed than were opened. -/
  closes_le : ∀ us, us <+: ls → us.count .rparen ≤ us.count .lparen
  /-- As many parentheses are closed as are opened. -/
  balanced : ls.count .rparen = ls.count .lparen

namespace Lexeme

/-- A property of the beginnings of some elements, by whether the first is among them. -/
theorem forall_prefix_cons {P : List Lexeme → Prop} :
    (∀ us, us <+: l :: ls → P us) ↔ P [] ∧ ∀ us, us <+: ls → P (l :: us) := by
  constructor
  · exact fun h => ⟨h [] List.nil_prefix, fun us hus => h _ ((List.prefix_cons_inj l).2 hus)⟩
  · rintro ⟨hnil, hcons⟩ us hus
    rcases List.prefix_cons_iff.1 hus with rfl | ⟨vs, rfl, hvs⟩
    · exact hnil
    · exact hcons vs hvs

/-- The number of open parentheses is what counting gives. -/
theorem openAfter?_eq_some_iff : openAfter? ls n = some m ↔
    .semicolon ∉ ls ∧ (∀ us, us <+: ls → us.count .rparen ≤ n + us.count .lparen) ∧
      m + ls.count .rparen = n + ls.count .lparen := by
  fun_induction openAfter? ls n with
  | case1 n => simp [eq_comm]
  | case2 n ls ih =>
    rw [ih, forall_prefix_cons]
    simp [Nat.add_assoc, Nat.add_comm 1]
  | case3 ls n ih =>
    rw [ih, forall_prefix_cons]
    simp [← Nat.add_assoc, Nat.add_right_comm n 1]
  | case4 ls =>
    -- The first parenthesis alone is closed without having been opened.
    rw [forall_prefix_cons]
    refine iff_of_false (by simp) ?_
    rintro ⟨-, ⟨-, hclose⟩, -⟩
    exact absurd (hclose [] List.nil_prefix) (by simp)
  | case5 n ls => simp
  | case6 l ls n hopen hclose hzero hsemicolon ih =>
    have hrparen : l ≠ .rparen := by
      cases n with
      | zero => exact hzero rfl
      | succ n => exact hclose n rfl
    rw [ih, forall_prefix_cons]
    simp [List.count_cons_of_ne hopen, List.count_cons_of_ne hrparen, Ne.symm hsemicolon]

/-- Elements open and close parentheses one after the other. -/
theorem openAfter?_append (ls us : List Lexeme) (n : Nat) :
    openAfter? (ls ++ us) n = (openAfter? ls n).bind (openAfter? us) := by
  fun_induction openAfter? ls n with
  | case1 n => rfl
  | case2 n ls ih => exact ih
  | case3 ls n ih => exact ih
  | case4 ls => rfl
  | case5 n ls => rfl
  | case6 l ls n hopen hclose hzero hsemicolon ih =>
    rw [List.cons_append, openAfter?]
    all_goals assumption

/-- Elements stand for themselves just if as many parentheses are open behind them as before. -/
theorem selfContained_iff : SelfContained ls ↔ nesting ls = nesting [] := by
  constructor
  · intro h
    refine funext fun n => openAfter?_eq_some_iff.2 ⟨h.no_semicolon, fun us hus => ?_, ?_⟩
    · exact (h.closes_le us hus).trans (Nat.le_add_left _ n)
    · rw [h.balanced]
  · intro h
    obtain ⟨hsemicolon, hcloses, hbalanced⟩ := openAfter?_eq_some_iff.1 (congrFun h 0)
    exact ⟨hsemicolon, by simpa using hcloses, by simpa using hbalanced⟩

end Lexeme

open Lexeme (nesting selfContained_iff)

namespace SelfContained

/-- Nothing stands for itself. -/
theorem nil : SelfContained [] :=
  selfContained_iff.2 rfl

/-- Elements that stand for themselves leave the nesting of what follows as it is. -/
theorem nesting_append (h : SelfContained ls) (us : List Lexeme) :
    nesting (ls ++ us) = nesting us := by
  refine funext fun n => ?_
  have hls : Lexeme.openAfter? ls n = some n := congrFun (selfContained_iff.1 h) n
  show Lexeme.openAfter? (ls ++ us) n = Lexeme.openAfter? us n
  rw [Lexeme.openAfter?_append, hls]
  rfl

/-- Elements that stand for themselves may stand in a row. -/
theorem append (hls : SelfContained ls) (hus : SelfContained us) : SelfContained (ls ++ us) :=
  selfContained_iff.2 ((hls.nesting_append us).trans (selfContained_iff.1 hus))

/-- An element apart from parentheses and semicolons may come first. -/
theorem cons (h : SelfContained ls) (hopen : l ≠ .lparen) (hclose : l ≠ .rparen)
    (hsemicolon : l ≠ .semicolon) : SelfContained (l :: ls) :=
  selfContained_iff.2 ((Lexeme.nesting_cons hopen hclose hsemicolon).trans (selfContained_iff.1 h))

/-- Elements that stand for themselves may stand between parentheses. -/
theorem parenthesized (h : SelfContained ls) : SelfContained (.lparen :: (ls ++ [.rparen])) :=
  selfContained_iff.2 (Lexeme.nesting_parenthesized (h.nesting_append [.rparen]))

/-- Lists of elements that stand for themselves may have commas between them. -/
theorem intercalate {lss : List (List Lexeme)} (h : ∀ ls ∈ lss, SelfContained ls) :
    SelfContained ([.comma].intercalate lss) := by
  induction lss with
  | nil => exact nil
  | cons ls lss ih =>
    obtain ⟨hls, hlss⟩ := List.forall_mem_cons.1 h
    cases lss with
    | nil => simpa using hls
    | cons us lss =>
      have hrest : SelfContained (.comma :: [.comma].intercalate (us :: lss)) :=
        (ih hlss).cons (by simp) (by simp) (by simp)
      rw [List.intercalate_cons_cons]
      simpa using hls.append hrest

/-- The first month of a quarter stands for itself if its month does. -/
theorem quarterMonth (h : SelfContained ls) : SelfContained (Term.quarterMonthLexemes ls) := by
  refine selfContained_iff.2 (funext fun n => ?_)
  have hls : Lexeme.openAfter? ls (n + 3) = some (n + 3) := congrFun (selfContained_iff.1 h) _
  show Lexeme.openAfter? (ls ++ _) (n + 3) = some n
  rw [Lexeme.openAfter?_append, hls]
  rfl

end SelfContained

/-! ## Calls -/

/-- The elements `call` are a call in whose parentheses `ls` stand, and whose parentheses match each
other. -/
def Encloses (ls call : List Lexeme) : Prop :=
  ∃ w inner, call = .word w :: .lparen :: (inner ++ [.rparen]) ∧ ls <:+: inner ∧
    SelfContained inner

/-- A call stands for itself. -/
theorem Encloses.selfContained {call : List Lexeme} (h : Encloses ls call) :
    SelfContained call := by
  obtain ⟨w, inner, rfl, -, hinner⟩ := h
  exact hinner.parenthesized.cons (by simp) (by simp) (by simp)

/-- What stands in the parentheses of a call stands in the call. -/
theorem Encloses.isInfix {call : List Lexeme} (h : Encloses ls call) : ls <:+: call := by
  obtain ⟨w, inner, rfl, hls, -⟩ := h
  refine hls.trans ⟨[.word w, .lparen], [.rparen], by simp⟩

section

variable {d : Dialect} {ts : List Token}

/-- A list stands between the commas of others. -/
theorem infix_intercalate {lss : List (List Lexeme)} (h : us ∈ lss) (hls : ls <:+: us) :
    ls <:+: [Lexeme.comma].intercalate lss := by
  obtain ⟨before, after, rfl⟩ := List.append_of_mem h
  have hus : us <:+: [Lexeme.comma].intercalate (us :: after) := by
    cases after with
    | nil => simp
    | cons vs after =>
      rw [List.intercalate_cons_cons, List.append_assoc]
      exact (List.prefix_append us _).isInfix
  refine hls.trans (hus.trans ?_)
  clear h
  induction before with
  | nil => exact List.infix_rfl
  | cons vs before ih =>
    obtain ⟨ws, wss, hrest⟩ : ∃ ws wss, before ++ us :: after = ws :: wss :=
      List.exists_cons_of_ne_nil (by simp)
    rw [List.cons_append]
    rw [hrest] at ih ⊢
    rw [List.intercalate_cons_cons]
    exact ih.trans (List.suffix_append _ _).isInfix

/-- A call encloses what stands in an argument, if its arguments stand for themselves. -/
theorem encloses_call (name : String) {tss : List (List Token)}
    (h : ∀ ts ∈ tss, SelfContained (Tokens.lexemes d ts)) (hts : ts ∈ tss)
    (hls : ls <:+: Tokens.lexemes d ts) :
    Encloses ls (Tokens.lexemes d (Tokens.call name tss)) := by
  refine ⟨_, _, Term.lexemes_call d name tss, ?_, SelfContained.intercalate ?_⟩
  · exact infix_intercalate (List.mem_map_of_mem hts) hls
  · simpa using h

/-- A string literal stands for itself. -/
theorem selfContained_string (d : Dialect) (s : String) :
    SelfContained (Tokens.lexemes d [.string s]) :=
  SelfContained.nil.cons (by simp) (by simp) (by simp)

/-- The start of a bucket encloses the timestamp, if that stands for itself. -/
theorem encloses_bucket (d : Dialect) (g : Granularity) (h : SelfContained (Tokens.lexemes d ts)) :
    Encloses (Tokens.lexemes d ts) (Tokens.lexemes d (bucketTokens d g ts)) := by
  have hstring := selfContained_string d
  have htrunc : Encloses (Tokens.lexemes d ts)
      (Tokens.lexemes d (Tokens.call "DATE_TRUNC" [[.string g.name], ts])) :=
    encloses_call "DATE_TRUNC" (by simpa using ⟨hstring g.name, h⟩)
      (List.mem_cons_of_mem _ List.mem_cons_self) List.infix_rfl
  have hformat : ∀ format, Encloses (Tokens.lexemes d ts)
      (Tokens.lexemes d (strftimeTokens format ts)) := fun format =>
    encloses_call "STRFTIME" (by simpa using ⟨hstring format, h⟩)
      (List.mem_cons_of_mem _ List.mem_cons_self) List.infix_rfl
  cases d with
  | postgres => exact htrunc
  | duckdb => exact htrunc
  | sqlite =>
    cases g with
    | hour => exact hformat _
    | day => exact encloses_call "DATE" (by simpa using h) List.mem_cons_self List.infix_rfl
    | week =>
      exact encloses_call "DATE" (by simpa using ⟨h, hstring _, hstring _⟩) List.mem_cons_self
        List.infix_rfl
    | month => exact hformat _
    | quarter =>
      have hmonth : SelfContained (Tokens.lexemes .sqlite (quarterMonthTokens ts)) := by
        rw [Term.lexemes_quarterMonthTokens]
        exact (hformat "%m").selfContained.quarterMonth
      exact encloses_call "PRINTF"
        (by simpa using ⟨hstring _, (hformat "%Y").selfContained, hmonth⟩)
        (List.mem_cons_of_mem _ List.mem_cons_self) (hformat "%Y").isInfix
    | year => exact hformat _

end

/-! ## Expressions that a registry takes -/

/-- The elements of an expression that is read stand for themselves. -/
theorem selfContained_of_parse {s : String} {t : Term} (h : Term.parse s = .ok t) :
    ∃ ls, Lexeme.scan? s = some ls ∧ SelfContained ls := by
  obtain ⟨ls, hscan, hread⟩ := Term.parse_eq_ok_iff.1 h
  have htakes := Term.consumes_readAbove _ _ _ _ hread
  exact ⟨ls, hscan, selfContained_iff.2 htakes.nesting⟩

open Tokens (Composed)

variable {id sql : String}

/-- An expression that a registry takes can be wrapped in a call, if its text does not end within a
line comment. -/
theorem scan?_wrapped {call : List Token} {d : Dialect}
    (hsql : Lexeme.scan? sql = some ls) (hcomment : Lexeme.endsInComment sql = false)
    (hcall : Composed [sql] call) :
    Lexeme.scan? (Tokens.render d call) = some (Tokens.lexemes d call) := by
  have hspliceable : ∀ s ∈ [sql], Spliceable s :=
    List.forall_mem_singleton.2 ⟨hsql ▸ rfl, hcomment⟩
  exact (hcall.scan hspliceable).scans.scanChars?_eq

/-- The elements of an expression that passes its check stand for themselves. If its text does not
end within a line comment, then every call that a query wraps it in encloses it. -/
theorem checkExpression_selfContained (h : Draft.checkExpression id sql = .ok ()) :
    ∃ ls, Lexeme.scan? sql = some ls ∧ SelfContained ls ∧
      (Lexeme.endsInComment sql = false → ∀ d,
        (∀ g, ∃ call, Lexeme.scan? (Tokens.render d (bucketTokens d g [.raw sql])) = some call ∧
          Encloses ls call) ∧
        ∃ call, Lexeme.scan? (Tokens.render d (Expr.lowerTokens true [.raw sql])) = some call ∧
          Encloses ls call) := by
  obtain ⟨t, ht⟩ := Draft.checkExpression_eq_ok_iff.1 h
  obtain ⟨ls, hsql, hls⟩ := selfContained_of_parse ht
  refine ⟨ls, hsql, hls, fun hcomment d => ?_⟩
  have hraw : Composed [sql] [.raw sql] := .raw List.mem_cons_self
  have hlexemes : Tokens.lexemes d [.raw sql] = ls := by
    simp [Tokens.lexemes, Token.lexemes, hsql]
  constructor
  · intro g
    have hbucket := encloses_bucket d g (hlexemes.symm ▸ hls)
    rw [hlexemes] at hbucket
    exact ⟨_, scan?_wrapped hsql hcomment (hraw.bucket d g), hbucket⟩
  · have hlower : Encloses ls (Tokens.lexemes d (Expr.lowerTokens true [.raw sql])) :=
      encloses_call "LOWER" (by simpa [hlexemes] using hls) List.mem_cons_self
        (hlexemes ▸ List.infix_rfl)
    exact ⟨_, scan?_wrapped hsql hcomment (hraw.lowered true), hlower⟩

/-- A semicolon and parentheses within literals, names and comments are no elements. -/
theorem checkExpression_selfContained_marks :
    ∃ ls, Lexeme.scan? "COALESCE(\"e)\".mark, ';)') /* ( */" = some ls ∧ SelfContained ls ∧
      ∃ call, Lexeme.scan? "LOWER(COALESCE(\"e)\".mark, ';)') /* ( */)" = some call ∧
        Encloses ls call := by
  have hcheck : Draft.checkExpression "e.mark" "COALESCE(\"e)\".mark, ';)') /* ( */" = .ok () := by
    decide +kernel
  obtain ⟨ls, hscan, hls, hcalls⟩ := checkExpression_selfContained hcheck
  exact ⟨ls, hscan, hls, (hcalls (by decide +kernel) .sqlite).2⟩

/-- A comment at the end of an expression that passes its check swallows the closing parenthesis of
the call around it. -/
theorem comment_swallows_parenthesis :
    Draft.checkExpression "e.time" "e.created_at -- creation" = .ok () ∧
      ∃ call, Lexeme.scan? (Tokens.render .postgres
        (bucketTokens .postgres .day [.raw "e.created_at -- creation"])) = some call ∧
        ¬SelfContained call := by
  refine ⟨by decide +kernel, [.word "DATE_TRUNC", .lparen, .string "" "day", .comma, .word "e",
    .period, .word "created_at"], by decide +kernel, fun h => ?_⟩
  exact absurd h.balanced (by decide)

end MetricLayer
