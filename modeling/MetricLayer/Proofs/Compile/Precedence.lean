import MetricLayer.Proofs.Compile.Lexical
import MetricLayer.Proofs.Compile.Statement
import MetricLayer.Proofs.Sql.Condition

/-!
# Reading the predicate

The predicate of a compiled query, read by the precedence of its operators, is the conjunction of the
conditions of the request, each on the whole expression of its dimension, if what is spliced in fits
where it stands.
-/

namespace MetricLayer

/-! ## Operands -/

section

variable {d : Dialect} {o : Operand} {t : Term}

/-- The term of an operand whose SQL reads as `t`. -/
def Operand.term (d : Dialect) (o : Operand) (t : Term) : Term :=
  match o.grain with
  | some g => Term.bucket d g t
  | none => t

/-- The term of the expression of an operand. -/
theorem Operand.term?_expr (hs : Term.parse o.sql = .ok t) :
    o.expr.term? d = some (o.term d t) := by
  obtain ⟨grain, sql⟩ := o
  cases grain with
  | none => simp [Operand.expr, Operand.term, Expr.term?, hs, Except.toOption]
  | some g => simp [Operand.expr, Operand.term, Expr.term?, hs, Except.toOption]

/-- An operand is an argument, if its SQL is plain. -/
theorem Operand.isArgument (hs : Term.parse o.sql = .ok t) (ht : t.plain) :
    Term.IsArgument (o.expr.lexemes d) (o.term d t) := by
  obtain ⟨grain, sql⟩ := o
  have hraw := Term.isArgument_of_parse hs (lexemes_raw (d := d) hs) ht
  cases grain with
  | none => exact hraw
  | some g => exact (hraw.bucket g).isArgument (Term.beginsArguments_bucket d g _)

/-- An operand can stand before an operator, if its SQL is plain, and closes at the level of the
operator or is cut to a bucket. -/
theorem Operand.compares {m : Nat} (hs : Term.parse o.sql = .ok t) (ht : t.plain)
    (hclose : ∀ p ∈ o.expr.exposedAt m, t.closes p.1) (hm : Term.levelAnd < m) :
    Term.Compares m (o.expr.lexemes d) (o.term d t) := by
  obtain ⟨grain, sql⟩ := o
  cases grain with
  | none =>
    intro min hmin more hmore hlevel
    have hclose : t.closes m := hclose (m, sql) List.mem_cons_self
    exact Term.opens_of_parse hs (lexemes_raw (d := d) hs) ht hclose hm hmin hmore hlevel
  | some g =>
    have hraw := Term.isArgument_of_parse hs (lexemes_raw (d := d) hs) ht
    exact (hraw.bucket g).compares m

/-! ## Conditions -/

/-- What fits in a conjunction fits in both of its sides. -/
theorem Expr.Fits.and {left right : Expr} (h : (Expr.binary .and left right).Fits d) :
    left.Fits d ∧ right.Fits d := by
  obtain ⟨huncommented, hplain, hclosed⟩ := h
  simp only [Expr.splices, Expr.exposed, List.forall_mem_append] at huncommented hplain hclosed
  exact ⟨⟨huncommented.1, hplain.1, hclosed.1⟩, ⟨huncommented.2, hplain.2, hclosed.2⟩⟩

/-- An operand of a condition can stand before its operator, if what the condition splices in
fits. -/
theorem Expr.Fits.compares {e : Expr} {m : Nat} (h : e.Fits d) (hs : Term.parse o.sql = .ok t)
    (hsplices : o.sql ∈ e.splices) (hexposed : o.expr.exposedAt m ⊆ e.exposed d)
    (hm : Term.levelAnd < m) : Term.Compares m (o.expr.lexemes d) (o.term d t) := by
  refine Operand.compares hs (h.plain _ hsplices t hs) (fun p hp => ?_) hm
  have hparse : Term.parse p.2 = .ok t := by
    obtain ⟨grain, sql⟩ := o
    cases grain with
    | none =>
      rw [List.mem_singleton.1 hp]
      exact hs
    | some g => cases hp
  exact h.closed p (hexposed hp) t hparse

/-- A comparison of an operand with a placeholder is a conjunct. -/
theorem Operand.isConjunct_comparison {op : BinaryOp} {n : Nat} (hop : op ≠ .and)
    (hs : Term.parse o.sql = .ok t) (h : (Expr.binary op o.expr (.param n)).Fits d) :
    ∃ u, (Expr.binary op o.expr (.param n)).IsConjunct d u := by
  have hexposed : o.expr.exposedAt Term.levelComparison ⊆
      (Expr.binary op o.expr (.param n)).exposed d := by
    cases op <;> first | exact absurd rfl hop | exact fun _ hp => hp
  have hcompares := h.compares hs (by simp [Expr.splices, Operand.splices_expr]) hexposed (by decide)
  have htext : op.text ∈ Term.separatorMarks ∧ op.text ≠ "AND" := by
    cases op <;> first | exact absurd rfl hop | decide
  have hlexemes : (Expr.binary op o.expr (.param n)).lexemes d =
      o.expr.lexemes d ++ [.operator op.text, .placeholder (d.placeholder n)] := by
    cases op <;> first
      | exact absurd rfl hop
      | simp [Expr.lexemes, Expr.tokens, BinaryOp.token, Tokens.lexemes, Token.lexemes,
          Mark.lexeme, Mark.text, BinaryOp.text]
  refine ⟨.binary op.text (o.term d t) (.literal (.placeholder (d.placeholder n))), ?_, ?_, ?_⟩
  · simp [Expr.term?, Operand.term?_expr hs]
  · rw [hlexemes]
    exact hcompares.comparison htext.1 _
  · simp [Term.conjuncts, htext.2]

/-- Membership of an operand in an interval of placeholders is a conjunct. -/
theorem Operand.isConjunct_between {n k : Nat} (hs : Term.parse o.sql = .ok t)
    (h : (Expr.between false o.expr (.param n) (.param k)).Fits d) :
    ∃ u, (Expr.between false o.expr (.param n) (.param k)).IsConjunct d u := by
  have hcompares := h.compares hs (by simp [Expr.splices, Operand.splices_expr])
    (fun _ hp => hp) (by decide)
  refine ⟨.between false (o.term d t) (.literal (.placeholder (d.placeholder n)))
    (.literal (.placeholder (d.placeholder k))), ?_, ?_, rfl⟩
  · simp [Expr.term?, Operand.term?_expr hs]
  have hlexemes : (Expr.between false o.expr (.param n) (.param k)).lexemes d =
      o.expr.lexemes d ++ .word "BETWEEN" :: ([.placeholder (d.placeholder n)] ++
        .word "AND" :: [.placeholder (d.placeholder k)]) := by
    simp [Expr.lexemes, Expr.tokens, Expr.notTokens, Tokens.lexemes, Token.lexemes,
      Keyword.lexemes, Keyword.text]
  rw [hlexemes]
  exact hcompares.between _ _

/-- The terms of placeholders. -/
theorem Expr.listTerms?_map_param (d : Dialect) (ns : List Nat) :
    Expr.listTerms? d (ns.map .param) =
      some (ns.map fun n => .literal (.placeholder (d.placeholder n))) := by
  induction ns with
  | nil => rfl
  | cons n ns ih => simp [Expr.listTerms?, Expr.term?, ih]

/-- The tokens of expressions with commas between them. -/
theorem Expr.listTokens_eq (d : Dialect) (es : List Expr) :
    Expr.listTokens d es = Tokens.commaSeparated (es.map (Expr.tokens d)) := by
  unfold Tokens.commaSeparated
  induction es with
  | nil => rfl
  | cons e es ih =>
    cases es with
    | nil => simp [Expr.listTokens]
    | cons e' es =>
      rw [List.map_cons, List.map_cons, List.intercalate_cons_cons, ← List.map_cons, ← ih]
      simp [Expr.listTokens, Tokens.commaSpace]

/-- The elements of placeholders with commas between them. -/
theorem Expr.lexemes_listTokens_map_param (d : Dialect) (ns : List Nat) :
    Tokens.lexemes d (Expr.listTokens d (ns.map .param)) =
      [.comma].intercalate (ns.map fun n => [.placeholder (d.placeholder n)]) := by
  rw [Expr.listTokens_eq, Term.lexemes_commaSeparated]
  simp [Function.comp_def, Expr.tokens, Tokens.lexemes, Token.lexemes]

/-- Membership of an operand in a list of placeholders is a conjunct. -/
theorem Operand.isConjunct_isIn {n : Nat} {ns : List Nat} (hs : Term.parse o.sql = .ok t)
    (h : (Expr.isIn false o.expr ((n :: ns).map .param)).Fits d) :
    ∃ u, (Expr.isIn false o.expr ((n :: ns).map .param)).IsConjunct d u := by
  have hcompares := h.compares hs (by simp [Expr.splices, Operand.splices_expr])
    (fun _ hp => hp) (by decide)
  refine ⟨.isIn false (o.term d t)
    ((n :: ns).map fun n => .literal (.placeholder (d.placeholder n))), ?_, ?_, rfl⟩
  · have hvalues := Expr.listTerms?_map_param d (n :: ns)
    rw [List.map_cons] at hvalues ⊢
    simp [Expr.term?, Operand.term?_expr hs, hvalues]
  have hlexemes : (Expr.isIn false o.expr ((n :: ns).map .param)).lexemes d =
      o.expr.lexemes d ++ .word "IN" :: .lparen :: ([.comma].intercalate
        ((n :: ns).map fun n => [.placeholder (d.placeholder n)]) ++ [.rparen]) := by
    rw [← Expr.lexemes_listTokens_map_param, Expr.lexemes, List.map_cons, Expr.tokens]
    simp [Expr.lexemes, Expr.notTokens, Tokens.lexemes, Token.lexemes, Keyword.lexemes,
      Keyword.text, Mark.lexeme]
  rw [hlexemes]
  have hconjunct := hcompares.isIn (d.placeholder n) (ns.map d.placeholder)
  simpa [Function.comp_def] using hconjunct

/-- A match of an operand with a pattern, where the dialect has an operator for it, is a conjunct. -/
theorem Operand.isConjunct_ilike {escape : Char} {n : Nat} (hd : d.hasILike)
    (hs : Term.parse o.sql = .ok t) (h : (Expr.like false true escape o.expr (.param n)).Fits d) :
    ∃ u, (Expr.like false true escape o.expr (.param n)).IsConjunct d u := by
  have hexposed : o.expr.exposedAt Term.levelLike ⊆
      (Expr.like false true escape o.expr (.param n)).exposed d := by
    simp [Expr.exposed, hd]
  have hcompares := h.compares hs (by simp [Expr.splices, Operand.splices_expr]) hexposed (by decide)
  have hconjunct := hcompares.matching (List.mem_cons_of_mem _ List.mem_cons_self)
    (fun more => Term.reads_placeholder (d.placeholder n) more) (by simp) ""
    (String.singleton escape)
  refine ⟨.matching false "ILIKE" (o.term d t) (.literal (.placeholder (d.placeholder n)))
    (some (.string "" (String.singleton escape))), ?_, ?_, rfl⟩
  · simp [Expr.term?, Operand.term?_expr hs, hd, Term.lowered]
  · simpa [Expr.lexemes, hd, Expr.tokens, Expr.likeTokens, Expr.lowerTokens, Expr.notTokens,
      Tokens.lexemes, Token.lexemes, Keyword.lexemes, Keyword.text] using hconjunct

/-- A match of an operand with a pattern, where both are put in lower case, is a conjunct. -/
theorem Operand.isConjunct_lowered {escape : Char} {n : Nat} (hd : d.hasILike = false)
    (hs : Term.parse o.sql = .ok t) (h : (Expr.like false true escape o.expr (.param n)).Fits d) :
    ∃ u, (Expr.like false true escape o.expr (.param n)).IsConjunct d u := by
  have hplain := h.plain o.sql (by simp [Expr.splices, Operand.splices_expr]) t hs
  have hlower : "LOWER" ∈ functionNames := by decide
  have hoperand := (Operand.isArgument (d := d) hs hplain).call hlower
  have hconjunct := (hoperand.compares Term.levelLike).matching (List.mem_cons_self)
    (fun more => Term.reads_loweredPlaceholder (d.placeholder n) more) (by simp) ""
    (String.singleton escape)
  refine ⟨.matching false "LIKE" (Term.apply "LOWER" [o.term d t])
    (Term.apply "LOWER" [.literal (.placeholder (d.placeholder n))])
    (some (.string "" (String.singleton escape))), ?_, ?_, rfl⟩
  · simp [Expr.term?, Operand.term?_expr hs, hd, Term.lowered]
  · simpa [Expr.lexemes, hd, Expr.tokens, Expr.likeTokens, Expr.lowerTokens, Expr.notTokens,
      Tokens.call, Tokens.commaSeparated, Tokens.lexemes, Token.lexemes, Keyword.lexemes,
      Keyword.text, Mark.lexeme] using hconjunct

/-- The condition of a filter is a conjunct, if the filter has as many values as its operator takes
and what is spliced in fits. -/
theorem Filter.isConjunct_condition {f : Filter} {bound : Nat} (hf : f.Fits)
    (hs : Term.parse o.sql = .ok t) (h : (f.condition bound o.expr).Fits d) :
    ∃ u, (f.condition bound o.expr).IsConjunct d u := by
  obtain ⟨id, op, vs⟩ := f
  cases op with
  | isIn =>
    cases vs with
    | nil => exact absurd hf (Nat.not_succ_le_zero 0)
    | cons v vs =>
      unfold Filter.condition FilterOperator.condition at h ⊢
      rw [List.length_cons, List.range'_succ] at h ⊢
      exact Operand.isConjunct_isIn hs h
  | contains =>
    cases hd : d.hasILike with
    | true => exact Operand.isConjunct_ilike hd hs h
    | false => exact Operand.isConjunct_lowered hd hs h
  | _ => exact Operand.isConjunct_comparison (by simp) hs h

/-- The condition of a filter is no conjunction. -/
theorem Filter.conjuncts_condition (f : Filter) (bound : Nat) (operand : Expr) :
    (f.condition bound operand).conjuncts = [f.condition bound operand] := by
  obtain ⟨id, op, vs⟩ := f
  cases op <;> rfl

/-- The conjuncts of the condition of a date range are read, if what is spliced in fits. -/
theorem DateBound.isConjunct_condition {b : DateBound} {bound : Nat} {sql : String}
    (hs : Term.parse sql = .ok t) (h : (b.condition bound sql).Fits d) :
    ∀ c ∈ (b.condition bound sql).conjuncts, ∃ u, c.IsConjunct d u := by
  have hraw : Term.parse (Operand.sql ⟨none, sql⟩) = .ok t := hs
  cases b with
  | day e =>
    obtain ⟨hlower, hupper⟩ := Expr.Fits.and h
    refine List.forall_mem_cons.2 ⟨?_, List.forall_mem_singleton.2 ?_⟩
    · exact Operand.isConjunct_comparison (by simp) hraw hlower
    · exact Operand.isConjunct_comparison (by simp) hraw hupper
  | moment e time => exact List.forall_mem_singleton.2 (Operand.isConjunct_between hraw h)

end

/-! ## Conjunctions -/

/-- The conjuncts of a conjunction are those of its conditions. -/
theorem conjuncts_conjunction (es : List Expr) :
    (conjunction es).toList.flatMap (·.conjuncts) = es.flatMap (·.conjuncts) := by
  cases es with
  | nil => rfl
  | cons e es =>
    have hfold : ∀ a : Expr, (es.foldl (Expr.binary .and) a).conjuncts =
        a.conjuncts ++ es.flatMap (·.conjuncts) := by
      induction es with
      | nil => exact fun a => (List.append_nil _).symm
      | cons e' es ih =>
        intro a
        rw [List.foldl_cons, ih, Expr.conjuncts, List.flatMap_cons, List.append_assoc]
    rw [conjunction, Option.toList_some, List.flatMap_singleton, hfold, List.flatMap_cons]

/-- What fits in a conjunction fits in each of its conditions. -/
theorem fits_of_mem_conjunction {d : Dialect} {es : List Expr}
    (h : ∀ e ∈ conjunction es, e.Fits d) : ∀ e ∈ es, e.Fits d := by
  cases es with
  | nil => exact fun e he => absurd he List.not_mem_nil
  | cons e es =>
    have hfold : ∀ a : Expr, (es.foldl (Expr.binary .and) a).Fits d → ∀ e ∈ a :: es, e.Fits d := by
      clear h
      induction es with
      | nil => exact fun a ha => List.forall_mem_singleton.2 ha
      | cons e' es ih =>
        intro a ha
        obtain ⟨hand, hes⟩ := List.forall_mem_cons.1 (ih _ ha)
        exact List.forall_mem_cons.2 ⟨hand.and.1, List.forall_mem_cons.2 ⟨hand.and.2, hes⟩⟩
    exact hfold e (h _ rfl)

/-! ## The compiled query -/

variable {r : Registry} {options : CompileOptions} {q : Request}

/-- A conjunct of filters is the condition of one of them on its dimension. -/
theorem exists_filter_of_mem {bound : Nat} {fs : List (Filter × Dimension)} {c : Conjunct}
    (hc : c ∈ statedFilters bound fs) :
    ∃ p ∈ fs, ∃ n, c.expr = p.1.condition n p.2.operand.expr := by
  induction fs generalizing bound with
  | nil => cases hc
  | cons p fs ih =>
    rcases List.mem_cons.1 hc with rfl | hc
    · exact ⟨p, List.mem_cons_self, bound, rfl⟩
    · obtain ⟨p', hp', n, hn⟩ := ih hc
      exact ⟨p', List.mem_cons_of_mem p hp', n, hn⟩

/-- The conjunct of a date range is the condition of its upper bound on the timestamp. -/
theorem SelectedTime.exists_bound_of_mem {t : SelectedTime} {bound : Nat} {c : Conjunct}
    (hc : c ∈ t.statedRange bound) : ∃ b : DateBound, c.expr = b.condition bound t.dimension.sql := by
  unfold SelectedTime.statedRange at hc
  split at hc
  · cases hc
  · split at hc
    case h_1 b _ => exact ⟨b, by rw [List.mem_singleton.1 hc]⟩
    case h_2 => cases hc

/-- The conjuncts of the conditions of a compilation are read, if what is spliced in fits. -/
theorem Compilation.isConjunct (k : Compilation r options q)
    (hr : r.Passes Draft.checkExpression) {d : Dialect} :
    ∀ e ∈ k.conditions, e.Fits d → ∀ c ∈ e.conjuncts, ∃ u, c.IsConjunct d u := by
  refine List.forall_mem_map.2 fun c hc hfit => ?_
  rcases List.mem_append.1 hc with hc | hc
  · obtain ⟨p, hp, n, hn⟩ := exists_filter_of_mem hc
    obtain ⟨t, ht⟩ := hr.parse_of_mem _ (k.resolve.filter_mem p hp)
    rw [hn] at hfit ⊢
    rw [Filter.conjuncts_condition]
    exact List.forall_mem_singleton.2 (Filter.isConjunct_condition (k.fits p hp) ht hfit)
  · obtain ⟨time, htime, hc⟩ := List.mem_flatMap.1 hc
    obtain ⟨p, hp, rfl⟩ := Option.map_eq_some_iff.1 (Option.mem_toList.1 htime)
    obtain ⟨b, hb⟩ := SelectedTime.exists_bound_of_mem hc
    obtain ⟨t, ht⟩ := hr.parse_of_mem _ (k.resolve.time_mem p hp)
    rw [hb] at hfit ⊢
    exact DateBound.isConjunct_condition ht hfit

/-- The predicate of a compiled query, read by the precedence of its operators, is the conjunction of
the conditions of the filters in order and then of the date range, if what they splice in fits where
it stands. Each is read as it is compiled: the compared operand is the whole expression of the
dimension. -/
theorem compile_predicate_readsAs {d : Draft} (hd : d.build = .ok r) {c : CompiledQuery}
    (h : r.compile options q = .ok c) (hq : q.filters ≠ [] ∨ q.dateRange ≠ none)
    (hfit : ∀ e ∈ c.query.condition, e.Fits c.dialect) :
    ∃ es range bounds ls t, q.StatesFilters r es ∧ q.StatesRange r range bounds ∧
      c.query.condition = conjunction (es ++ range) ∧
      Lexeme.scan? c.predicate = some ls ∧ Term.ReadsAs ls t ∧
      List.Forall₂ (fun e u => e.term? c.dialect = some u)
        ((es ++ range).flatMap (·.conjuncts)) t.conjuncts := by
  obtain ⟨k, rfl⟩ := Registry.compile_eq_ok_iff.1 h
  have hr := Draft.passes_of_buildWith hd
  have hconditions : k.conditions = (statedFilters 0 k.names.filters).map (·.expr) ++
      (k.names.rangeConjuncts q).map (·.expr) := by
    rw [← List.map_append, ← k.statedConjuncts_eq]
    rfl
  obtain ⟨e, he⟩ : ∃ e, conjunction k.conditions = some e := by
    obtain ⟨e, es, hes⟩ := List.exists_cons_of_ne_nil (k.conditions_ne_nil_iff.2 hq)
    exact ⟨_, by rw [hes]; rfl⟩
  have hcondition : k.result.query.condition = some e := he
  have hfit_conditions : ∀ e ∈ k.conditions, e.Fits options.dialect := fits_of_mem_conjunction hfit
  have hfit_e : e.Fits options.dialect := hfit e hcondition
  have hconjuncts : e.conjuncts = k.conditions.flatMap (·.conjuncts) := by
    rw [← conjuncts_conjunction, he]
    simp
  -- The text is scanned into the elements of the condition, which are read conjunct by conjunct.
  have hspliceable : ∀ s ∈ e.splices, Spliceable s := by
    intro s hs
    have hmem : s ∈ k.result.query.splices := by
      simp [Query.splices, hcondition, hs]
    obtain ⟨t, ht⟩ := hr.parse_of_mem s (k.mem_expressions_of_splices s hmem)
    exact ⟨isSome_scan?_of_parse ht, hfit_e.uncommented s hs⟩
  have hscan : Lexeme.scan? k.result.predicate = some (e.lexemes options.dialect) := by
    unfold CompiledQuery.predicate
    rw [hcondition]
    exact (e.scan_tokens options.dialect hspliceable).scans.scanChars?_eq
  obtain ⟨t, ht, hterms⟩ := Expr.readsAs_conjuncts (e := e) (d := options.dialect) (by
    rw [hconjuncts]
    intro c hc
    obtain ⟨x, hx, hc⟩ := List.mem_flatMap.1 hc
    exact k.isConjunct hr x hx (hfit_conditions x hx) c hc)
  refine ⟨_, _, _, _, t, k.resolve.statesFilters, k.resolve.statesRange k.sound, ?_, hscan, ht, ?_⟩
  · rw [← hconditions]
    rfl
  · rw [← hconditions, ← hconjuncts]
    exact hterms

/-- The predicate of the page views by quarter is read as its conditions, among them a quarter that
SQLite spells by its first month. -/
theorem compile_predicate_readsAs_quarterlyViews :
    ∃ c, Draft.pageViewsRegistry.compile { dialect := .sqlite } quarterlyViews = .ok c ∧
      (quarterlyViews.filters ≠ [] ∨ quarterlyViews.dateRange ≠ none) ∧
      (∀ e ∈ c.query.condition, e.Fits c.dialect) ∧
      ∃ es range bounds ls t, quarterlyViews.StatesFilters Draft.pageViewsRegistry es ∧
        quarterlyViews.StatesRange Draft.pageViewsRegistry range bounds ∧
        c.query.condition = conjunction (es ++ range) ∧
        Lexeme.scan? c.predicate = some ls ∧ Term.ReadsAs ls t ∧
        List.Forall₂ (fun e u => e.term? c.dialect = some u)
          ((es ++ range).flatMap (·.conjuncts)) t.conjuncts := by
  have hexpressions : ∀ s ∈ Draft.pageViewsRegistry.expressions, Term.embeds s := by
    decide +kernel
  obtain ⟨c, hc⟩ := quarterlyViews_compiles
  obtain ⟨k, rfl⟩ := Registry.compile_eq_ok_iff.1 hc
  have hq : quarterlyViews.filters ≠ [] ∨ quarterlyViews.dateRange ≠ none :=
    .inl (List.cons_ne_nil _ _)
  have hfit : ∀ e ∈ k.result.query.condition, e.Fits k.result.dialect := by
    intro e he
    refine Expr.fits_of_embeds fun s hs => hexpressions s (k.mem_expressions_of_splices s ?_)
    simp [Query.splices, Option.mem_def.1 he, hs]
  exact ⟨_, hc, hq, hfit, compile_predicate_readsAs Draft.pageViews_build hc hq hfit⟩

/-! ## A loose expression -/

/-- The operator at the root of a term. -/
def Term.operator? : Term → Option String
  | .binary op _ _ => some op
  | _ => none

/-- Users with a dimension whose expression ends with a loose operator. -/
def Draft.staffedUsers : Draft where
  tables := [⟨"users", "u"⟩]
  dimensions := [⟨"users.staff", "users", .string, "u.teacher OR u.admin", none, ""⟩]

/-- The users that are staff. -/
def staffOfUsers : Request where
  dimensions := ["users.staff"]
  filters := [⟨"users.staff", .eq, [.bool true]⟩]

/-- The condition of the request over the draft is one comparison, but its text is read as `OR`. -/
def Draft.readsLoosely (d : Draft) (options : CompileOptions) (q : Request) : Bool :=
  match d.build with
  | .error _ => false
  | .ok r =>
    match r.compile options q with
    | .error _ => false
    | .ok c =>
      match c.query.condition, Term.parse c.predicate with
      | some e, .ok t =>
        (e.conjuncts.map fun x => (x.term? c.dialect).bind Term.operator?) = [some "="] &&
          (t.plain && t.operator? = some "OR")
      | _, _ => false

/-- The text of a comparison with an expression that ends with a loose operator is not read as the
comparison: the operator takes the comparison as its right operand. -/
theorem loose_expression_splits :
    ∃ r c e t, Draft.staffedUsers.build = .ok r ∧ r.compile {} staffOfUsers = .ok c ∧
      c.query.condition = some e ∧ Term.parse c.predicate = .ok t ∧
      ∀ ls u, Lexeme.scan? c.predicate = some ls → Term.ReadsAs ls u →
        ¬ List.Forall₂ (fun x v => x.term? c.dialect = some v) e.conjuncts u.conjuncts := by
  have hloose : Draft.staffedUsers.readsLoosely {} staffOfUsers = true := by decide +kernel
  unfold Draft.readsLoosely at hloose
  split at hloose
  · cases hloose
  case h_2 r hr =>
    split at hloose
    · cases hloose
    case h_2 c hc =>
      split at hloose
      case h_1 e t he ht =>
        simp only [Bool.and_eq_true, decide_eq_true_eq] at hloose
        obtain ⟨heq, hplain, hor⟩ := hloose
        refine ⟨r, c, e, t, hr, hc, he, ht, fun ls u hls hu hterms => ?_⟩
        obtain rfl := hu.unique (Term.readsAs_of_parse ht hls hplain)
        -- The text is one conjunct, as the condition is, but with another operator.
        have hsingle : u.conjuncts = [u] := by
          cases u <;> simp_all [Term.operator?, Term.conjuncts]
        rw [hsingle] at hterms
        generalize e.conjuncts = xs at heq hterms
        cases hterms with
        | cons hx hnil =>
          cases hnil
          simp [hx, hor] at heq
      case h_2 => cases hloose

end MetricLayer
