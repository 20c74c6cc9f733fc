import MetricLayer.Sql.Query

/-!
# How the tokens of a query are put together

A query is written from a few kinds of pieces, such as a keyword, a quoted name or spliced SQL, and
a token that separates stands between any two pieces: a blank, a comma or a parenthesis
(`Token.Breaks`). There are two exceptions: a period joins a column to its table, and the quarter of
SQLite is put together from raw fragments. `Tokens.Composed` is this grammar, and
`Query.composed_tokens` says that the tokens of every query belong to it. A property of the tokens
of a query that looks at neighbours is then proved by one induction over the grammar, and not by
following the constructors of expressions, the dialects and the clauses.
-/

namespace MetricLayer

/-- The name of a function that a query calls. -/
def functionNames : List String := ["LOWER", "DATE_TRUNC", "DATE", "STRFTIME", "PRINTF"]

/-- A token that separates those before and after it. -/
def Token.Breaks (t : Token) : Prop :=
  t ∈ [.space, .newline, .mark .comma, .mark .lparen, .mark .rparen]

namespace Tokens

/-- A space separates. -/
theorem breaks_space : Token.space.Breaks := by simp [Token.Breaks]

/-- A line break separates. -/
theorem breaks_newline : Token.newline.Breaks := by simp [Token.Breaks]

/-- A comma separates. -/
theorem breaks_comma : (Token.mark .comma).Breaks := by simp [Token.Breaks]

/-- An opening parenthesis separates. -/
theorem breaks_lparen : (Token.mark .lparen).Breaks := by simp [Token.Breaks]

/-- A closing parenthesis separates. -/
theorem breaks_rparen : (Token.mark .rparen).Breaks := by simp [Token.Breaks]

/-- The tokens are put together in the way of a query that splices some texts. -/
inductive Composed (ss : List String) : List Token → Prop
  /-- Nothing is written. -/
  | nil : Composed ss []
  /-- A keyword. -/
  | keyword (k : Keyword) : Composed ss [.keyword k]
  /-- A mark. -/
  | mark (m : Mark) : Composed ss [.mark m]
  /-- The name of a function. -/
  | function {name : String} (h : name ∈ functionNames) : Composed ss [.function name]
  /-- A name. -/
  | name (name : String) : Composed ss [.identifier name]
  /-- A column of a table. -/
  | qualifiedName (table name : String) :
    Composed ss [.identifier table, .mark .dot, .identifier name]
  /-- A number of rows. -/
  | rows (n : UInt64) : Composed ss [.integer (rowsLiteral n)]
  /-- A string literal. -/
  | string (s : String) : Composed ss [.string s]
  /-- A placeholder. -/
  | placeholder (n : Nat) : Composed ss [.placeholder n]
  /-- SQL that is spliced in. -/
  | raw {s : String} (h : s ∈ ss) : Composed ss [.raw s]
  /-- The first month of a quarter, from its month. -/
  | quarterMonth {ts : List Token} (h : Composed ss ts) :
    Composed ss (.raw "((CAST(" :: (ts ++ [.raw " AS INTEGER) - 1) / 3) * 3 + 1"]))
  /-- An indentation in front of others. -/
  | indent (level : Nat) {ts : List Token} (h : Composed ss ts) :
    Composed ss (.indent level :: ts)
  /-- A separating token between others. -/
  | append {ts us : List Token} {t : Token} (hts : Composed ss ts) (ht : t.Breaks)
      (hus : Composed ss us) : Composed ss (ts ++ t :: us)

variable {ss : List String} {ts us : List Token}

namespace Composed

/-- A separating token may come first. -/
theorem cons {t : Token} (hus : Composed ss us) (ht : t.Breaks) :
    Composed ss (t :: us) := by
  rw [← List.nil_append (t :: us)]
  exact nil.append ht hus

/-- An operator. -/
theorem operator (op : BinaryOp) : Composed ss [op.token] := by
  cases op with
  | and => exact keyword .AND
  | _ => exact mark _

/-- A column, of a table or alone. -/
theorem column (d : Dialect) (table : Option String) (n : String) :
    Composed ss ((Expr.column table n).tokens d) := by
  cases table with
  | none =>
    rw [Expr.tokens]
    exact name n
  | some table =>
    rw [Expr.tokens]
    exact qualifiedName table n

/-- Lists with commas between them. -/
theorem commaSeparated {tss : List (List Token)} (h : ∀ ts ∈ tss, Composed ss ts) :
    Composed ss (Tokens.commaSeparated tss) := by
  unfold Tokens.commaSeparated
  induction tss with
  | nil => exact nil
  | cons ts tss ih =>
    have hts := h ts List.mem_cons_self
    have htss := ih fun us hus => h us (List.mem_cons_of_mem ts hus)
    cases tss with
    | nil => simpa using hts
    | cons us tss =>
      have hlist : commaSpace.intercalate (ts :: us :: tss) =
          ts ++ .mark .comma :: .space :: commaSpace.intercalate (us :: tss) := by
        rw [List.intercalate_cons_cons]
        simp [commaSpace]
      rw [hlist]
      exact hts.append breaks_comma (htss.cons breaks_space)

/-- A call of a function. -/
theorem call {name : String} {tss : List (List Token)} (hname : name ∈ functionNames)
    (h : ∀ ts ∈ tss, Composed ss ts) : Composed ss (Tokens.call name tss) := by
  have hargs := (commaSeparated h).append breaks_rparen nil
  have hcall : Tokens.call name tss =
      [.function name] ++ .mark .lparen :: (Tokens.commaSeparated tss ++ [.mark .rparen]) := rfl
  rw [hcall]
  exact (function hname).append breaks_lparen hargs

/-- A piece between spaces. -/
theorem word {k : Token} (hts : Composed ss ts) (hk : Composed ss [k])
    (hus : Composed ss us) : Composed ss (ts ++ .space :: k :: .space :: us) :=
  hts.append breaks_space (hk.append breaks_space hus)

/-- `NOT` may stand between an operand and the operator after it. -/
theorem negate (negated : Bool) (hts : Composed ss ts) (hus : Composed ss us) :
    Composed ss (ts ++ (Expr.notTokens negated ++ .space :: us)) := by
  cases negated with
  | false => exact hts.append breaks_space hus
  | true => exact hts.word (keyword .NOT) hus

/-- The call that formats a timestamp. -/
theorem strftime (format : String) (hts : Composed ss ts) :
    Composed ss (strftimeTokens format ts) := by
  refine call (by decide) ?_
  simpa using ⟨string format, hts⟩

/-- The start of a bucket. -/
theorem bucket (d : Dialect) (g : Granularity) (hts : Composed ss ts) :
    Composed ss (bucketTokens d g ts) := by
  have htrunc : Composed ss (Tokens.call "DATE_TRUNC" [[.string g.name], ts]) := by
    refine call (by decide) ?_
    simpa using ⟨string g.name, hts⟩
  cases d with
  | postgres => exact htrunc
  | duckdb => exact htrunc
  | sqlite =>
    cases g with
    | hour => exact strftime _ hts
    | day =>
      refine call (by decide) ?_
      simpa using hts
    | week =>
      refine call (by decide) ?_
      simpa using ⟨hts, string "weekday 0", string "-6 days"⟩
    | month => exact strftime _ hts
    | quarter =>
      refine call (by decide) ?_
      simpa using ⟨string "%s-%02d-01", strftime "%Y" hts, quarterMonth (strftime "%m" hts)⟩
    | year => exact strftime _ hts

/-- The tokens in lower case. -/
theorem lowered (lower : Bool) (hts : Composed ss ts) :
    Composed ss (Expr.lowerTokens lower ts) := by
  cases lower with
  | false => exact hts
  | true =>
    refine call (by decide) ?_
    simpa using hts

/-- A match of an operand with a pattern. -/
theorem like (d : Dialect) (negated caseInsensitive : Bool) (escape : Char)
    (hts : Composed ss ts) (hus : Composed ss us) :
    Composed ss (Expr.likeTokens d negated caseInsensitive escape ts us) := by
  unfold Expr.likeTokens
  exact (lowered _ hts).negate negated ((keyword _).append breaks_space
    ((lowered _ hus).word (keyword .ESCAPE) (string (String.singleton escape))))

end Composed

end Tokens

/-! ## Expressions -/

mutual

/-- The texts that an expression splices in as they stand. -/
def Expr.splices : Expr → List String
  | .column _ _ => []
  | .binary _ left right => left.splices ++ right.splices
  | .isIn _ operand values => operand.splices ++ listSplices values
  | .between _ operand low high => operand.splices ++ (low.splices ++ high.splices)
  | .like _ _ _ operand pattern => operand.splices ++ pattern.splices
  | .param _ => []
  | .bucket _ operand => operand.splices
  | .raw sql => [sql]

/-- The texts that expressions splice in as they stand. -/
def Expr.listSplices : List Expr → List String
  | [] => []
  | e :: es => e.splices ++ listSplices es

end

open Tokens (Composed)

variable {ss : List String}

mutual

/-- The tokens of an expression are put together in the way of a query. -/
theorem Expr.composed_tokens (d : Dialect) : (e : Expr) → e.splices ⊆ ss →
    Composed ss (e.tokens d)
  | .column table name, _ => Composed.column d table name
  | .binary op left right, h => by
    rw [Expr.splices, List.append_subset] at h
    rw [Expr.tokens]
    exact (Expr.composed_tokens d left h.1).word (Composed.operator op)
      (Expr.composed_tokens d right h.2)
  | .isIn negated operand [], _ => by
    rw [Expr.tokens]
    exact .keyword _
  | .isIn negated operand (v :: vs), h => by
    rw [Expr.splices, List.append_subset] at h
    rw [Expr.tokens]
    have hvalues := (Expr.composed_listTokens d (v :: vs) h.2).append Tokens.breaks_rparen .nil
    exact (Expr.composed_tokens d operand h.1).negate negated
      ((Composed.keyword .IN).append Tokens.breaks_space (hvalues.cons Tokens.breaks_lparen))
  | .between negated operand low high, h => by
    rw [Expr.splices, List.append_subset, List.append_subset] at h
    rw [Expr.tokens]
    have hbounds := (Expr.composed_tokens d low h.2.1).word (Composed.keyword .AND)
      (Expr.composed_tokens d high h.2.2)
    exact (Expr.composed_tokens d operand h.1).negate negated
      ((Composed.keyword .BETWEEN).append Tokens.breaks_space hbounds)
  | .like negated caseInsensitive escape operand pattern, h => by
    rw [Expr.splices, List.append_subset] at h
    rw [Expr.tokens]
    exact Composed.like d negated caseInsensitive escape (Expr.composed_tokens d operand h.1)
      (Expr.composed_tokens d pattern h.2)
  | .param n, _ => by
    rw [Expr.tokens]
    exact .placeholder n
  | .bucket g operand, h => by
    rw [Expr.tokens]
    exact Composed.bucket d g (Expr.composed_tokens d operand h)
  | .raw sql, h => by
    rw [Expr.tokens]
    exact .raw (h (by simp [Expr.splices]))

/-- Expressions with commas between them are put together in the way of a query. -/
theorem Expr.composed_listTokens (d : Dialect) : (es : List Expr) →
    Expr.listSplices es ⊆ ss → Composed ss (Expr.listTokens d es)
  | [], _ => by
    rw [Expr.listTokens]
    exact .nil
  | [e], h => by
    rw [Expr.listTokens]
    exact Expr.composed_tokens d e fun s hs => h (List.mem_append_left _ hs)
  | e :: e' :: es, h => by
    rw [Expr.listSplices, List.append_subset] at h
    have hrest := Expr.composed_listTokens d (e' :: es) h.2
    rw [Expr.listTokens]
    · exact (Expr.composed_tokens d e h.1).append Tokens.breaks_comma
        (hrest.cons Tokens.breaks_space)
    · simp

end

/-! ## Queries -/

/-- The texts that a query splices in as they stand. -/
def Query.splices (q : Query) : List String :=
  q.select.flatMap (·.expr.splices) ++ (q.joins.flatMap (·.on.splices) ++
    (q.condition.toList.flatMap (·.splices) ++ (q.groupBy.flatMap (·.splices) ++
    q.orderBy.flatMap (·.expr.splices))))

namespace Tokens

variable {ts us : List Token}

/-- Tokens that are absent or begin with a line break. -/
def ComposedLines (ss : List String) (ts : List Token) : Prop :=
  ts = [] ∨ ∃ us, ts = .newline :: us ∧ Composed ss us

/-- Lines are put together as tokens are. -/
theorem ComposedLines.composed (h : ComposedLines ss ts) : Composed ss ts := by
  obtain rfl | ⟨us, rfl, hus⟩ := h
  · exact .nil
  · exact hus.cons breaks_newline

/-- Lines may follow other tokens. -/
theorem Composed.lines (hts : Composed ss ts) (hus : ComposedLines ss us) :
    Composed ss (ts ++ us) := by
  obtain rfl | ⟨us, rfl, hus⟩ := hus
  · simpa using hts
  · exact hts.append breaks_newline hus

/-- Lines may follow other lines. -/
theorem ComposedLines.append (hts : ComposedLines ss ts) (hus : ComposedLines ss us) :
    ComposedLines ss (ts ++ us) := by
  obtain rfl | ⟨ts, rfl, hts⟩ := hts
  · exact hus
  · exact .inr ⟨_, rfl, hts.lines hus⟩

/-- An alias comes after a space. -/
theorem Composed.aliased (hts : Composed ss ts) (a : Option String) :
    Composed ss (ts ++ aliasTokens a) := by
  cases a with
  | none => simpa [aliasTokens] using hts
  | some a => exact hts.word (.keyword .AS) (.name a)

end Tokens

namespace Query

open Tokens (ComposedLines)

variable {d : Dialect}

/-- The select list stands on lines of its own. -/
theorem composedLines_selectTokens {items : List SelectItem}
    (h : ∀ s ∈ items, Composed ss (s.expr.tokens d)) :
    ComposedLines ss (selectTokens d items) := by
  induction items with
  | nil => exact .inl rfl
  | cons s items ih =>
    have hitem := (h s List.mem_cons_self).aliased s.aliasName
    have hrest := ih fun t ht => h t (List.mem_cons_of_mem s ht)
    cases items with
    | nil => exact .inr ⟨_, rfl, hitem.indent 1⟩
    | cons t items =>
      refine .inr ⟨.indent 1 :: (s.tokens d ++ .mark .comma :: selectTokens d (t :: items)), ?_, ?_⟩
      · rw [selectTokens]
        · simp
        · simp
      · exact (hitem.append Tokens.breaks_comma hrest.composed).indent 1

/-- A table with its alias. -/
theorem composed_tableTokens (t : TableRef) : Composed ss t.tokens :=
  (Composed.name t.table).aliased t.aliasName

/-- A join with its condition. -/
theorem composed_joinTokens {j : Join} (h : Composed ss (j.on.tokens d)) :
    Composed ss (j.tokens d) := by
  have htable := (composed_tableTokens j.table).word (.keyword .ON) h
  have hjoin := (Composed.keyword .JOIN).append Tokens.breaks_space htable
  have htokens : j.tokens d = [.keyword .LEFT] ++ .space :: ([.keyword .JOIN] ++ .space ::
      (j.table.tokens ++ .space :: .keyword .ON :: .space :: j.on.tokens d)) := by
    simp [Join.tokens]
  rw [htokens]
  exact (Composed.keyword .LEFT).append Tokens.breaks_space hjoin

/-- The first table and the joins. -/
theorem composed_sourceTokens {q : Query} (h : ∀ j ∈ q.joins, Composed ss (j.on.tokens d)) :
    Composed ss (q.sourceTokens d) := by
  have hjoins : ∀ js : List Join, (∀ j ∈ js, Composed ss (j.on.tokens d)) →
      ComposedLines ss (js.flatMap fun j => .newline :: j.tokens d) := by
    intro js hjs
    induction js with
    | nil => exact .inl rfl
    | cons j js ih =>
      have hj := composed_joinTokens (hjs j List.mem_cons_self)
      exact .inr ⟨_, rfl, hj.lines (ih fun i hi => hjs i (List.mem_cons_of_mem j hi))⟩
  unfold sourceTokens
  cases q.source with
  | none => exact (hjoins q.joins h).composed
  | some t => exact (composed_tableTokens t).lines (hjoins q.joins h)

/-- A clause stands on a line of its own. -/
theorem composedLines_clauseTokens {k : Keyword} {ts : Option (List Token)}
    (h : ∀ us ∈ ts, Composed ss us) : ComposedLines ss (clauseTokens k ts) := by
  cases ts with
  | none => exact .inl rfl
  | some ts => exact .inr ⟨_, rfl, (Composed.keyword k).append Tokens.breaks_space (h ts rfl)⟩

/-- A list of a clause has commas between its items. -/
theorem composed_of_mem_listClause {tss : List (List Token)}
    (h : ∀ ts ∈ tss, Composed ss ts) : ∀ us ∈ listClause tss, Composed ss us := by
  intro us hus
  unfold listClause at hus
  split at hus
  · cases hus
  · obtain rfl := Option.some.inj hus
    exact Composed.commaSeparated h

/-- The limits. -/
theorem composed_pageTokens (p : Page) : Composed ss p.tokens := by
  have hword : ∀ k n, Composed ss [.keyword k, .space, .integer (rowsLiteral n)] :=
    fun k n => (Composed.keyword k).append Tokens.breaks_space (.rows n)
  obtain ⟨limit, offset⟩ := p
  cases limit with
  | none =>
    cases offset with
    | none => exact .nil
    | some k => exact hword .OFFSET k
  | some n =>
    cases offset with
    | none => exact hword .LIMIT n
    | some k => exact (hword .LIMIT n).append Tokens.breaks_space (hword .OFFSET k)

/-- The limits stand on a line of their own, if there are any. -/
theorem composedLines_page (page : Option Page) :
    ComposedLines ss (match page with
      | some p => .newline :: p.tokens
      | none => []) := by
  cases page with
  | none => exact .inl rfl
  | some p => exact .inr ⟨_, rfl, composed_pageTokens p⟩

/-- The tokens of a query are put together in its way. -/
theorem composed_tokens (d : Dialect) {q : Query} (h : q.splices ⊆ ss) :
    Composed ss (q.tokens d) := by
  simp only [splices, List.append_subset] at h
  obtain ⟨hselect, hjoins, hcondition, hgroup, horder⟩ := h
  have hitems : ComposedLines ss (selectTokens d q.select) :=
    composedLines_selectTokens fun s hs => s.expr.composed_tokens d fun _ hx =>
      hselect (List.mem_flatMap_of_mem hs hx)
  have hsource :
      ComposedLines ss (clauseTokens .FROM (q.source.map fun _ => q.sourceTokens d)) := by
    refine composedLines_clauseTokens fun ts hts => ?_
    obtain ⟨-, -, rfl⟩ := Option.map_eq_some_iff.1 hts
    exact composed_sourceTokens fun j hj => j.on.composed_tokens d fun _ hx =>
      hjoins (List.mem_flatMap_of_mem hj hx)
  have hwhere : ComposedLines ss (clauseTokens .WHERE (q.condition.map (·.tokens d))) := by
    refine composedLines_clauseTokens fun ts hts => ?_
    obtain ⟨e, he, rfl⟩ := Option.map_eq_some_iff.1 hts
    exact e.composed_tokens d fun _ hx =>
      hcondition (List.mem_flatMap_of_mem (Option.mem_toList.2 he) hx)
  have hgrouping :
      ComposedLines ss (clauseTokens .GROUP_BY (listClause (q.groupBy.map (·.tokens d)))) := by
    refine composedLines_clauseTokens (composed_of_mem_listClause (List.forall_mem_map.2 ?_))
    exact fun e he => e.composed_tokens d fun _ hx => hgroup (List.mem_flatMap_of_mem he hx)
  have hordering :
      ComposedLines ss (clauseTokens .ORDER_BY (listClause (q.orderBy.map (·.tokens d)))) := by
    refine composedLines_clauseTokens (composed_of_mem_listClause (List.forall_mem_map.2 ?_))
    intro o ho
    have hexpr : Composed ss (o.expr.tokens d) :=
      o.expr.composed_tokens d fun _ hx => horder (List.mem_flatMap_of_mem ho hx)
    unfold OrderTerm.tokens
    cases o.direction with
    | none => simpa [directionTokens] using hexpr
    | some dir => exact hexpr.append Tokens.breaks_space (.keyword _)
  have hclauses := hitems.append (hsource.append (hwhere.append (hgrouping.append
    (hordering.append (composedLines_page q.page)))))
  exact (Composed.keyword .SELECT).lines hclauses

end Query

end MetricLayer
