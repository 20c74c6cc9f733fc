import Mathlib.Data.List.Chain
import MetricLayer.Proofs.Items
import MetricLayer.Proofs.Sql.Composition
import MetricLayer.Proofs.Sql.Rendering

/-!
# Names and strings between quotes

What is written between quotes is read back as it was, whatever follows but another quote
(`Text.readQuoted_quoted`), so that two texts are never written alike. Within a query the condition
on what follows holds of itself: a quoted token stands in front of a blank, a comma, a parenthesis
or a period (`Tokens.Guarded`), and never in front of SQL that is spliced in. So each table name,
column, alias and escape character is read back in its place (`quotations_read_back`).
-/

namespace MetricLayer

/-! ## Single texts -/

namespace Text

/-- What is written between quotes is read back, and what follows is left. -/
theorem readQuoted_quoted {q : Char} {more : String} (hmore : more.toList.head? ≠ some q)
    (s : String) : readQuoted q (quoted q s ++ more).toList = some (s.toList, more.toList) := by
  unfold quoted
  rw [String.toList_append, String.toList_ofList, readQuoted_quotedChars hmore]

/-- Texts between quotes are as different as the texts. -/
theorem quoted_injective (q : Char) : Function.Injective (quoted q) := by
  intro s t hst
  have hread : ∀ s, readQuoted q (quoted q s ++ "").toList = some (s.toList, []) :=
    fun s => readQuoted_quoted (by simp) s
  have hpair : some (s.toList, []) = some (t.toList, ([] : List Char)) := by
    rw [← hread, ← hread, hst]
  exact String.toList_inj.1 (Prod.mk.inj (Option.some.inj hpair)).1

end Text

/-! ## Quoted tokens and what follows them -/

/-- The quote of a quoted token, and the text that it stands for. -/
def Token.quoted? : Token → Option (Char × String)
  | identifier name => some ('"', name)
  | string s => some ('\'', s)
  | _ => none

/-- A quoted token is written as its text between its quotes. -/
theorem Token.render_quoted (d : Dialect) {t : Token} {q : Char} {s : String}
    (ht : t.quoted? = some (q, s)) : t.render d = Text.quoted q s := by
  cases t with
  | identifier name =>
    obtain ⟨rfl, rfl⟩ := Prod.mk.inj (Option.some.inj ht)
    rfl
  | string text =>
    obtain ⟨rfl, rfl⟩ := Prod.mk.inj (Option.some.inj ht)
    rfl
  | _ => cases ht

/-- The text of a token begins with a character that is no quote. -/
def Token.StartsPlain (d : Dialect) (t : Token) : Prop :=
  ∃ c cs, (t.render d).toList = c :: cs ∧ c ≠ '"' ∧ c ≠ '\''

/-- The text of a separating token begins with no quote. -/
theorem Token.Breaks.startsPlain {t : Token} (h : t.Breaks) (d : Dialect) : t.StartsPlain d := by
  simp only [Token.Breaks, List.mem_cons, List.not_mem_nil, or_false] at h
  rcases h with rfl | rfl | rfl | rfl | rfl
  · exact ⟨' ', [], by simp [Token.render], by decide⟩
  · exact ⟨'\n', [], by simp [Token.render], by decide⟩
  · exact ⟨',', [], by simp [Token.render, Mark.text], by decide⟩
  · exact ⟨'(', [], by simp [Token.render, Mark.text], by decide⟩
  · exact ⟨')', [], by simp [Token.render, Mark.text], by decide⟩

/-- A separating token is not quoted. -/
theorem Token.Breaks.quoted?_eq_none {t : Token} (h : t.Breaks) : t.quoted? = none := by
  simp only [Token.Breaks, List.mem_cons, List.not_mem_nil, or_false] at h
  rcases h with rfl | rfl | rfl | rfl | rfl <;> rfl

namespace Tokens

variable {d : Dialect} {ss : List String} {ts us : List Token}

/-- The token that follows a quoted one begins with no quote. -/
def Guards (d : Dialect) (t u : Token) : Prop :=
  t.quoted? ≠ none → u.StartsPlain d

/-- Every quoted token is the last one, or the next one begins with no quote. -/
def Guarded (d : Dialect) (ts : List Token) : Prop :=
  ts.IsChain (Guards d)

/-- In front of a token that begins with no quote there may be any other. -/
theorem guarded_append_cons {u : Token} (hts : Guarded d ts) (hu : u.StartsPlain d)
    (hus : Guarded d (u :: us)) : Guarded d (ts ++ u :: us) := by
  refine List.isChain_append.2 ⟨hts, hus, fun _ _ v hv _ => ?_⟩
  obtain rfl : u = v := Option.some.inj hv
  exact hu

/-- Behind a token that is not quoted there may be any other. -/
theorem guarded_cons {t : Token} (ht : t.quoted? = none) (hts : Guarded d ts) :
    Guarded d (t :: ts) :=
  List.isChain_cons.2 ⟨fun _ _ hquoted => absurd ht hquoted, hts⟩

/-- Tokens that are put together in the way of a query are guarded. -/
theorem Composed.guarded (h : Composed ss ts) : Guarded d ts := by
  induction h with
  | nil => exact List.isChain_nil
  | qualifiedName table name =>
    have hdot : (Token.mark .dot).StartsPlain d :=
      ⟨'.', [], by simp [Token.render, Mark.text], by decide⟩
    exact guarded_append_cons (List.isChain_singleton (.identifier table)) hdot
      (guarded_cons rfl (List.isChain_singleton _))
  | quarterMonth _ ih =>
    -- The fragment behind the month begins with a space.
    have htext : " AS INTEGER) - 1) / 3) * 3 + 1".toList =
        ' ' :: "AS INTEGER) - 1) / 3) * 3 + 1".toList := by decide
    have hlast : (Token.raw " AS INTEGER) - 1) / 3) * 3 + 1").StartsPlain d :=
      ⟨' ', _, htext, by decide⟩
    exact guarded_cons rfl (guarded_append_cons ih hlast (List.isChain_singleton _))
  | indent level _ ih => exact guarded_cons rfl ih
  | append _ ht _ ihts ihus =>
    exact guarded_append_cons ihts (ht.startsPlain d) (guarded_cons ht.quoted?_eq_none ihus)
  | _ => exact List.isChain_singleton _

/-- A quoted token among guarded ones is read back in its place. -/
theorem Guarded.readQuoted {before after : List Token} {t : Token} {q : Char} {s : String}
    (h : Guarded d (before ++ t :: after)) (ht : t.quoted? = some (q, s)) :
    Text.readQuoted q (t.render d ++ render d after).toList =
      some (s.toList, (render d after).toList) := by
  rw [Token.render_quoted d ht]
  refine Text.readQuoted_quoted ?_ s
  have htail : (t :: after).IsChain (Guards d) := h.right_of_append
  cases after with
  | nil => simp
  | cons u us =>
    have hfollows : u.StartsPlain d := htail.rel (by simp [ht])
    obtain ⟨c, cs, hrender, hdouble, hsingle⟩ := hfollows
    have hq : c ≠ q := by
      cases t with
      | identifier name => exact (Prod.mk.inj (Option.some.inj ht)).1 ▸ hdouble
      | string text => exact (Prod.mk.inj (Option.some.inj ht)).1 ▸ hsingle
      | _ => cases ht
    rw [render_cons, String.toList_append, hrender]
    simpa using hq

end Tokens

/-! ## The quotations of a query -/

mutual

/-- The tokens of the names and the escape characters of an expression. What is compared with no
values is not written. -/
def Expr.quotations : Expr → List Token
  | .column none name => [.identifier name]
  | .column (some table) name => [.identifier table, .identifier name]
  | .binary _ left right => left.quotations ++ right.quotations
  | .isIn _ _ [] => []
  | .isIn _ operand (v :: vs) => operand.quotations ++ listQuotations (v :: vs)
  | .between _ operand low high => operand.quotations ++ (low.quotations ++ high.quotations)
  | .like _ _ escape operand pattern =>
    operand.quotations ++ (pattern.quotations ++ [.string (String.singleton escape)])
  | .param _ => []
  | .bucket _ operand => operand.quotations
  | .raw _ => []

/-- The tokens of the names and the escape characters of expressions. -/
def Expr.listQuotations : List Expr → List Token
  | [] => []
  | e :: es => e.quotations ++ listQuotations es

end

/-- The tokens of a table name and an alias. -/
def TableRef.quotations (t : TableRef) : List Token :=
  .identifier t.table :: t.aliasName.toList.map .identifier

/-- The tokens of the table names, columns, aliases and escape characters of a query. Joins are
written only together with a first table. -/
def Query.quotations (q : Query) : List Token :=
  q.select.flatMap (fun s => s.expr.quotations ++ s.aliasName.toList.map .identifier) ++
    (q.source.toList.flatMap (fun t => t.quotations ++
      q.joins.flatMap fun j => j.table.quotations ++ j.on.quotations) ++
    (q.condition.toList.flatMap (·.quotations) ++ (q.groupBy.flatMap (·.quotations) ++
    q.orderBy.flatMap (·.expr.quotations))))

namespace Tokens

/-- A list of tokens is written among those with commas. -/
theorem subset_commaSeparated {tss : List (List Token)} {ts : List Token} (h : ts ∈ tss) :
    ts ⊆ commaSeparated tss := by
  unfold commaSeparated
  intro t ht
  induction tss with
  | nil => cases h
  | cons us tss ih =>
    cases tss with
    | nil =>
      obtain rfl := List.mem_singleton.1 h
      simpa using ht
    | cons vs tss =>
      rw [List.intercalate_cons_cons]
      rcases List.mem_cons.1 h with rfl | h
      · exact List.mem_append_left _ (List.mem_append_left _ ht)
      · exact List.mem_append_right _ (ih h)

/-- The tokens of an argument stand in a call. -/
theorem subset_call {tss : List (List Token)} {ts : List Token} (h : ts ∈ tss) (name : String) :
    ts ⊆ call name tss := by
  intro t ht
  simp [call, subset_commaSeparated h ht]

/-- The tokens of a timestamp stand in those of its bucket. -/
theorem subset_bucketTokens (d : Dialect) (g : Granularity) (ts : List Token) :
    ts ⊆ bucketTokens d g ts := by
  cases d with
  | postgres => exact subset_call (by simp) _
  | duckdb => exact subset_call (by simp) _
  | sqlite =>
    cases g with
    | quarter =>
      have hyear : ts ⊆ strftimeTokens "%Y" ts := subset_call (by simp) _
      exact List.Subset.trans hyear (subset_call (by simp) _)
    | _ => exact subset_call (by simp) _

/-- The tokens in lower case. -/
theorem subset_lowerTokens (lower : Bool) (ts : List Token) : ts ⊆ Expr.lowerTokens lower ts := by
  cases lower with
  | false => exact List.Subset.refl _
  | true => exact subset_call (by simp) _

end Tokens

/-- The tokens of the operand, the pattern and the escape character stand in those of a match. -/
theorem Expr.subset_likeTokens (d : Dialect) (negated caseInsensitive : Bool) (escape : Char)
    (ts us : List Token) :
    ts ++ (us ++ [.string (String.singleton escape)]) ⊆
      likeTokens d negated caseInsensitive escape ts us := by
  have hlower : ∀ {lower : Bool} {ts : List Token} {t : Token}, t ∈ ts → t ∈ lowerTokens lower ts :=
    fun ht => Tokens.subset_lowerTokens _ _ ht
  unfold likeTokens
  refine List.append_subset.2 ⟨fun t ht => ?_, List.append_subset.2 ⟨fun t ht => ?_, ?_⟩⟩
  · simp [hlower ht]
  · simp [hlower ht]
  · simp

mutual

/-- The quotations of an expression are among its tokens. -/
theorem Expr.quotations_subset_tokens (d : Dialect) : (e : Expr) → e.quotations ⊆ e.tokens d
  | .column none name => by simp [Expr.quotations, Expr.tokens]
  | .column (some table) name => by simp [Expr.quotations, Expr.tokens]
  | .binary op left right => by
    have hleft := Expr.quotations_subset_tokens d left
    have hright := Expr.quotations_subset_tokens d right
    rw [Expr.quotations, Expr.tokens]
    refine List.append_subset.2 ⟨fun t ht => ?_, fun t ht => ?_⟩
    · simp [hleft ht]
    · simp [hright ht]
  | .isIn negated operand [] => by simp [Expr.quotations]
  | .isIn negated operand (v :: vs) => by
    have hoperand := Expr.quotations_subset_tokens d operand
    have hvalues := Expr.listQuotations_subset_listTokens d (v :: vs)
    rw [Expr.quotations, Expr.tokens]
    refine List.append_subset.2 ⟨fun t ht => ?_, fun t ht => ?_⟩
    · simp [hoperand ht]
    · simp [hvalues ht]
  | .between negated operand low high => by
    have hoperand := Expr.quotations_subset_tokens d operand
    have hlow := Expr.quotations_subset_tokens d low
    have hhigh := Expr.quotations_subset_tokens d high
    rw [Expr.quotations, Expr.tokens, List.append_subset, List.append_subset]
    refine ⟨fun t ht => ?_, fun t ht => ?_, fun t ht => ?_⟩
    · simp [hoperand ht]
    · simp [hlow ht]
    · simp [hhigh ht]
  | .like negated caseInsensitive escape operand pattern => by
    have hoperand := Expr.quotations_subset_tokens d operand
    have hpattern := Expr.quotations_subset_tokens d pattern
    rw [Expr.quotations, Expr.tokens]
    refine List.Subset.trans ?_ (Expr.subset_likeTokens d negated caseInsensitive escape _ _)
    exact append_subset_append hoperand (append_subset_append hpattern (List.Subset.refl _))
  | .param n => by simp [Expr.quotations]
  | .bucket g operand => by
    rw [Expr.quotations, Expr.tokens]
    exact List.Subset.trans (Expr.quotations_subset_tokens d operand)
      (Tokens.subset_bucketTokens d g _)
  | .raw sql => by simp [Expr.quotations]

/-- The quotations of expressions are among their tokens. -/
theorem Expr.listQuotations_subset_listTokens (d : Dialect) :
    (es : List Expr) → Expr.listQuotations es ⊆ Expr.listTokens d es
  | [] => by simp [Expr.listQuotations]
  | [e] => by
    rw [Expr.listQuotations, Expr.listTokens, Expr.listQuotations, List.append_nil]
    exact Expr.quotations_subset_tokens d e
  | e :: e' :: es => by
    have hfirst := Expr.quotations_subset_tokens d e
    have hrest := Expr.listQuotations_subset_listTokens d (e' :: es)
    rw [Expr.listQuotations, Expr.listTokens]
    · refine List.append_subset.2 ⟨fun t ht => ?_, fun t ht => ?_⟩
      · simp [hfirst ht]
      · simp [hrest ht]
    · simp

end

namespace Query

variable (d : Dialect)

/-- An alias is among the tokens that are written for it. -/
theorem subset_aliasTokens (a : Option String) : a.toList.map .identifier ⊆ aliasTokens a := by
  cases a <;> simp [aliasTokens]

/-- The quotations of an item of the select list are among the tokens of the list. -/
theorem subset_selectTokens {items : List SelectItem} {s : SelectItem} (hs : s ∈ items) :
    s.expr.quotations ++ s.aliasName.toList.map .identifier ⊆ selectTokens d items := by
  have hitem : s.expr.quotations ++ s.aliasName.toList.map .identifier ⊆ s.tokens d :=
    append_subset_append (s.expr.quotations_subset_tokens d) (subset_aliasTokens _)
  refine List.Subset.trans hitem fun t ht => ?_
  induction items with
  | nil => cases hs
  | cons s' items ih =>
    cases items with
    | nil =>
      obtain rfl := List.mem_singleton.1 hs
      simp [selectTokens, ht]
    | cons s'' items =>
      rw [selectTokens]
      · rcases List.mem_cons.1 hs with rfl | hs
        · simp [ht]
        · simp [ih hs]
      · simp

/-- The quotations of a table are among its tokens. -/
theorem subset_tableTokens (t : TableRef) : t.quotations ⊆ t.tokens :=
  List.cons_subset_cons _ (subset_aliasTokens t.aliasName)

/-- The quotations of the tables and joins are among their tokens. -/
theorem subset_sourceTokens {q : Query} {t : TableRef} (ht : q.source = some t) :
    (t.quotations ++ q.joins.flatMap fun j => j.table.quotations ++ j.on.quotations) ⊆
      q.sourceTokens d := by
  have hjoin : ∀ j : Join, j.table.quotations ++ j.on.quotations ⊆ .newline :: j.tokens d := by
    intro j
    have htable := subset_tableTokens j.table
    have hon := j.on.quotations_subset_tokens d
    unfold Join.tokens
    refine List.append_subset.2 ⟨fun u hu => ?_, fun u hu => ?_⟩
    · simp [htable hu]
    · simp [hon hu]
  unfold sourceTokens
  rw [ht]
  refine append_subset_append (subset_tableTokens t) fun u hu => ?_
  obtain ⟨j, hj, hu⟩ := List.mem_flatMap.1 hu
  exact List.mem_flatMap.2 ⟨j, hj, hjoin j hu⟩

/-- What is among the items of a clause is among the tokens of the clause. -/
theorem subset_listClause {tss : List (List Token)} {ts : List Token} (h : ts ∈ tss) (k : Keyword) :
    ts ⊆ clauseTokens k (listClause tss) := by
  intro t ht
  have hne : tss.isEmpty = false := by
    cases tss with
    | nil => cases h
    | cons us tss => rfl
  simp [clauseTokens, listClause, hne, Tokens.subset_commaSeparated h ht]

/-- The quotations of a query are among its tokens. -/
theorem quotations_subset_tokens (q : Query) : q.quotations ⊆ q.tokens d := by
  have hselect : q.select.flatMap (fun s => s.expr.quotations ++
      s.aliasName.toList.map .identifier) ⊆ selectTokens d q.select := by
    intro t ht
    obtain ⟨s, hs, ht⟩ := List.mem_flatMap.1 ht
    exact subset_selectTokens d hs ht
  have hsource : q.source.toList.flatMap (fun t => t.quotations ++
      q.joins.flatMap fun j => j.table.quotations ++ j.on.quotations) ⊆
        clauseTokens .FROM (q.source.map fun _ => q.sourceTokens d) := by
    intro u hu
    obtain ⟨t, ht, hu⟩ := List.mem_flatMap.1 hu
    rw [Option.mem_toList.1 ht, Option.map_some]
    simp [clauseTokens, subset_sourceTokens d (Option.mem_toList.1 ht) hu]
  have hcondition : q.condition.toList.flatMap (·.quotations) ⊆
      clauseTokens .WHERE (q.condition.map (·.tokens d)) := by
    intro t ht
    obtain ⟨e, he, ht⟩ := List.mem_flatMap.1 ht
    rw [Option.mem_toList.1 he, Option.map_some]
    simp [clauseTokens, e.quotations_subset_tokens d ht]
  have hgroup : q.groupBy.flatMap (·.quotations) ⊆
      clauseTokens .GROUP_BY (listClause (q.groupBy.map (·.tokens d))) := by
    intro t ht
    obtain ⟨e, he, ht⟩ := List.mem_flatMap.1 ht
    exact subset_listClause (List.mem_map_of_mem he) _ (e.quotations_subset_tokens d ht)
  have horder : q.orderBy.flatMap (·.expr.quotations) ⊆
      clauseTokens .ORDER_BY (listClause (q.orderBy.map (·.tokens d))) := by
    intro t ht
    obtain ⟨o, ho, ht⟩ := List.mem_flatMap.1 ht
    refine subset_listClause (List.mem_map_of_mem ho) _ ?_
    exact List.mem_append_left _ (o.expr.quotations_subset_tokens d ht)
  unfold quotations tokens
  refine List.subset_cons_of_subset _ (append_subset_append hselect
    (append_subset_append hsource (append_subset_append hcondition
      (append_subset_append hgroup ?_))))
  exact List.subset_append_of_subset_left _ horder

end Query

/-! ## Reading back -/

/-- Quoted names and strings are read back, whatever follows but the same quote, and so no two texts
are written alike. In a query every table name, column, alias and escape character is written as a
quoted token, and every quoted token is read back in its place. -/
theorem quotations_read_back (d : Dialect) :
    (∀ name more : String, more.toList.head? ≠ some '"' →
      Text.readQuoted '"' ((Token.identifier name).render d ++ more).toList =
        some (name.toList, more.toList)) ∧
      (∀ s more : String, more.toList.head? ≠ some '\'' →
        Text.readQuoted '\'' ((Token.string s).render d ++ more).toList =
          some (s.toList, more.toList)) ∧
      Function.Injective quoteIdentifier ∧ Function.Injective quoteString ∧
      ∀ q : Query, q.quotations ⊆ q.tokens d ∧
        ∀ before t after quote s, q.tokens d = before ++ t :: after → t.quoted? = some (quote, s) →
          q.sql d = Tokens.render d before ++ (t.render d ++ Tokens.render d after) ∧
          Text.readQuoted quote (t.render d ++ Tokens.render d after).toList =
            some (s.toList, (Tokens.render d after).toList) := by
  refine ⟨fun name more hmore => Text.readQuoted_quoted hmore name,
    fun s more hmore => Text.readQuoted_quoted hmore s, Text.quoted_injective '"',
    Text.quoted_injective '\'', fun q => ⟨q.quotations_subset_tokens d, ?_⟩⟩
  intro before t after quote s htokens ht
  have hguarded : Tokens.Guarded d (q.tokens d) :=
    (Query.composed_tokens d (List.Subset.refl q.splices)).guarded
  refine ⟨?_, Tokens.Guarded.readQuoted (htokens ▸ hguarded) ht⟩
  rw [Query.sql, htokens, Tokens.render_append, Tokens.render_cons]

/-- A query whose names are full of quotes, with an alias that looks like SQL and a quote as escape
character. -/
def hostileQuery : Query where
  select := [⟨.column (some "v\"") "\"\"", some "x\" FROM secrets --"⟩]
  source := some ⟨"views'", none⟩
  condition := some (.like false true '\'' (.column none "\"a") (.param 1))

/-- A name of quotes, a string of quotes, the alias that looks like SQL and the escape character are
read back. -/
theorem quotations_read_back_hostileQuery :
    let t := Token.identifier "x\" FROM secrets --"
    let ts := hostileQuery.tokens .sqlite
    (" AS".toList.head? ≠ some '"' ∧
      Text.readQuoted '"' ((Token.identifier "\"\"").render .sqlite ++ " AS").toList =
        some ("\"\"".toList, " AS".toList)) ∧
      ("\", 1)".toList.head? ≠ some '\'' ∧
        Text.readQuoted '\'' ((Token.string "it's '").render .sqlite ++ "\", 1)").toList =
          some ("it's '".toList, "\", 1)".toList)) ∧
      (ts = ts.take 9 ++ t :: ts.drop 10 ∧
        Text.readQuoted '"' (t.render .sqlite ++ Tokens.render .sqlite (ts.drop 10)).toList =
          some ("x\" FROM secrets --".toList, (Tokens.render .sqlite (ts.drop 10)).toList)) ∧
      ts = ts.dropLast ++ [.string "'"] ∧
        Text.readQuoted '\'' ((Token.string "'").render .sqlite ++ "").toList =
          some ("'".toList, []) := by
  intro t ts
  obtain ⟨hnames, hstrings, -, -, hqueries⟩ := quotations_read_back .sqlite
  have halias : ts = ts.take 9 ++ t :: ts.drop 10 := by decide +kernel
  have hescape : ts = ts.dropLast ++ [.string "'"] := by decide +kernel
  have hname : " AS".toList.head? ≠ some '"' := by decide
  have hstring : "\", 1)".toList.head? ≠ some '\'' := by decide
  have hreads := (hqueries hostileQuery).2
  exact ⟨⟨hname, hnames "\"\"" " AS" hname⟩, ⟨hstring, hstrings "it's '" _ hstring⟩,
    ⟨halias, (hreads _ t _ _ _ halias rfl).2⟩, hescape, (hreads _ _ _ _ _ hescape rfl).2⟩

end MetricLayer
