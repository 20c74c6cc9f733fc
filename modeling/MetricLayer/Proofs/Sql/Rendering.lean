import MetricLayer.Sql.Query

/-!
# The text of a query

The text of tokens, clause by clause. `Query.sql_eq` says that the text of a query consists of the
texts of its clauses, each on a line of its own under its keyword.
-/

namespace MetricLayer

namespace Tokens

variable (d : Dialect)

/-- No tokens have no text. -/
@[simp] theorem render_nil : render d [] = "" := rfl

/-- The text of a token comes before that of the tokens that follow it. -/
@[simp] theorem render_cons (t : Token) (ts : List Token) :
    render d (t :: ts) = t.render d ++ render d ts := by
  apply String.toList_inj.1
  simp [render]

/-- Commas between lists of tokens are commas between their texts. -/
theorem render_commaSeparated (tss : List (List Token)) :
    render d (commaSeparated tss) = ", ".intercalate (tss.map (render d)) := by
  unfold commaSeparated
  induction tss with
  | nil => rfl
  | cons ts tss ih =>
    cases tss with
    | nil => simp
    | cons us tss =>
      rw [List.intercalate_cons_cons, render_append, render_append, ih]
      simp only [List.map_cons, String.intercalate_cons_cons]
      rfl

end Tokens

/-- The literal of a number of rows is that number, or the greatest one that can be written. -/
theorem toInt_rowsLiteral (n : UInt64) :
    (rowsLiteral n).toInt = (min n.toNat 0x7fffffffffffffff : Nat) := by
  have hlt : min n.toNat 0x7fffffffffffffff < 2 ^ 63 := by omega
  rw [rowsLiteral, Int64.toInt_ofNat_of_lt hlt]

/-- A number of rows that a query can name is written as it is. -/
theorem repr_rowsLiteral {n : UInt64} (h : n.toNat ≤ 0x7fffffffffffffff) :
    (rowsLiteral n).toInt.repr = n.toNat.repr := by
  rw [toInt_rowsLiteral, Nat.min_eq_left h]
  rfl

/-! ## Parts of clauses -/

/-- The text of an alias. -/
def aliasText : Option String → String
  | some a => " AS " ++ quoteIdentifier a
  | none => ""

/-- The text of a table with its alias. -/
def TableRef.text (t : TableRef) : String :=
  quoteIdentifier t.table ++ aliasText t.aliasName

/-- The text of a join, on a line of its own. -/
def Join.text (d : Dialect) (j : Join) : String :=
  "\nLEFT JOIN " ++ j.table.text ++ " ON " ++ j.on.sql d

/-- The text of an item of the select list, on a line of its own. -/
def SelectItem.text (d : Dialect) (s : SelectItem) : String :=
  "\n  " ++ s.expr.sql d ++ aliasText s.aliasName

/-- The text of the limits. -/
def Page.text : Page → String
  | ⟨some n, some k⟩ =>
    "LIMIT " ++ toString (rowsLiteral n).toInt ++ " OFFSET " ++ toString (rowsLiteral k).toInt
  | ⟨some n, none⟩ => "LIMIT " ++ toString (rowsLiteral n).toInt
  | ⟨none, some k⟩ => "OFFSET " ++ toString (rowsLiteral k).toInt
  | ⟨none, none⟩ => ""

/-- An alias is written with its keyword. -/
theorem render_aliasTokens (d : Dialect) (a : Option String) :
    Tokens.render d (aliasTokens a) = aliasText a := by
  cases a with
  | none => rfl
  | some a => simp [aliasTokens, aliasText, Token.render, Keyword.text, ← String.append_assoc]

/-- A table is written with its alias. -/
theorem TableRef.render_tokens (d : Dialect) (t : TableRef) :
    Tokens.render d t.tokens = t.text := by
  rw [TableRef.tokens, Tokens.render_cons, render_aliasTokens]
  rfl

/-- A join is written with its table and its condition. -/
theorem Join.render_tokens (d : Dialect) (j : Join) :
    Tokens.render d (.newline :: j.tokens d) = j.text d := by
  unfold Join.tokens Join.text Expr.sql
  simp [TableRef.render_tokens, Token.render, Keyword.text, ← String.append_assoc]

/-- The limits are written with their keywords. -/
theorem Page.render_tokens (d : Dialect) (p : Page) : Tokens.render d p.tokens = p.text := by
  obtain ⟨limit, offset⟩ := p
  cases limit <;> cases offset <;>
    simp [Page.tokens, Page.text, Token.render, Keyword.text, ← String.append_assoc]

namespace Query

variable (d : Dialect)

/-- The text of a clause that may be absent, on a line of its own with its keyword. -/
def clauseText (k : Keyword) : Option String → String
  | some s => "\n" ++ k.text ++ " " ++ s
  | none => ""

/-- Texts with commas between them; none if there are no texts. -/
def listText (ss : List String) : Option String :=
  if ss.isEmpty then none else some (", ".intercalate ss)

/-- The select list is written with a comma behind each item but the last. -/
theorem render_selectTokens (items : List SelectItem) :
    Tokens.render d (selectTokens d items) = ",".intercalate (items.map (·.text d)) := by
  have hitem : ∀ s : SelectItem,
      Tokens.render d ([.newline, .indent 1] ++ s.tokens d) = s.text d := by
    intro s
    unfold SelectItem.tokens SelectItem.text Expr.sql
    rw [Tokens.render_append, Tokens.render_append, render_aliasTokens, ← String.append_assoc]
    rfl
  induction items with
  | nil => rfl
  | cons s items ih =>
    cases items with
    | nil => rw [selectTokens, hitem, List.map_singleton, String.intercalate_singleton]
    | cons t items =>
      rw [selectTokens, Tokens.render_append, hitem, Tokens.render_cons, ih]
      · simp only [List.map_cons, String.intercalate_cons_cons]
        rw [← String.append_assoc]
        rfl
      · simp

/-- The tables are written one after the other. -/
theorem sourceSql_eq (q : Query) :
    q.sourceSql d =
      String.join (q.source.toList.map TableRef.text) ++ String.join (q.joins.map (·.text d)) := by
  have hjoins : ∀ js : List Join,
      Tokens.render d (js.flatMap fun j => .newline :: j.tokens d) =
        String.join (js.map (·.text d)) := by
    intro js
    induction js with
    | nil => rfl
    | cons j js ih =>
      rw [List.flatMap_cons, Tokens.render_append, Join.render_tokens, ih, List.map_cons,
        String.join_cons]
  unfold sourceSql sourceTokens
  rw [Tokens.render_append, hjoins]
  cases q.source with
  | none => rfl
  | some t =>
    rw [Option.toList_some, List.map_singleton, TableRef.render_tokens]
    simp

/-- A clause is written with its keyword, if it is there. -/
theorem render_clauseTokens (k : Keyword) (ts : Option (List Token)) :
    Tokens.render d (clauseTokens k ts) = clauseText k (ts.map (Tokens.render d)) := by
  cases ts with
  | none => rfl
  | some ts => simp [clauseTokens, clauseText, Token.render, ← String.append_assoc]

/-- A clause of a list is written with commas, if the list has items. -/
theorem map_render_listClause (tss : List (List Token)) :
    (listClause tss).map (Tokens.render d) = listText (tss.map (Tokens.render d)) := by
  cases tss with
  | nil => rfl
  | cons ts tss => simp [listClause, listText, Tokens.render_commaSeparated]

/-- A list of texts is written after its keyword, with commas. -/
theorem clauseText_listText (keyword : Keyword) (texts : List String) :
    clauseText keyword (listText texts) =
      if texts = [] then "" else "\n" ++ keyword.text ++ " " ++ ", ".intercalate texts := by
  cases texts with
  | nil => rfl
  | cons t ts => simp [listText, clauseText]

/-- The text of a query consists of the texts of its clauses. -/
theorem sql_eq (q : Query) :
    q.sql d =
      "SELECT" ++ ",".intercalate (q.select.map (·.text d)) ++
        clauseText .FROM (q.source.map fun _ => q.sourceSql d) ++
        clauseText .WHERE (q.condition.map (·.sql d)) ++
        clauseText .GROUP_BY (listText (q.groupBy.map (·.sql d))) ++
        clauseText .ORDER_BY (listText (q.orderBy.map fun o => Tokens.render d (o.tokens d))) ++
        (q.page.map fun p => "\n" ++ p.text).getD "" := by
  unfold sql tokens
  rw [Tokens.render_cons, Tokens.render_append, Tokens.render_append, Tokens.render_append,
    Tokens.render_append, Tokens.render_append, render_selectTokens, render_clauseTokens,
    render_clauseTokens, render_clauseTokens, render_clauseTokens, map_render_listClause,
    map_render_listClause]
  simp only [Option.map_map, List.map_map, String.append_assoc]
  cases q.page with
  | none => rfl
  | some p =>
    rw [Tokens.render_cons, Page.render_tokens]
    rfl

end Query

end MetricLayer
