import MetricLayer.Compile.Selection
import MetricLayer.Sql.Query

/-!
# Placeholders of expressions and queries

The numbers of the placeholders of an expression, constructor by constructor, and of a query, clause
by clause (`Query.placeholders_eq`). A dialect matters in one place only: the quarter of SQLite
writes its operand twice.
-/

namespace MetricLayer

namespace Tokens

/-- A placeholder comes before those that follow it. -/
@[simp] theorem placeholders_placeholder_cons (n : Nat) (ts : List Token) :
    placeholders (.placeholder n :: ts) = n :: placeholders ts := rfl

/-- No tokens have no placeholders. -/
@[simp] theorem placeholders_nil : placeholders [] = [] := rfl

/-- A token that is no placeholder adds none. -/
theorem placeholders_cons_of_ne {t : Token} (ts : List Token) (ht : ∀ n, t ≠ .placeholder n) :
    placeholders (t :: ts) = placeholders ts := by
  cases t with
  | placeholder n => exact absurd rfl (ht n)
  | _ => rfl

/-- Commas between lists of tokens add no placeholder. -/
@[simp] theorem placeholders_commaSeparated (tss : List (List Token)) :
    placeholders (commaSeparated tss) = tss.flatMap placeholders := by
  unfold commaSeparated
  induction tss with
  | nil => rfl
  | cons ts tss ih =>
    -- A comma is written only if another list follows.
    cases tss with
    | nil => simp
    | cons us tss =>
      rw [List.intercalate_cons_cons, placeholders_append, placeholders_append, ih]
      simp [commaSpace, placeholders_cons_of_ne]

/-- A call has the placeholders of its arguments. -/
@[simp] theorem placeholders_call (name : String) (args : List (List Token)) :
    placeholders (call name args) = args.flatMap placeholders := by
  unfold call
  rw [placeholders_cons_of_ne _ (by simp), placeholders_cons_of_ne _ (by simp), placeholders_append,
    placeholders_commaSeparated, placeholders_cons_of_ne _ (by simp), placeholders_nil,
    List.append_nil]

/-- A bucket has the placeholders of its timestamp, twice in the quarter of SQLite. -/
theorem placeholders_bucketTokens (d : Dialect) (g : Granularity) (ts : List Token) :
    placeholders (bucketTokens d g ts) =
      if d = .sqlite ∧ g = .quarter then placeholders ts ++ placeholders ts
      else placeholders ts := by
  cases d with
  | postgres => simp [bucketTokens, placeholders_cons_of_ne]
  | duckdb => simp [bucketTokens, placeholders_cons_of_ne]
  | sqlite =>
    cases g <;> simp [bucketTokens, sqliteBucketTokens, strftimeTokens, quarterMonthTokens,
      placeholders_cons_of_ne]

end Tokens

namespace Expr

open Tokens

/-- The numbers of the placeholders of an expression, from left to right. -/
def placeholders (d : Dialect) (e : Expr) : List Nat :=
  Tokens.placeholders (e.tokens d)

variable (d : Dialect)

/-- A column has no placeholder. -/
@[simp] theorem placeholders_column (table : Option String) (name : String) :
    (column table name).placeholders d = [] := by
  cases table with
  | none => rfl
  | some t => rfl

/-- Registered SQL has no placeholder. -/
@[simp] theorem placeholders_raw (sql : String) : (raw sql).placeholders d = [] := rfl

/-- A parameter is one placeholder. -/
@[simp] theorem placeholders_param (n : Nat) : (param n).placeholders d = [n] := rfl

/-- The placeholders of two operands follow each other. -/
@[simp] theorem placeholders_binary (op : BinaryOp) (left right : Expr) :
    (binary op left right).placeholders d = left.placeholders d ++ right.placeholders d := by
  unfold placeholders
  rw [Expr.tokens, placeholders_append, placeholders_cons_of_ne _ (by simp),
    placeholders_cons_of_ne _ (by cases op <;> simp [BinaryOp.token]),
    placeholders_cons_of_ne _ (by simp)]

/-- Expressions with commas between them have the placeholders of each. -/
theorem placeholders_listTokens (es : List Expr) :
    Tokens.placeholders (listTokens d es) = es.flatMap (placeholders d) := by
  induction es with
  | nil => rfl
  | cons e es ih =>
    cases es with
    | nil => simp [listTokens, placeholders]
    | cons e' es =>
      rw [listTokens, placeholders_append, placeholders_cons_of_ne _ (by simp),
        placeholders_cons_of_ne _ (by simp), ih]
      · rfl
      · simp

/-- Negation adds no placeholder. -/
@[simp] theorem placeholders_notTokens (negated : Bool) :
    Tokens.placeholders (notTokens negated) = [] := by
  cases negated with
  | false => rfl
  | true => rfl

/-- Lower case adds no placeholder. -/
@[simp] theorem placeholders_lowerTokens (lower : Bool) (ts : List Token) :
    Tokens.placeholders (lowerTokens lower ts) = Tokens.placeholders ts := by
  cases lower with
  | false => rfl
  | true => simp [lowerTokens]

/-- The placeholders of a membership are those of the operand and of the values, if there is a
value: membership in no values does not write the operand. -/
@[simp] theorem placeholders_isIn (negated : Bool) (operand : Expr) (values : List Expr) :
    (isIn negated operand values).placeholders d =
      if values.isEmpty then [] else operand.placeholders d ++ values.flatMap (placeholders d) := by
  cases values with
  | nil => rfl
  | cons v vs =>
    unfold placeholders
    rw [Expr.tokens, placeholders_append, placeholders_append, placeholders_notTokens,
      placeholders_cons_of_ne _ (by simp), placeholders_cons_of_ne _ (by simp),
      placeholders_cons_of_ne _ (by simp), placeholders_cons_of_ne _ (by simp),
      placeholders_append, placeholders_listTokens, placeholders_cons_of_ne _ (by simp)]
    simp only [Tokens.placeholders_nil, List.nil_append, List.append_nil]
    rfl

/-- The placeholders of an interval follow those of its operand. -/
@[simp] theorem placeholders_between (negated : Bool) (operand low high : Expr) :
    (between negated operand low high).placeholders d =
      operand.placeholders d ++ (low.placeholders d ++ high.placeholders d) := by
  simp [placeholders, Expr.tokens, placeholders_cons_of_ne]

/-- The placeholders of a match are those of its operand and its pattern, in every dialect. -/
@[simp] theorem placeholders_like (negated caseInsensitive : Bool) (escape : Char)
    (operand pattern : Expr) :
    (like negated caseInsensitive escape operand pattern).placeholders d =
      operand.placeholders d ++ pattern.placeholders d := by
  simp [placeholders, Expr.tokens, likeTokens, placeholders_cons_of_ne]

/-- A bucket has the placeholders of its operand, twice in the quarter of SQLite. -/
theorem placeholders_bucket (g : Granularity) (operand : Expr) :
    (bucket g operand).placeholders d =
      if d = .sqlite ∧ g = .quarter then operand.placeholders d ++ operand.placeholders d
      else operand.placeholders d := by
  unfold placeholders
  rw [Expr.tokens, placeholders_bucketTokens]

end Expr

/-- The expression of an operand has no placeholder, in whatever form a dialect writes its
bucket. -/
@[simp] theorem Operand.placeholders_expr (d : Dialect) (o : Operand) :
    o.expr.placeholders d = [] := by
  unfold Operand.expr
  cases o.grain with
  | none => rfl
  | some g => simp [Expr.placeholders_bucket]

namespace Query

open Tokens

/-- An alias has no placeholder. -/
@[simp] theorem placeholders_aliasTokens (a : Option String) :
    Tokens.placeholders (aliasTokens a) = [] := by
  cases a with
  | none => rfl
  | some a => rfl

/-- A select list has the placeholders of its items. -/
theorem placeholders_selectTokens (d : Dialect) (items : List SelectItem) :
    Tokens.placeholders (selectTokens d items) = items.flatMap fun s => s.expr.placeholders d := by
  induction items with
  | nil => rfl
  | cons s items ih =>
    cases items with
    | nil => simp [selectTokens, SelectItem.tokens, Expr.placeholders, placeholders_cons_of_ne]
    | cons t items =>
      rw [selectTokens, placeholders_append, placeholders_append,
        placeholders_cons_of_ne (selectTokens d (t :: items)) (by simp), ih]
      · simp [SelectItem.tokens, Expr.placeholders, placeholders_cons_of_ne]
      · simp

/-- A join has the placeholders of its condition. -/
theorem placeholders_joinTokens (d : Dialect) (j : Join) :
    Tokens.placeholders (j.tokens d) = j.on.placeholders d := by
  simp [Join.tokens, TableRef.tokens, Expr.placeholders, placeholders_cons_of_ne]

/-- The tables have the placeholders of the conditions of the joins. -/
theorem placeholders_sourceTokens (d : Dialect) (q : Query) :
    Tokens.placeholders (q.sourceTokens d) = q.joins.flatMap fun j => j.on.placeholders d := by
  have hjoins : ∀ js : List Join,
      Tokens.placeholders (js.flatMap fun j => .newline :: j.tokens d) =
        js.flatMap fun j => j.on.placeholders d := by
    intro js
    induction js with
    | nil => rfl
    | cons j js ih =>
      rw [List.flatMap_cons, placeholders_append, placeholders_cons_of_ne _ (by simp),
        placeholders_joinTokens, ih, List.flatMap_cons]
  unfold sourceTokens
  rw [placeholders_append, hjoins]
  cases q.source with
  | none => rfl
  | some t => simp [TableRef.tokens, placeholders_cons_of_ne]

/-- A clause has the placeholders of its content. -/
theorem placeholders_clauseTokens (k : Keyword) (ts : Option (List Token)) :
    Tokens.placeholders (clauseTokens k ts) = Tokens.placeholders (ts.getD []) := by
  cases ts with
  | none => rfl
  | some ts => simp [clauseTokens, placeholders_cons_of_ne]

/-- A clause of a list has the placeholders of its items. -/
theorem placeholders_listClause (tss : List (List Token)) :
    Tokens.placeholders ((listClause tss).getD []) = tss.flatMap Tokens.placeholders := by
  cases tss with
  | nil => rfl
  | cons ts tss => simp [listClause]

/-- The limits have no placeholder. -/
@[simp] theorem placeholders_pageTokens (p : Page) : Tokens.placeholders p.tokens = [] := by
  obtain ⟨limit, offset⟩ := p
  cases limit <;> cases offset <;> rfl

/-- A direction has no placeholder. -/
@[simp] theorem placeholders_directionTokens (dir : Option SortDirection) :
    Tokens.placeholders (directionTokens dir) = [] := by
  cases dir with
  | none => rfl
  | some dir => rfl

/-- The placeholders of a query, clause by clause; without a first table the joins are not
written. -/
theorem placeholders_eq (d : Dialect) (q : Query) :
    q.placeholders d =
      (q.select.flatMap fun s => s.expr.placeholders d) ++
      ((if q.source.isSome then q.joins.flatMap fun j => j.on.placeholders d else []) ++
      (((q.condition.map (·.placeholders d)).getD []) ++
      ((q.groupBy.flatMap (·.placeholders d)) ++
      (q.orderBy.flatMap fun o => o.expr.placeholders d)))) := by
  unfold Query.placeholders Query.tokens
  rw [placeholders_cons_of_ne _ (by simp), placeholders_append, placeholders_append,
    placeholders_append, placeholders_append, placeholders_append, placeholders_selectTokens,
    placeholders_clauseTokens, placeholders_clauseTokens, placeholders_clauseTokens,
    placeholders_clauseTokens, placeholders_listClause, placeholders_listClause]
  congr 1
  congr 1
  · -- Without a first table the clause is left out, and its joins with it.
    cases h : q.source with
    | none => rfl
    | some t => simpa using placeholders_sourceTokens d q
  congr 1
  · cases q.condition with
    | none => rfl
    | some e => rfl
  congr 1
  · rw [List.flatMap_map]
    rfl
  · cases q.page with
    | none => simp [List.flatMap_map, OrderTerm.tokens, Expr.placeholders]
    | some p =>
      simp [List.flatMap_map, OrderTerm.tokens, Expr.placeholders, placeholders_cons_of_ne]

end Query

end MetricLayer
