import Mathlib.Data.List.Basic
import MetricLayer.Proofs.Sql.Placeholders

/-!
# What dialects write alike

Dialects differ in three places: a case-insensitive match, a time bucket, and the sign of a
placeholder. The first two decide which tokens are written, the third how a token is. Two dialects
that agree on matches and buckets (`Dialect.Alike`) write every query with the same tokens, and any
two dialects do so for a query without matches and buckets (`Expr.Portable`): `Query.tokens_congr`.
The text of tokens depends on the sign of a placeholder only (`Tokens.render_eq_spelled`).
-/

namespace MetricLayer

/-! ## The text of tokens -/

/-- The text of a token under a sign for placeholders. -/
def Token.spelled (sigil : Char) : Token → String
  | .placeholder n => String.ofList (sigil :: Nat.toDigits 10 n)
  | .keyword k => k.text
  | .mark m => m.text
  | .space => " "
  | .newline => "\n"
  | .indent level => String.ofList (List.replicate (2 * level) ' ')
  | .identifier name => quoteIdentifier name
  | .integer i => toString i.toInt
  | .string s => quoteString s
  | .function name => Text.uppercase name
  | .raw sql => sql

/-- The text of some tokens under a sign for placeholders. -/
def Tokens.spelled (sigil : Char) (ts : List Token) : String :=
  String.join (ts.map (·.spelled sigil))

/-- A dialect writes tokens with its own sign for placeholders. -/
theorem Tokens.render_eq_spelled (d : Dialect) (ts : List Token) :
    Tokens.render d ts = Tokens.spelled d.sigil ts := by
  have htoken : ∀ t : Token, t.render d = t.spelled d.sigil := by
    intro t
    cases t with
    | _ => rfl
  unfold Tokens.render Tokens.spelled
  simp only [htoken]

/-- Dialects with the same sign for placeholders give tokens the same text. -/
theorem Tokens.render_congr {d e : Dialect} (h : d.sigil = e.sigil) (ts : List Token) :
    Tokens.render d ts = Tokens.render e ts := by
  rw [render_eq_spelled, render_eq_spelled, h]

/-- Tokens without placeholders have the same text in all dialects. -/
theorem Tokens.render_eq_of_placeholders {ts : List Token} (h : Tokens.placeholders ts = [])
    (d e : Dialect) : Tokens.render d ts = Tokens.render e ts := by
  have htoken : ∀ t ∈ ts, t.spelled d.sigil = t.spelled e.sigil := by
    intro t ht
    cases t with
    | placeholder n => exact absurd (List.filterMap_eq_nil_iff.1 h _ ht) (by simp)
    | _ => rfl
  rw [render_eq_spelled, render_eq_spelled, Tokens.spelled, Tokens.spelled,
    List.map_congr_left htoken]

/-! ## The tokens of expressions -/

/-- Two dialects write matches and buckets alike. -/
structure Dialect.Alike (d e : Dialect) : Prop where
  /-- Both have an operator for case-insensitive matching, or neither. -/
  hasILike : d.hasILike = e.hasILike
  /-- Both truncate timestamps in the same way. -/
  bucket : ∀ g ts, bucketTokens d g ts = bucketTokens e g ts

/-- PostgreSQL and DuckDB write matches and buckets alike. -/
theorem Dialect.alike_postgres_duckdb : Dialect.Alike .postgres .duckdb :=
  ⟨rfl, fun _ _ => rfl⟩

mutual

/-- An expression holds neither a case-insensitive match nor a bucket. -/
def Expr.Portable : Expr → Prop
  | .column _ _ => True
  | .binary _ left right => left.Portable ∧ right.Portable
  | .isIn _ operand values => operand.Portable ∧ ListPortable values
  | .between _ operand low high => operand.Portable ∧ low.Portable ∧ high.Portable
  | .like _ caseInsensitive _ operand pattern =>
    caseInsensitive = false ∧ operand.Portable ∧ pattern.Portable
  | .param _ => True
  | .bucket _ _ => False
  | .raw _ => True

/-- No expression of a list holds a case-insensitive match or a bucket. -/
def Expr.ListPortable : List Expr → Prop
  | [] => True
  | e :: es => e.Portable ∧ ListPortable es

end

/-- Placeholders are portable. -/
theorem Expr.listPortable_map_param (ns : List Nat) : Expr.ListPortable (ns.map .param) := by
  induction ns with
  | nil => exact trivial
  | cons n ns ih => exact ⟨trivial, ih⟩

variable {d e : Dialect}

/-- A match is written alike by dialects that write matches alike, or if it heeds the case. -/
theorem Expr.likeTokens_congr {caseInsensitive : Bool}
    (h : d.hasILike = e.hasILike ∨ caseInsensitive = false) (negated : Bool) (escape : Char)
    (operand pattern : List Token) :
    likeTokens d negated caseInsensitive escape operand pattern =
      likeTokens e negated caseInsensitive escape operand pattern := by
  unfold likeTokens
  rcases h with h | rfl
  · rw [h]
  · rfl

mutual

/-- Dialects that write matches and buckets alike give an expression the same tokens, and so do any
two dialects if it has neither. -/
theorem Expr.tokens_congr : (x : Expr) → d.Alike e ∨ x.Portable → x.tokens d = x.tokens e
  | .column none name, _ => by rw [Expr.tokens, Expr.tokens]
  | .column (some table) name, _ => by rw [Expr.tokens, Expr.tokens]
  | .binary op left right, h => by
    rw [Expr.tokens, Expr.tokens, Expr.tokens_congr left (h.imp_right And.left),
      Expr.tokens_congr right (h.imp_right And.right)]
  | .isIn negated operand [], _ => by rw [Expr.tokens, Expr.tokens]
  | .isIn negated operand (v :: vs), h => by
    rw [Expr.tokens, Expr.tokens, Expr.tokens_congr operand (h.imp_right And.left),
      Expr.listTokens_congr (v :: vs) (h.imp_right And.right)]
  | .between negated operand low high, h => by
    rw [Expr.tokens, Expr.tokens, Expr.tokens_congr operand (h.imp_right And.left),
      Expr.tokens_congr low (h.imp_right fun hx => hx.2.1),
      Expr.tokens_congr high (h.imp_right fun hx => hx.2.2)]
  | .like negated caseInsensitive escape operand pattern, h => by
    rw [Expr.tokens, Expr.tokens, Expr.tokens_congr operand (h.imp_right fun hx => hx.2.1),
      Expr.tokens_congr pattern (h.imp_right fun hx => hx.2.2),
      Expr.likeTokens_congr (h.imp (·.hasILike) And.left)]
  | .param n, _ => by rw [Expr.tokens, Expr.tokens]
  | .bucket g operand, h => by
    rcases h with h | h
    · rw [Expr.tokens, Expr.tokens, Expr.tokens_congr operand (.inl h), h.bucket]
    · exact h.elim
  | .raw sql, _ => by rw [Expr.tokens, Expr.tokens]

/-- The same for the expressions of a list. -/
theorem Expr.listTokens_congr :
    (xs : List Expr) → d.Alike e ∨ Expr.ListPortable xs → listTokens d xs = listTokens e xs
  | [], _ => by rw [Expr.listTokens, Expr.listTokens]
  | [x], h => by
    rw [Expr.listTokens, Expr.listTokens, Expr.tokens_congr x (h.imp_right And.left)]
  | x :: y :: xs, h => by
    have hrest := Expr.listTokens_congr (y :: xs) (h.imp_right And.right)
    rw [Expr.listTokens, Expr.tokens_congr x (h.imp_right And.left), hrest]
    · rfl
    · simp

end

/-! ## The tokens of queries -/

/-- A query holds neither a case-insensitive match nor a bucket. -/
structure Query.Portable (q : Query) : Prop where
  /-- What is selected is portable. -/
  select : ∀ s ∈ q.select, s.expr.Portable
  /-- The conditions of joins are portable. -/
  joins : ∀ j ∈ q.joins, j.on.Portable
  /-- The condition on rows is portable. -/
  condition : ∀ x ∈ q.condition, x.Portable
  /-- The grouping expressions are portable. -/
  groupBy : ∀ x ∈ q.groupBy, x.Portable
  /-- The sort order is portable. -/
  orderBy : ∀ o ∈ q.orderBy, o.expr.Portable

namespace Query

/-- Items of a select list are written alike if their expressions are. -/
theorem selectTokens_congr {items : List SelectItem}
    (h : ∀ s ∈ items, s.expr.tokens d = s.expr.tokens e) :
    selectTokens d items = selectTokens e items := by
  have hitem : ∀ s ∈ items, s.tokens d = s.tokens e := by
    intro s hs
    rw [SelectItem.tokens, SelectItem.tokens, h s hs]
  clear h
  induction items with
  | nil => rfl
  | cons s items ih =>
    obtain ⟨hs, hitems⟩ := List.forall_mem_cons.1 hitem
    cases items with
    | nil => rw [selectTokens, selectTokens, hs]
    | cons t items =>
      rw [selectTokens, hs, ih hitems]
      · rfl
      · simp

/-- Tables are written alike if the conditions of the joins are. -/
theorem sourceTokens_congr {q : Query} (h : ∀ j ∈ q.joins, j.on.tokens d = j.on.tokens e) :
    q.sourceTokens d = q.sourceTokens e := by
  have hjoins : (q.joins.flatMap fun j => .newline :: j.tokens d) =
      q.joins.flatMap fun j => .newline :: j.tokens e := by
    refine List.flatMap_congr fun j hj => ?_
    rw [Join.tokens, Join.tokens, h j hj]
  rw [sourceTokens, sourceTokens, hjoins]

/-- Dialects that write matches and buckets alike give a query the same tokens, and so do any two
dialects if it has neither. -/
theorem tokens_congr {q : Query} (h : d.Alike e ∨ q.Portable) : q.tokens d = q.tokens e := by
  have hselect : ∀ s ∈ q.select, s.expr.tokens d = s.expr.tokens e :=
    fun s hs => Expr.tokens_congr _ (h.imp_right fun hq => hq.select s hs)
  have hjoins : ∀ j ∈ q.joins, j.on.tokens d = j.on.tokens e :=
    fun j hj => Expr.tokens_congr _ (h.imp_right fun hq => hq.joins j hj)
  have hcondition : q.condition.map (·.tokens d) = q.condition.map (·.tokens e) :=
    Option.map_congr fun x hx => Expr.tokens_congr _ (h.imp_right fun hq => hq.condition x hx)
  have hgroupBy : q.groupBy.map (·.tokens d) = q.groupBy.map (·.tokens e) :=
    List.map_congr_left fun x hx => Expr.tokens_congr _ (h.imp_right fun hq => hq.groupBy x hx)
  have horderBy : q.orderBy.map (·.tokens d) = q.orderBy.map (·.tokens e) := by
    refine List.map_congr_left fun o ho => ?_
    rw [OrderTerm.tokens, OrderTerm.tokens,
      Expr.tokens_congr _ (h.imp_right fun hq => hq.orderBy o ho)]
  rw [tokens, tokens, selectTokens_congr hselect, sourceTokens_congr hjoins, hcondition, hgroupBy,
    horderBy]

end Query

end MetricLayer
