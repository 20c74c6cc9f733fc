import MetricLayer.Proofs.Sql.Portability

/-!
# Parameters in every dialect

Which parameters an expression binds, and in which order, is read off its tree: `Expr.paramsBy` goes
through it from left to right and leaves out what a membership in no values leaves out. A dialect
adds only how often it writes the timestamp of a bucket (`Dialect.timestampCopies`): once, apart from
the quarter of SQLite, which is put together from the timestamp twice. Main result:
`Expr.dialects_keep_params`.
-/

namespace MetricLayer

/-- How often a dialect writes the timestamp of a bucket. -/
def Dialect.timestampCopies : Dialect → Granularity → Nat
  | .sqlite, .quarter => 2
  | _, _ => 1

/-- Every dialect writes the timestamp of a bucket. -/
theorem Dialect.timestampCopies_pos (d : Dialect) (g : Granularity) : 0 < d.timestampCopies g := by
  cases d <;> cases g <;> decide

namespace Expr

mutual

/-- The numbers of the parameters of an expression in the order of its tree, without those under a
membership in no values; those under a bucket come as often as `copies` says. -/
def paramsBy (copies : Granularity → Nat) : Expr → List Nat
  | column _ _ => []
  | binary _ left right => paramsBy copies left ++ paramsBy copies right
  | isIn _ _ [] => []
  | isIn _ operand (v :: vs) => paramsBy copies operand ++ listParamsBy copies (v :: vs)
  | between _ operand low high =>
    paramsBy copies operand ++ (paramsBy copies low ++ paramsBy copies high)
  | like _ _ _ operand pattern => paramsBy copies operand ++ paramsBy copies pattern
  | param n => [n]
  | bucket g operand => (List.replicate (copies g) (paramsBy copies operand)).flatten
  | raw _ => []

/-- The numbers of the parameters of some expressions, one expression after the other. -/
def listParamsBy (copies : Granularity → Nat) : List Expr → List Nat
  | [] => []
  | e :: es => paramsBy copies e ++ listParamsBy copies es

end

/-- The numbers of the parameters of an expression in the order of its tree, without those under a
membership in no values. -/
def params (e : Expr) : List Nat :=
  e.paramsBy fun _ => 1

/-- The same numbers, but those under the bucket of a quarter twice. -/
def paramsWithQuartersTwice (e : Expr) : List Nat :=
  e.paramsBy fun g => if g = .quarter then 2 else 1

/-- A bucket has the placeholders of its operand as often as the dialect writes it. -/
theorem placeholders_bucket_eq_replicate (d : Dialect) (g : Granularity) (operand : Expr) :
    (bucket g operand).placeholders d =
      (List.replicate (d.timestampCopies g) (operand.placeholders d)).flatten := by
  rw [placeholders_bucket]
  cases d <;> cases g <;> simp [Dialect.timestampCopies]

mutual

/-- The placeholders of an expression are its parameters in the order of its tree. -/
theorem placeholders_eq_paramsBy (d : Dialect) :
    (e : Expr) → e.placeholders d = e.paramsBy d.timestampCopies
  | column table name => by rw [placeholders_column, paramsBy]
  | binary op left right => by
    rw [placeholders_binary, placeholders_eq_paramsBy d left, placeholders_eq_paramsBy d right,
      paramsBy]
  -- Without values to compare with the operand is not written at all.
  | isIn negated operand [] => by rw [placeholders_isIn, paramsBy, List.isEmpty_nil, if_pos rfl]
  | isIn negated operand (v :: vs) => by
    rw [placeholders_isIn, placeholders_eq_paramsBy d operand,
      flatMap_placeholders_eq_listParamsBy d (v :: vs), paramsBy, List.isEmpty_cons,
      if_neg Bool.false_ne_true]
  | between negated operand low high => by
    rw [placeholders_between, placeholders_eq_paramsBy d operand, placeholders_eq_paramsBy d low,
      placeholders_eq_paramsBy d high, paramsBy]
  | like negated caseInsensitive escape operand pattern => by
    rw [placeholders_like, placeholders_eq_paramsBy d operand, placeholders_eq_paramsBy d pattern,
      paramsBy]
  | param n => by rw [placeholders_param, paramsBy]
  -- Only here does the dialect matter.
  | bucket g operand => by
    rw [placeholders_bucket_eq_replicate, placeholders_eq_paramsBy d operand, paramsBy]
  | raw sql => by rw [placeholders_raw, paramsBy]

/-- The same for the expressions of a list. -/
theorem flatMap_placeholders_eq_listParamsBy (d : Dialect) :
    (es : List Expr) → es.flatMap (placeholders d) = listParamsBy d.timestampCopies es
  | [] => by rw [List.flatMap_nil, listParamsBy]
  | e :: es => by
    rw [List.flatMap_cons, placeholders_eq_paramsBy d e, flatMap_placeholders_eq_listParamsBy d es,
      listParamsBy]

end

variable {copies : Granularity → Nat} {n : Nat}

mutual

/-- Which parameters an expression has does not depend on how often those under a bucket are
repeated, as long as each is written at all. -/
theorem mem_paramsBy_iff (h : ∀ g, 0 < copies g) :
    (e : Expr) → (n ∈ e.paramsBy copies ↔ n ∈ e.paramsBy fun _ => 1)
  | column table name => by rw [paramsBy, paramsBy]
  | binary op left right => by
    rw [paramsBy, paramsBy, List.mem_append, List.mem_append, mem_paramsBy_iff h left,
      mem_paramsBy_iff h right]
  | isIn negated operand [] => by rw [paramsBy, paramsBy]
  | isIn negated operand (v :: vs) => by
    rw [paramsBy, paramsBy, List.mem_append, List.mem_append, mem_paramsBy_iff h operand,
      mem_listParamsBy_iff h (v :: vs)]
  | between negated operand low high => by
    rw [paramsBy, paramsBy, List.mem_append, List.mem_append, List.mem_append, List.mem_append,
      mem_paramsBy_iff h operand, mem_paramsBy_iff h low, mem_paramsBy_iff h high]
  | like negated caseInsensitive escape operand pattern => by
    rw [paramsBy, paramsBy, List.mem_append, List.mem_append, mem_paramsBy_iff h operand,
      mem_paramsBy_iff h pattern]
  | param m => by rw [paramsBy, paramsBy]
  | bucket g operand => by
    -- The copies are alike, so it is enough that there is one.
    have hg : copies g ≠ 0 := Nat.pos_iff_ne_zero.1 (h g)
    rw [paramsBy, paramsBy, List.mem_flatten, List.mem_flatten]
    simp only [List.mem_replicate, hg, Nat.one_ne_zero, ne_eq, not_false_eq_true, true_and,
      exists_eq_left, mem_paramsBy_iff h operand]
  | raw sql => by rw [paramsBy, paramsBy]

/-- The same for the expressions of a list. -/
theorem mem_listParamsBy_iff (h : ∀ g, 0 < copies g) :
    (es : List Expr) → (n ∈ listParamsBy copies es ↔ n ∈ listParamsBy (fun _ => 1) es)
  | [] => by rw [listParamsBy, listParamsBy]
  | e :: es => by
    rw [listParamsBy, listParamsBy, List.mem_append, List.mem_append, mem_paramsBy_iff h e,
      mem_listParamsBy_iff h es]

end

/-- PostgreSQL and DuckDB give an expression the same text, with a placeholder for each parameter in
the order of the tree, apart from those under a membership in no values. SQLite writes the same
placeholders in the same order, those under the bucket of a quarter twice. So every dialect uses the
same parameters. -/
theorem dialects_keep_params (e : Expr) :
    e.sql .postgres = e.sql .duckdb ∧
      e.placeholders .postgres = e.params ∧
      e.placeholders .duckdb = e.params ∧
      e.placeholders .sqlite = e.paramsWithQuartersTwice ∧
      ∀ d n, n ∈ e.placeholders d ↔ n ∈ e.params := by
  have hsqlite : Dialect.sqlite.timestampCopies = fun g => if g = .quarter then 2 else 1 := by
    funext g
    cases g <;> rfl
  refine ⟨?_, placeholders_eq_paramsBy .postgres e, placeholders_eq_paramsBy .duckdb e, ?_,
    fun d n => ?_⟩
  · unfold sql
    rw [tokens_congr e (.inl Dialect.alike_postgres_duckdb)]
    exact Tokens.render_congr rfl _
  · rw [placeholders_eq_paramsBy, hsqlite, paramsWithQuartersTwice]
  · rw [placeholders_eq_paramsBy]
    exact mem_paramsBy_iff d.timestampCopies_pos e

/-- A quarter within a quarter, compared beside a membership in no values. -/
example :
    let quarters := bucket .quarter (bucket .quarter (param 1))
    let e := binary .and (binary .eq quarters (param 2)) (isIn true (param 3) [])
    e.params = [1, 2] ∧ e.placeholders .sqlite = [1, 1, 1, 1, 2] := by decide

end Expr

end MetricLayer
