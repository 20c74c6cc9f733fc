import MetricLayer.Proofs.Sql.Scanning
import MetricLayer.Proofs.Sql.Term.Reading

/-!
# What expressions mean

The term that an expression stands for (`Expr.term?`): its operators are those of the tree, whatever
their precedence, and an expression that is spliced in is a part as a whole. The text of an
expression need not be read as that term, since no parentheses are written; `Expr.Fits` is what a
condition has to satisfy for that. Conditions are compared by their conjuncts, since `a AND b AND c`
is one text for two trees.
-/

namespace MetricLayer

/-! ## Terms of calls -/

namespace Term

/-- A call of a function. -/
def apply (name : String) (args : List Term) : Term :=
  .call [.word (Text.uppercase name)] none args

/-- `STRFTIME` with a format. -/
def strftime (format : String) (t : Term) : Term :=
  apply "STRFTIME" [.literal (.string "" format), t]

/-- The first month of the quarter of a timestamp. -/
def quarterMonth (t : Term) : Term :=
  let month := .cast (strftime "%m" t) [.word "INTEGER"]
  let before := .group [.binary "-" month (.literal (.number "1"))]
  let quarters := .group [.binary "/" before (.literal (.number "3"))]
  .binary "+" (.binary "*" quarters (.literal (.number "3"))) (.literal (.number "1"))

/-- The start of a bucket in SQLite. -/
def sqliteBucket (g : Granularity) (t : Term) : Term :=
  match g with
  | .hour => strftime "%Y-%m-%d %H:00:00" t
  | .day => apply "DATE" [t]
  | .week => apply "DATE" [t, .literal (.string "" "weekday 0"), .literal (.string "" "-6 days")]
  | .month => strftime "%Y-%m-01" t
  | .quarter =>
    apply "PRINTF" [.literal (.string "" "%s-%02d-01"), strftime "%Y" t, quarterMonth t]
  | .year => strftime "%Y-01-01" t

/-- The start of the bucket of a timestamp. -/
def bucket (d : Dialect) (g : Granularity) (t : Term) : Term :=
  match d with
  | .postgres => apply "DATE_TRUNC" [.literal (.string "" g.name), t]
  | .duckdb => apply "DATE_TRUNC" [.literal (.string "" g.name), t]
  | .sqlite => sqliteBucket g t

/-- A term in lower case, if `lower`. -/
def lowered (lower : Bool) (t : Term) : Term :=
  if lower then apply "LOWER" [t] else t

/-- The terms that `AND` joins. -/
def conjuncts : Term → List Term
  | binary op t u => if op = "AND" then t.conjuncts ++ u.conjuncts else [binary op t u]
  | t => [t]

/-- Elements are read as a term by the precedence of its operators, from some depth on. -/
def ReadsAs (ls : List Lexeme) (t : Term) : Prop :=
  ∃ n, ∀ depth, n ≤ depth → readAbove depth 0 ls = some (t, [])

/-- Elements are read as one term at most. -/
theorem ReadsAs.unique {ls : List Lexeme} {t u : Term} (ht : ReadsAs ls t) (hu : ReadsAs ls u) :
    t = u := by
  obtain ⟨n, hn⟩ := ht
  obtain ⟨m, hm⟩ := hu
  have hread := (hn (max n m) (Nat.le_max_left n m)).symm.trans (hm _ (Nat.le_max_right n m))
  exact (Prod.mk.inj (Option.some.inj hread)).1

/-- Nothing can follow an operand. -/
theorem follows_nil : Follows [] :=
  ⟨by simp, by simp, by simp, by simp⟩

/-- Elements are read as a term if nothing follows them. -/
theorem readsAs_iff {ls : List Lexeme} {t : Term} :
    ReadsAs ls t ↔ Reads (readAbove · 0) ls t [] := by
  simp [ReadsAs, Reads, Filter.eventually_atTop]

/-- Plain text that is one expression is read as that at every greater depth, too. -/
theorem readsAs_of_parse {s : String} {ls : List Lexeme} {t : Term} (hs : parse s = .ok t)
    (hscan : Lexeme.scan? s = some ls) (ht : t.plain) : ReadsAs ls t :=
  readsAs_iff.2 (reads_of_parse hs hscan ht follows_nil rfl)

end Term

/-! ## Terms of expressions -/

/-- An operator as it is written. -/
def BinaryOp.text : BinaryOp → String
  | eq => "="
  | ne => "<>"
  | lt => "<"
  | gt => ">"
  | lte => "<="
  | gte => ">="
  | and => "AND"

namespace Expr

mutual

/-- The term that an expression stands for; none if something is spliced in that is not one
expression. -/
def term? (d : Dialect) : Expr → Option Term
  | column none name => some (.name [.quotedName '"' name])
  | column (some table) name => some (.name [.quotedName '"' table, .quotedName '"' name])
  | binary op left right => do
    let t ← term? d left
    let u ← term? d right
    some (.binary op.text t u)
  | isIn negated _ [] => some (.literal (.word (if negated then "TRUE" else "FALSE")))
  | isIn negated operand (v :: vs) => do
    let t ← term? d operand
    let ts ← listTerms? d (v :: vs)
    some (.isIn negated t ts)
  | between negated operand low high => do
    let t ← term? d operand
    let u ← term? d low
    let v ← term? d high
    some (.between negated t u v)
  | like negated caseInsensitive escape operand pattern => do
    let t ← term? d operand
    let u ← term? d pattern
    let lower := caseInsensitive && !d.hasILike
    let op := if caseInsensitive && d.hasILike then "ILIKE" else "LIKE"
    some (.matching negated op (t.lowered lower) (u.lowered lower)
      (some (.string "" (String.singleton escape))))
  | param n => some (.literal (.placeholder (d.placeholder n)))
  | bucket g operand => (term? d operand).map (Term.bucket d g)
  | raw sql => (Term.parse sql).toOption

/-- The terms that expressions stand for. -/
def listTerms? (d : Dialect) : List Expr → Option (List Term)
  | [] => some []
  | e :: es => do
    let t ← term? d e
    let ts ← listTerms? d es
    some (t :: ts)

end

/-- The conditions that `AND` joins. -/
def conjuncts : Expr → List Expr
  | binary .and left right => left.conjuncts ++ right.conjuncts
  | e => [e]

/-- The elements of an expression. -/
def lexemes (d : Dialect) (e : Expr) : List Lexeme :=
  Tokens.lexemes d (e.tokens d)

/-! ## What a condition splices in -/

/-- The text of an operand before an operator of a level, if it is spliced in as it stands. -/
def exposedAt (m : Nat) : Expr → List (Nat × String)
  | raw sql => [(m, sql)]
  | _ => []

/-- The texts that are spliced into a condition right before an operator, each with the level of the
operator. An argument of a call is none of them. -/
def exposed (d : Dialect) : Expr → List (Nat × String)
  | binary .and left right => left.exposed d ++ right.exposed d
  | binary _ left _ => left.exposedAt Term.levelComparison
  | isIn _ operand _ => operand.exposedAt Term.levelComparison
  | between _ operand _ _ => operand.exposedAt Term.levelComparison
  | like _ caseInsensitive _ operand _ =>
    if caseInsensitive && !d.hasILike then [] else operand.exposedAt Term.levelLike
  | _ => []

/-- What is spliced into a condition fits where it stands. -/
structure Fits (d : Dialect) (e : Expr) : Prop where
  /-- Nothing ends within a line comment. -/
  uncommented : ∀ s ∈ e.splices, Lexeme.endsInComment s = false
  /-- Nothing names a column or a function by a word that begins a form. -/
  plain : ∀ s ∈ e.splices, ∀ t, Term.parse s = .ok t → t.plain
  /-- Right before an operator nothing ends with an operator that binds less tight. -/
  closed : ∀ p ∈ e.exposed d, ∀ t, Term.parse p.2 = .ok t → t.closes p.1

/-- What is spliced in right before an operator is spliced in, and the operator binds no tighter
than comparisons. -/
theorem mem_splices_of_exposed {d : Dialect} {e : Expr} :
    ∀ p ∈ e.exposed d, p.2 ∈ e.splices ∧ p.1 ≤ Term.levelComparison := by
  have hoperand : ∀ {m : Nat} {e : Expr} (ss : List String), m ≤ Term.levelComparison →
      ∀ p ∈ e.exposedAt m, p.2 ∈ e.splices ++ ss ∧ p.1 ≤ Term.levelComparison := by
    intro m e ss hm p hp
    cases e with
    | raw sql =>
      obtain rfl := List.mem_singleton.1 hp
      exact ⟨List.mem_append_left ss (List.mem_singleton_self sql), hm⟩
    | _ => cases hp
  intro p hp
  fun_induction exposed d e with
  | case1 left right ihl ihr =>
    rw [splices]
    rcases List.mem_append.1 hp with hp | hp
    · exact ⟨List.mem_append_left _ (ihl hp).1, (ihl hp).2⟩
    · exact ⟨List.mem_append_right _ (ihr hp).1, (ihr hp).2⟩
  | case2 op left right hop =>
    rw [splices]
    exact hoperand _ (Nat.le_refl _) p hp
  | case3 negated operand values =>
    rw [splices]
    exact hoperand _ (Nat.le_refl _) p hp
  | case4 negated operand low high =>
    rw [splices]
    exact hoperand _ (Nat.le_refl _) p hp
  | case5 => cases hp
  | case6 negated caseInsensitive escape operand pattern hlower =>
    rw [splices]
    exact hoperand _ (by decide) p hp
  | case7 => cases hp

end Expr

/-- Text that can be read as an expression has elements. -/
theorem isSome_scan?_of_parse {s : String} {t : Term} (h : Term.parse s = .ok t) :
    (Lexeme.scan? s).isSome := by
  unfold Term.parse at h
  cases hs : Lexeme.scan? s with
  | none => simp [hs] at h
  | some ls => rfl

/-- The elements of text that can be read. -/
theorem lexemes_raw {d : Dialect} {s : String} {t : Term} (hs : Term.parse s = .ok t) :
    Lexeme.scan? s = some ((Expr.raw s).lexemes d) := by
  obtain ⟨ls, hls⟩ := Option.isSome_iff_exists.1 (isSome_scan?_of_parse hs)
  simp [Expr.lexemes, Expr.tokens, Tokens.lexemes, Token.lexemes, hls]

/-- A text fits wherever a condition splices it in. -/
def Term.embeds (s : String) : Bool :=
  !Lexeme.endsInComment s && match Term.parse s with
    | .ok t => t.plain && t.closes Term.levelComparison
    | .error _ => true

/-- A condition that splices in nothing else than what fits everywhere, fits. -/
theorem Expr.fits_of_embeds {d : Dialect} {e : Expr} (h : ∀ s ∈ e.splices, Term.embeds s) :
    e.Fits d := by
  have hread : ∀ s ∈ e.splices, ∀ t, Term.parse s = .ok t →
      t.plain ∧ t.closes Term.levelComparison := by
    intro s hs t ht
    have hembeds := h s hs
    simp only [Term.embeds, ht, Bool.and_eq_true] at hembeds
    exact hembeds.2
  refine ⟨fun s hs => ?_, fun s hs t ht => (hread s hs t ht).1, fun p hp t ht => ?_⟩
  · have hembeds := h s hs
    simp only [Term.embeds, Bool.and_eq_true, Bool.not_eq_true'] at hembeds
    exact hembeds.1
  · obtain ⟨hmem, hlevel⟩ := mem_splices_of_exposed p hp
    exact Term.closes_of_le hlevel (hread _ hmem t ht).2

end MetricLayer
