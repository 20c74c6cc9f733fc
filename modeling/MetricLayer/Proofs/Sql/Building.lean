import Mathlib.Data.List.Basic
import Mathlib.Data.List.Induction
import MetricLayer.Compile.Conjunct
import MetricLayer.Proofs.Sql.Rendering

/-!
# Building queries step by step

A query that is built by steps depends on what the steps say of each clause and on nothing else
(`Query.Contents`): the select list, the first table, the grouping and the sort order are those that
were set last, the joins and the conditions are all that were added, in order, and of the two limits
each is the one that was set last, by a step of its own or together with the other. `build_sql_eq`
writes the text of a built query out of these contents.

Since every part of the contents looks only at the steps that concern its clause (`Step.clauses`),
steps may be put in another order as long as those of one clause keep theirs
(`contents_eq_of_filter_eq`). Two neighbours of different clauses may therefore be swapped.
-/

namespace MetricLayer.Query

variable {α β : Type}

/-! ## Steps and clauses -/

/-- A clause of a query, as far as a step can change it alone. -/
inductive Clause where
  | select | source | joins | condition | groupBy | orderBy | limit | offset
  deriving DecidableEq, Repr

/-- The clauses that a step concerns. -/
def Step.clauses : Step → List Clause
  | .select _ => [.select]
  | .source _ => [.source]
  | .leftJoin _ _ => [.joins]
  | .filter _ => [.condition]
  | .groupBy _ => [.groupBy]
  | .orderBy _ => [.orderBy]
  | .limit _ => [.limit]
  | .offset _ => [.offset]
  | .page _ => [.limit, .offset]

namespace Step

/-- The select list that a step sets. -/
@[simp] def select? : Step → Option (List SelectItem)
  | .select items => some items
  | _ => none

/-- The first table that a step sets. -/
@[simp] def source? : Step → Option TableRef
  | .source t => some t
  | _ => none

/-- The join that a step adds. -/
@[simp] def join? : Step → Option Join
  | .leftJoin t on => some ⟨t, on⟩
  | _ => none

/-- The condition that a step adds. -/
@[simp] def condition? : Step → Option Expr
  | .filter e => some e
  | _ => none

/-- The grouping expressions that a step sets. -/
@[simp] def groupBy? : Step → Option (List Expr)
  | .groupBy es => some es
  | _ => none

/-- The sort order that a step sets. -/
@[simp] def orderBy? : Step → Option (List OrderTerm)
  | .orderBy os => some os
  | _ => none

/-- What a step says of the greatest number of rows: that number, or that there is none. -/
@[simp] def limit? : Step → Option (Option UInt64)
  | .limit n => some (some n)
  | .page p => some p.limit
  | _ => none

/-- What a step says of the number of rows left out: that number, or that there is none. -/
@[simp] def offset? : Step → Option (Option UInt64)
  | .offset n => some (some n)
  | .page p => some p.offset
  | _ => none

end Step

/-! ## Contents -/

/-- The last thing that some of the items say. -/
def lastOf (f : α → Option β) (xs : List α) : Option β :=
  (xs.filterMap f).getLast?

/-- What the last item says is said last. -/
theorem lastOf_concat (f : α → Option β) (xs : List α) (x : α) :
    lastOf f (xs ++ [x]) = (f x).or (lastOf f xs) := by
  unfold lastOf
  rw [List.filterMap_append]
  cases hx : f x with
  | none => simp [hx]
  | some y => simp [hx]

/-- What some steps say of each clause. -/
structure Contents where
  /-- The select list that was set last. -/
  select : Option (List SelectItem)
  /-- The first table that was set last. -/
  source : Option TableRef
  /-- The joins, in order. -/
  joins : List Join
  /-- The conditions, in order. -/
  conditions : List Expr
  /-- The grouping expressions that were set last. -/
  groupBy : Option (List Expr)
  /-- The sort order that was set last. -/
  orderBy : Option (List OrderTerm)
  /-- The limits, if one of them was set: each as it was set last. -/
  page : Option Page

/-- The limits after some steps. -/
def lastPage (steps : List Step) : Option Page :=
  if lastOf Step.limit? steps = none ∧ lastOf Step.offset? steps = none then none
  else some ⟨(lastOf Step.limit? steps).join, (lastOf Step.offset? steps).join⟩

/-- What some steps say. -/
def contents (steps : List Step) : Contents where
  select := lastOf Step.select? steps
  source := lastOf Step.source? steps
  joins := steps.filterMap Step.join?
  conditions := steps.filterMap Step.condition?
  groupBy := lastOf Step.groupBy? steps
  orderBy := lastOf Step.orderBy? steps
  page := lastPage steps

/-- The query of some contents. -/
def Contents.query (c : Contents) : Query where
  select := c.select.getD []
  source := c.source
  joins := c.joins
  condition := conjunction c.conditions
  groupBy := c.groupBy.getD []
  orderBy := c.orderBy.getD []
  page := c.page

/-! ## One step after others -/

/-- A condition is added to a conjunction as a query adds it. -/
theorem conjunction_concat {es : List Expr} {q : Query} (hq : q.condition = conjunction es)
    (e : Expr) : conjunction (es ++ [e]) = (q.filter e).condition := by
  rw [filter, hq]
  cases es with
  | nil => rfl
  | cons e' es =>
    rw [List.cons_append, conjunction, conjunction, List.foldl_append, List.foldl_cons,
      List.foldl_nil]

/-- The limits after some steps, as a record that is there in any case. -/
theorem getD_lastPage (steps : List Step) :
    (lastPage steps).getD ⟨none, none⟩ =
      ⟨(lastOf Step.limit? steps).join, (lastOf Step.offset? steps).join⟩ := by
  unfold lastPage
  split
  case isTrue h =>
    rw [h.1, h.2]
    rfl
  case isFalse => rfl

/-- The query after a further step. -/
theorem build_concat (steps : List Step) (s : Step) :
    build (steps ++ [s]) = (build steps).apply s := by
  unfold build
  rw [List.foldl_append, List.foldl_cons, List.foldl_nil]

/-- A step changes the limits that were set before it as it changes those of a query. -/
theorem lastPage_concat {steps : List Step} {q : Query} (hq : q.page = lastPage steps) (s : Step) :
    lastPage (steps ++ [s]) = (q.apply s).page := by
  have hbefore : q.pageOrEmpty =
      ⟨(lastOf Step.limit? steps).join, (lastOf Step.offset? steps).join⟩ := by
    rw [pageOrEmpty, hq, getD_lastPage]
  have hafter : lastPage (steps ++ [s]) =
      if s.limit?.or (lastOf Step.limit? steps) = none ∧
        s.offset?.or (lastOf Step.offset? steps) = none then none
      else some ⟨(s.limit?.or (lastOf Step.limit? steps)).join,
        (s.offset?.or (lastOf Step.offset? steps)).join⟩ := by
    rw [lastPage, lastOf_concat, lastOf_concat]
  rw [hafter]
  cases s with
  | limit n => simp [apply, hbefore]
  | offset n => simp [apply, hbefore]
  | page p => simp [apply]
  | _ => exact hq.symm

/-- What some steps and a further one say. -/
theorem contents_concat (steps : List Step) (s : Step) :
    contents (steps ++ [s]) = {
      select := s.select?.or (contents steps).select
      source := s.source?.or (contents steps).source
      joins := (contents steps).joins ++ s.join?.toList
      conditions := (contents steps).conditions ++ s.condition?.toList
      groupBy := s.groupBy?.or (contents steps).groupBy
      orderBy := s.orderBy?.or (contents steps).orderBy
      page := ((contents steps).query.apply s).page } := by
  have hpage : lastPage (steps ++ [s]) = ((contents steps).query.apply s).page :=
    lastPage_concat rfl s
  have hadded : ∀ {β : Type} (f : Step → Option β),
      (steps ++ [s]).filterMap f = steps.filterMap f ++ (f s).toList := by
    intro β f
    rw [List.filterMap_append, List.filterMap_cons, List.filterMap_nil]
    cases f s <;> rfl
  rw [contents, hpage, hadded, hadded]
  simp only [lastOf_concat]
  rfl

/-- A further step changes the query of some contents as it changes these. -/
theorem query_contents_concat (steps : List Step) (s : Step) :
    (contents (steps ++ [s])).query = (contents steps).query.apply s := by
  rw [contents_concat]
  generalize contents steps = c
  cases s with
  | filter e =>
    have hcondition := conjunction_concat (q := c.query) rfl e
    simp only [Contents.query, Step.join?, Option.toList_none, List.append_nil, Step.condition?,
      Option.toList_some, hcondition]
    rfl
  | _ => simp [apply, Contents.query]

/-- The query that steps build is that of their contents. -/
theorem build_eq (steps : List Step) : build steps = (contents steps).query := by
  induction steps using List.reverseRecOn with
  | nil => rfl
  | append_singleton steps s ih => rw [build_concat, ih, query_contents_concat]

/-! ## The text of a built query -/

/-- Texts with `AND` between them; none if there are no texts. -/
def andText (ss : List String) : Option String :=
  if ss.isEmpty then none else some (" AND ".intercalate ss)

/-- The text of the query of some contents, clause by clause. -/
def Contents.sql (d : Dialect) (c : Contents) : String :=
  "SELECT" ++ ",".intercalate ((c.select.getD []).map (·.text d)) ++
    clauseText .FROM (c.source.map fun t => t.text ++ String.join (c.joins.map (·.text d))) ++
    clauseText .WHERE (andText (c.conditions.map (·.sql d))) ++
    clauseText .GROUP_BY (listText ((c.groupBy.getD []).map (·.sql d))) ++
    clauseText .ORDER_BY
      (listText ((c.orderBy.getD []).map fun o => Tokens.render d (o.tokens d))) ++
    (c.page.map fun p => "\n" ++ p.text).getD ""

/-- The text of a conjunction of two expressions. -/
theorem sql_and (d : Dialect) (left right : Expr) :
    (Expr.binary .and left right).sql d = left.sql d ++ " AND " ++ right.sql d := by
  unfold Expr.sql
  rw [Expr.tokens]
  simp [BinaryOp.token, Token.render, Keyword.text, ← String.append_assoc]

/-- The conditions of a conjunction are written with `AND` between them. -/
theorem sql_foldl_and (d : Dialect) (e : Expr) (es : List Expr) :
    (es.foldl (.binary .and) e).sql d = " AND ".intercalate ((e :: es).map (·.sql d)) := by
  -- What is taken in already is one text, so the first condition is any expression.
  induction es generalizing e with
  | nil => rw [List.foldl_nil, List.map_singleton, String.intercalate_singleton]
  | cons e' es ih =>
    rw [List.foldl_cons, ih, List.map_cons, List.map_cons, List.map_cons, sql_and]
    cases es with
    | nil => simp
    | cons e'' es => simp [String.intercalate_cons_cons, String.append_assoc]

/-- The text of a conjunction. -/
theorem sql_conjunction (d : Dialect) (es : List Expr) :
    (conjunction es).map (·.sql d) = andText (es.map (·.sql d)) := by
  cases es with
  | nil => rfl
  | cons e es => exact congrArg some (sql_foldl_and d e es)

/-- The text of the query of some contents consists of the texts of its clauses. -/
theorem sql_query (d : Dialect) (c : Contents) : c.query.sql d = c.sql d := by
  have hsource : (c.query.source.map fun _ => c.query.sourceSql d) =
      c.source.map fun t => t.text ++ String.join (c.joins.map (·.text d)) := by
    rw [sourceSql_eq]
    unfold Contents.query
    cases c.source with
    | none => rfl
    | some t => simp
  rw [sql_eq, hsource, Contents.sql, ← sql_conjunction]
  rfl

/-! ## Steps in another order -/

/-- What items say depends only on those that say something. -/
theorem filterMap_filter_eq {f : α → Option β} {p : α → Bool} (h : ∀ x, f x ≠ none → p x)
    (xs : List α) : (xs.filter p).filterMap f = xs.filterMap f := by
  rw [List.filterMap_filter]
  refine List.filterMap_congr fun x _ => ?_
  split
  case isTrue => rfl
  case isFalse hx => exact (not_not.1 (mt (h x) hx)).symm

/-- Steps say the same if those of each clause are the same, in the same order. -/
theorem contents_eq_of_filter_eq {steps steps' : List Step}
    (h : ∀ c, steps.filter (c ∈ ·.clauses) = steps'.filter (c ∈ ·.clauses)) :
    contents steps = contents steps' := by
  -- A part that looks at the steps of one clause only.
  have hpart : ∀ {β : Type} (f : Step → Option β) (c : Clause),
      (∀ s : Step, f s ≠ none → decide (c ∈ s.clauses) = true) →
        steps.filterMap f = steps'.filterMap f := by
    intro β f c hf
    rw [← filterMap_filter_eq hf steps, h c, filterMap_filter_eq hf steps']
  have hselect := hpart Step.select? .select (by intro s; cases s <;> simp [Step.clauses])
  have hsource := hpart Step.source? .source (by intro s; cases s <;> simp [Step.clauses])
  have hjoins := hpart Step.join? .joins (by intro s; cases s <;> simp [Step.clauses])
  have hconditions := hpart Step.condition? .condition (by intro s; cases s <;> simp [Step.clauses])
  have hgroupBy := hpart Step.groupBy? .groupBy (by intro s; cases s <;> simp [Step.clauses])
  have horderBy := hpart Step.orderBy? .orderBy (by intro s; cases s <;> simp [Step.clauses])
  have hlimit := hpart Step.limit? .limit (by intro s; cases s <;> simp [Step.clauses])
  have hoffset := hpart Step.offset? .offset (by intro s; cases s <;> simp [Step.clauses])
  unfold contents lastPage lastOf
  rw [hselect, hsource, hjoins, hconditions, hgroupBy, horderBy, hlimit, hoffset]

/-- Neighbours of different clauses may be swapped. -/
theorem contents_swap {s t : Step} (h : s.clauses.Disjoint t.clauses) (before after : List Step) :
    contents (before ++ t :: s :: after) = contents (before ++ s :: t :: after) := by
  refine contents_eq_of_filter_eq fun c => ?_
  -- At most one of the two steps concerns the clause.
  by_cases hs : c ∈ s.clauses
  · have ht : c ∉ t.clauses := fun ht => h hs ht
    simp [hs, ht]
  · simp [List.filter_cons, hs]

/-- The text of a built query is that of the contents of its steps, where the conditions of filters
stand in order with `AND` between them. It does not change if steps are put in another order that
keeps the order of those of each clause, nor if neighbours of different clauses are swapped. -/
theorem build_sql_eq (steps : List Step) (d : Dialect) :
    (build steps).sql d = (contents steps).sql d ∧
      (build steps).condition.map (·.sql d) =
        andText ((steps.filterMap Step.condition?).map (·.sql d)) ∧
      (∀ steps', (∀ c, steps'.filter (c ∈ ·.clauses) = steps.filter (c ∈ ·.clauses)) →
        (build steps').sql d = (build steps).sql d) ∧
      ∀ before s t after, steps = before ++ s :: t :: after → s.clauses.Disjoint t.clauses →
        (build (before ++ t :: s :: after)).sql d = (build steps).sql d := by
  have hsql : ∀ steps, (build steps).sql d = (contents steps).sql d := by
    intro steps
    rw [build_eq, sql_query]
  have hcondition : (build steps).condition = conjunction (contents steps).conditions := by
    rw [build_eq]
    rfl
  refine ⟨hsql steps, ?_, fun steps' hsame => ?_, fun before s t after hsteps hdisjoint => ?_⟩
  · rw [hcondition, sql_conjunction]
    rfl
  · rw [hsql, hsql, contents_eq_of_filter_eq hsame]
  · rw [hsql, hsql, hsteps, contents_swap hdisjoint]

/-- Steps of several clauses, among them two filters apart from each other and limits that are set
as a whole before one of them is set again. -/
def pagedSteps : List Step := [
  .filter (.binary .eq (.raw "role") (.param 1)),
  .page ⟨none, some 5⟩,
  .select [⟨.column none "role", none⟩],
  .filter (.binary .ne (.raw "school_id") (.param 2)),
  .source ⟨"users", none⟩,
  .limit 10]

/-- The same steps, those of one clause after the other. -/
def sortedSteps : List Step := [
  .select [⟨.column none "role", none⟩],
  .source ⟨"users", none⟩,
  .filter (.binary .eq (.raw "role") (.param 1)),
  .filter (.binary .ne (.raw "school_id") (.param 2)),
  .page ⟨none, some 5⟩,
  .limit 10]

/-- The steps give one text in both orders, and after them a limit and an offset may be set in
either. -/
theorem build_sql_eq_pagedSteps :
    (∀ c, sortedSteps.filter (c ∈ ·.clauses) = pagedSteps.filter (c ∈ ·.clauses)) ∧
      (build sortedSteps).sql .sqlite = (build pagedSteps).sql .sqlite ∧
      (Step.limit 10).clauses.Disjoint (Step.offset 20).clauses ∧
      (build (pagedSteps ++ [.offset 20, .limit 10])).sql .sqlite =
        (build (pagedSteps ++ [.limit 10, .offset 20])).sql .sqlite ∧
      (build pagedSteps).sql .sqlite =
        "SELECT\n  \"role\"\nFROM \"users\"\n" ++
          "WHERE role = ?1 AND school_id <> ?2\nLIMIT 10 OFFSET 5" := by
  have hsame : ∀ c, sortedSteps.filter (c ∈ ·.clauses) = pagedSteps.filter (c ∈ ·.clauses) := by
    intro c
    cases c <;> rfl
  have hdisjoint : (Step.limit 10).clauses.Disjoint (Step.offset 20).clauses := by
    simp [Step.clauses]
  refine ⟨hsame, ?_, hdisjoint, ?_, by decide +kernel⟩
  · exact (build_sql_eq pagedSteps .sqlite).2.2.1 sortedSteps hsame
  · exact (build_sql_eq _ .sqlite).2.2.2 pagedSteps _ _ [] rfl hdisjoint

end MetricLayer.Query
