import MetricLayer.Compile.CompiledQuery
import MetricLayer.Proofs.Compile.Column
import MetricLayer.Proofs.Compile.Conjunct
import MetricLayer.Proofs.Compile.JoinPlan
import MetricLayer.Proofs.Compile.Pagination
import MetricLayer.Proofs.Schema.Draft

/-!
# Successful compilations

A request compiles if each stage gives a result. A `Compilation` holds what the stages find and why
each of them succeeds, and `Compilation.result` is the compiled query that comes of it:
`Registry.compile_eq_ok_iff` says that these are all the compiled queries there are.
-/

namespace MetricLayer

/-- What the stages of a successful compilation find, and why each of them succeeds. -/
structure Compilation (r : Registry) (options : CompileOptions) (q : Request) where
  /-- The definitions of the names of the request. -/
  names : Names
  /-- The sort order. -/
  order : List OrderTerm
  /-- The tables that are read. -/
  plan : JoinPlan
  /-- Every name is defined. -/
  resolve : names.Resolve r q
  /-- What is named can be selected. -/
  sound : names.Sound
  /-- No two columns share a name. -/
  columns_nodup : (names.selection.columnList.map (·.aliasName)).Nodup
  /-- Every order key refers to a column. -/
  order_eq : orderTerms names.selection.columnList q.order = .ok order
  /-- The limits can be taken over. -/
  page_eq : pagination options.maxLimit q = .ok ⟨effectiveLimit options.maxLimit q.limit, q.offset⟩
  /-- Every needed table is reached. -/
  plan_eq : r.joinPlan names.selection.tables = .ok plan
  /-- Every filter has as many values as its operator takes. -/
  fits : ∀ p ∈ names.filters, p.1.Fits

namespace Compilation

variable {r : Registry} {options : CompileOptions} {q : Request}

/-- What is selected. -/
def selection (k : Compilation r options q) : Selection :=
  k.names.selection

/-- The compiled query of a successful compilation. -/
def result (k : Compilation r options q) : CompiledQuery where
  dialect := options.dialect
  query := { k.plan.query with
    select := k.selection.columnList.map Column.selectItem
    condition := conjunction (k.selection.statedConjuncts.map (·.expr))
    groupBy := k.selection.grouping.map Operand.expr
    orderBy := k.order
    page := Page.clause? ⟨effectiveLimit options.maxLimit q.limit, q.offset⟩ }
  params := boundValues k.selection.statedConjuncts
  columns := k.selection.columnList

/-- The date range of a sound selection is well formed. -/
theorem checkDateRange_of_mem {n : Names} (h : n.Sound) :
    ∀ t ∈ n.selection.time, checkDateRange t.clause.dateRange = .ok () := by
  intro t ht
  obtain ⟨p, hp, rfl⟩ := Option.map_eq_some_iff.1 ht
  exact (h.time p hp).2

end Compilation

/-- A request compiles if each stage gives a result, and then to what comes of the stages. -/
theorem Registry.compile_eq_ok_iff {r : Registry} {options : CompileOptions} {q : Request}
    {c : CompiledQuery} :
    r.compile options q = .ok c ↔ ∃ k : Compilation r options q, c = k.result := by
  unfold Registry.compile Registry.compileSelection
  simp only [bind_eq_ok_iff, Registry.names_eq_ok_iff, Names.select_eq_ok_iff,
    Selection.columns_eq_ok_iff, Selection.conjuncts_eq_ok_iff]
  constructor
  -- The conjuncts need no check of the date range of their own, the selection has made it.
  · rintro ⟨n, hn, _, ⟨hs, rfl⟩, _, ⟨hcs, rfl⟩, os, hos, p, hp, plan, hplan, _, ⟨hf, -, rfl⟩, h⟩
    obtain rfl := (pagination_eq_ok_iff.1 hp).2.2.2
    exact ⟨⟨n, os, plan, hn, hs, hcs, hos, hp, hplan, hf⟩, (Except.ok.inj h).symm⟩
  · rintro ⟨k, rfl⟩
    exact ⟨_, k.resolve, _, ⟨k.sound, rfl⟩, _, ⟨k.columns_nodup, rfl⟩, _, k.order_eq, _, k.page_eq,
      _, k.plan_eq, _, ⟨k.fits, Compilation.checkDateRange_of_mem k.sound, rfl⟩, rfl⟩

/-! ## A small request -/

/-- Page views by quarter, of some roles and a range of dates. -/
def quarterlyViews : Request where
  measures := ["views.count"]
  filters := [⟨"users.role", .isIn, [.text "student", .text "teacher"]⟩,
    ⟨"users.role", .contains, [.text "50%"]⟩, ⟨"views.seen_at", .ne, [.int 7]⟩]
  time := some ⟨"views.seen_at", .quarter, some ⟨"2024-02-01", "2024-02-29"⟩⟩

/-- The page views by quarter compile. -/
theorem quarterlyViews_compiles :
    ∃ c, Draft.pageViewsRegistry.compile { dialect := .sqlite } quarterlyViews = .ok c := by
  have hcompiles :
      (Draft.pageViewsRegistry.compile { dialect := .sqlite } quarterlyViews).toBool = true := by
    decide +kernel
  exact exists_ok_of_toBool hcompiles

end MetricLayer
