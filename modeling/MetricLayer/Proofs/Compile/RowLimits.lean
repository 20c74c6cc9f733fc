import MetricLayer.Proofs.Compile.Statement
import MetricLayer.Proofs.Compile.UnknownNames

/-!
# The numbers of rows of a compiled query

A request and a cap give numbers of up to 64 bits, and a query writes literals of 63.
`compile_limits_rows` says that no number is cut on the way: one that is too great is an error of
the request, a limit is the smaller of what is asked for and the cap, and the text of a query ends
with the digits of its numbers. The writer would put the greatest literal in the place of a greater
number, but the check of the request leaves it none, since a cap takes the place of greater limits
only.
-/

namespace MetricLayer

variable {r : Registry} {options : CompileOptions} {q : Request}

/-- The stages before the limits give results. -/
def Registry.ReachesLimits (r : Registry) (q : Request) : Prop :=
  ∃ n s cs os, r.names q = .ok n ∧ n.select = .ok s ∧ s.columns = .ok cs ∧
    orderTerms cs q.order = .ok os

/-- The error is one of the limits. -/
def RequestError.OfLimits : RequestError → Prop
  | offsetWithoutLimit => True
  | invalidRequest _ => True
  | _ => False

/-- The request without limits. -/
def Request.unlimited (q : Request) : Request :=
  { q with limit := none, offset := none }

/-- The text of the limits of a query, with their digits. -/
def limitsText (limit offset : Option UInt64) : String :=
  (limit.map fun n => "\nLIMIT " ++ toString n.toNat).getD "" ++
    (offset.map fun n => " OFFSET " ++ toString n.toNat).getD ""

/-- A compiled query has the numbers of rows that its request asks for under a cap. -/
structure CompiledQuery.LimitsRows (c : CompiledQuery) (cap : Option UInt64) (q : Request) :
    Prop where
  /-- There is no limit just if none is asked for, or zero. -/
  limit_eq_none_iff : c.limit = none ↔ q.limit = none ∨ q.limit = some 0
  /-- A limit is the smaller of the one that is asked for and the cap. -/
  limit_eq_min : ∀ n ∈ c.limit, ∃ k ∈ q.limit,
    n.toNat = cap.elim k.toNat fun m => min k.toNat m.toNat
  /-- The offset is the one that is asked for. -/
  offset_eq : c.offset = q.offset
  /-- The literal of each number is the number. -/
  literal_eq : ∀ n, n ∈ c.limit ∨ n ∈ c.offset → (rowsLiteral n).toInt = n.toNat

/-! ## Errors -/

/-- A request that reaches its limits fails with an error of limits just if they have that fault,
since no later stage has such an error. -/
theorem Registry.ReachesLimits.compile_eq_error_iff (h : r.ReachesLimits q) {e : RequestError}
    (he : e.OfLimits) : r.compile options q = .error e ↔ q.HasRowFault e := by
  obtain ⟨n, s, cs, os, hn, hs, hcs, hos⟩ := h
  unfold Registry.compile Registry.compileSelection
  rw [hn]
  show n.select >>= _ = _ ↔ _
  rw [hs]
  show s.columns >>= _ = _ ↔ _
  rw [hcs]
  show orderTerms cs q.order >>= _ = _ ↔ _
  rw [hos]
  show pagination options.maxLimit q >>= _ = _ ↔ _
  rw [bind_eq_error_iff, pagination_eq_error_iff]
  refine or_iff_left ?_
  rintro ⟨page, -, hrest⟩
  have hconditions := r.failsOnlyWith_statement _ _ _ hrest
  cases e with
  | offsetWithoutLimit | invalidRequest => exact hconditions
  | _ => exact he

/-! ## Results -/

namespace Compilation

/-- The compilation of the request without limits. -/
def unlimited (k : Compilation r options q) : Compilation r options q.unlimited where
  names := k.names
  order := k.order
  plan := k.plan
  resolve := ⟨k.resolve.measures, k.resolve.dimensions, k.resolve.filters, k.resolve.time,
    k.resolve.order⟩
  sound := k.sound
  columns_nodup := k.columns_nodup
  order_eq := k.order_eq
  page_eq := rfl
  plan_eq := k.plan_eq
  fits := k.fits

/-- The text of a compilation is that without limits, and then the limits. -/
theorem sql_eq_unlimited (k : Compilation r options q) :
    k.result.sql = k.unlimited.result.sql ++ limitsText k.result.limit k.result.offset := by
  have hpage : k.unlimited.result.query.page = none := rfl
  unfold CompiledQuery.sql limitsText
  rw [Query.sql_eq, Query.sql_eq, k.page_text_eq, hpage]
  simp only [Option.map_none, Option.getD_none, String.append_empty]
  rfl

/-- A compilation has the numbers of rows that its request asks for. -/
theorem limitsRows (k : Compilation r options q) :
    k.result.LimitsRows options.maxLimit q := by
  obtain ⟨hlimit, hoffset⟩ := k.limits_eq
  obtain ⟨hlimits, hoffsets, -, -⟩ := pagination_eq_ok_iff.1 k.page_eq
  have hmaxRows : maxRows = 0x7fffffffffffffff := rfl
  constructor
  · rw [hlimit, effectiveLimit_eq_none_iff]
  · intro n hn
    rw [hlimit] at hn
    obtain ⟨m, hm, rfl⟩ := exists_of_mem_effectiveLimit n hn
    exact ⟨m, hm, toNat_capped _ m⟩
  · exact hoffset
  · intro n hn
    -- Neither number is greater than what the check of the request lets through.
    have hle : n.toNat ≤ maxRows := by
      rw [hlimit, hoffset] at hn
      exact hn.elim (effectiveLimit_le hlimits n) (hoffsets n)
    rw [toInt_rowsLiteral, ← hmaxRows, Nat.min_eq_left hle]

end Compilation

/-- A request that reaches its limits fails with an error of limits just if they have that fault. A
compiled query has the numbers of rows that its request asks for under the cap, and its text is that
of the request without limits, and then the digits of its numbers. -/
theorem compile_limits_rows (r : Registry) (options : CompileOptions) (q : Request) :
    (r.ReachesLimits q → ∀ e : RequestError, e.OfLimits →
      (r.compile options q = .error e ↔ q.HasRowFault e)) ∧
      ∀ c, r.compile options q = .ok c → c.LimitsRows options.maxLimit q ∧
        ∃ plain, r.compile options q.unlimited = .ok plain ∧
          c.sql = plain.sql ++ limitsText c.limit c.offset := by
  refine ⟨fun h e he => h.compile_eq_error_iff he, fun c hc => ?_⟩
  obtain ⟨k, rfl⟩ := Registry.compile_eq_ok_iff.1 hc
  exact ⟨k.limitsRows, _, Registry.compile_eq_ok_iff.2 ⟨k.unlimited, rfl⟩, k.sql_eq_unlimited⟩

/-- The page views by quarter, some of them. -/
def pagedViews : Request :=
  { quarterlyViews with limit := some 500, offset := some 7 }

/-- The page views by quarter, more of them than a query can name. -/
def countlessViews : Request :=
  { quarterlyViews with limit := some 0x8000000000000000, offset := some 0x8000000000000000 }

/-- A compiled request reaches its limits. -/
theorem Compilation.reachesLimits (k : Compilation r options q) : r.ReachesLimits q :=
  ⟨_, _, _, _, Registry.names_eq_ok_iff.2 k.resolve, Names.select_eq_ok_iff.2 ⟨k.sound, rfl⟩,
    Selection.columns_eq_ok_iff.2 ⟨k.columns_nodup, rfl⟩, k.order_eq⟩

/-- The limit of the page views by quarter is cut to the cap, and one that is too great is an error
before the offset is. -/
theorem compile_limits_rows_pagedViews :
    (∃ c plain : CompiledQuery,
      Draft.pageViewsRegistry.compile { maxLimit := some 20 } pagedViews = .ok c ∧
      Draft.pageViewsRegistry.compile { maxLimit := some 20 } pagedViews.unlimited = .ok plain ∧
      c.LimitsRows (some 20) pagedViews ∧ c.sql = plain.sql ++ "\nLIMIT 20 OFFSET 7") ∧
      Draft.pageViewsRegistry.ReachesLimits countlessViews ∧
      Draft.pageViewsRegistry.compile {} countlessViews =
        .error (.invalidRequest (.tooLarge "limit")) := by
  have hcompiles :
      (Draft.pageViewsRegistry.compile { maxLimit := some 20 } pagedViews).toBool = true := by
    decide +kernel
  obtain ⟨c, hc⟩ := exists_ok_of_toBool hcompiles
  obtain ⟨hrows, plain, hplain, hsql⟩ :=
    (compile_limits_rows Draft.pageViewsRegistry { maxLimit := some 20 } pagedViews).2 c hc
  obtain ⟨k, rfl⟩ := Registry.compile_eq_ok_iff.1 hc
  have hlimit : k.result.limit = some 20 := k.limits_eq.1
  have hoffset : k.result.offset = some 7 := k.limits_eq.2
  have hreach : Draft.pageViewsRegistry.ReachesLimits countlessViews := k.reachesLimits
  have hfault : countlessViews.HasRowFault (.invalidRequest (.tooLarge "limit")) :=
    .limit ⟨_, rfl, by decide⟩
  have hlimits : RequestError.OfLimits (.invalidRequest (.tooLarge "limit")) := trivial
  refine ⟨⟨_, plain, hc, hplain, hrows, ?_⟩, hreach, ?_⟩
  · rw [hsql, hlimit, hoffset]
    rfl
  · exact ((compile_limits_rows Draft.pageViewsRegistry {} countlessViews).1 hreach _ hlimits).2
      hfault

end MetricLayer
