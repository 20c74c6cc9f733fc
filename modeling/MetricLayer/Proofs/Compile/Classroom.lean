import MetricLayer.Proofs.Compile.Lexical
import MetricLayer.Schema.Classroom

/-!
# The classroom schema

The declarations of the built-in schema fit together and its expressions can be read, so it builds:
`registry_eq`. None of its expressions has a hyphen, and so none has a line comment. Nothing in the
text of a query over it is swallowed, and every such text can be cut into the elements of its
tokens: `scan?_sql`.
-/

namespace MetricLayer

/-- A registry has the same expressions whatever the order of its members. -/
theorem Registry.mem_expressions_inOrder {r : Registry} {s : String} :
    s ∈ r.inOrder.expressions ↔ s ∈ r.expressions :=
  ((r.measures_inOrder_perm.map (·.sql)).append (r.dimensions_inOrder_perm.map (·.sql))).mem_iff

namespace Classroom

/-! ## The schema builds -/

/-- The declarations of the schema. -/
def declaredRegistry : Registry :=
  draft.declared "events"

/-- The registry of the schema, its members in the order of their identifiers. -/
def orderedRegistry : Registry :=
  declaredRegistry.inOrder

/-- The SQL of every measure is one expression. -/
theorem parse_measures : ∀ m ∈ measures, ∃ t, Term.parse m.sql = .ok t := by
  unfold measures
  -- Each expression is read by an evaluation of its own, as one of them all would be large.
  repeat refine List.forall_mem_cons.2 ⟨exists_ok_of_toBool (by decide +kernel), ?_⟩
  exact List.forall_mem_nil _

/-- The SQL of every dimension is one expression. -/
theorem parse_dimensions : ∀ x ∈ dimensions, ∃ t, Term.parse x.sql = .ok t := by
  unfold dimensions
  repeat refine List.forall_mem_cons.2 ⟨exists_ok_of_toBool (by decide +kernel), ?_⟩
  exact List.forall_mem_nil _

/-- The SQL of no measure has a hyphen. -/
theorem hyphen_notMem_measures : ∀ m ∈ measures, '-' ∉ m.sql.toList := by
  decide +kernel

/-- The SQL of no dimension has a hyphen. -/
theorem hyphen_notMem_dimensions : ∀ x ∈ dimensions, '-' ∉ x.sql.toList := by
  decide +kernel

/-- The declarations of the schema fit together. -/
theorem wellFormed_declaredRegistry : declaredRegistry.WellFormed where
  names_nodup := by decide +kernel
  aliases_nodup := by decide +kernel
  ids_nodup := by decide +kernel
  measures := by
    have hids : ∀ m ∈ measures, isMemberId m.id := by decide +kernel
    have htables : ∀ m ∈ measures, ∃ t ∈ tables, t.name = m.table := by decide +kernel
    exact fun m hm => ⟨hids m hm, htables m hm⟩
  dimensions := by
    have hids : ∀ x ∈ dimensions, isMemberId x.id := by decide +kernel
    have htables : ∀ x ∈ dimensions, ∃ t ∈ tables, t.name = x.table := by decide +kernel
    exact fun x hx => ⟨hids x hx, htables x hx⟩
  grains := by decide +kernel
  joins := by
    have hjoins : ∀ e ∈ draft.joins.toList, ∀ name ∈ Draft.pathTables e.1 e.2,
        ∃ t ∈ tables, t.name = name := by decide +kernel
    exact hjoins
  priority := by
    have hpriority : ∀ name ∈ priority, ∃ t ∈ tables, t.name = name := by decide +kernel
    exact hpriority
  fallback := ⟨⟨"events", "e"⟩, List.mem_cons_self, rfl⟩

/-- The expressions of the schema pass their check. -/
theorem passes_declaredRegistry : declaredRegistry.Passes Draft.checkExpression where
  measures := fun m hm => Draft.checkExpression_eq_ok_iff.2 (parse_measures m hm)
  dimensions := fun x hx => Draft.checkExpression_eq_ok_iff.2 (parse_dimensions x hx)

/-- The schema builds. -/
theorem registry_eq : registry = .ok orderedRegistry :=
  Draft.buildWith_eq_ok_iff.2
    ⟨"events", rfl, wellFormed_declaredRegistry, passes_declaredRegistry, rfl⟩

/-! ## Queries over the schema -/

/-- No expression of the schema has a hyphen. -/
theorem hyphen_notMem_of_mem_expressions : ∀ s ∈ orderedRegistry.expressions, '-' ∉ s.toList := by
  intro s hs
  rcases List.mem_append.1 (Registry.mem_expressions_inOrder.1 hs) with hs | hs
  · obtain ⟨m, hm, rfl⟩ := List.mem_map.1 hs
    exact hyphen_notMem_measures m hm
  · obtain ⟨x, hx, rfl⟩ := List.mem_map.1 hs
    exact hyphen_notMem_dimensions x hx

/-- The text of a query over the schema has the elements of its tokens. -/
theorem scan?_sql {r : Registry} (hr : registry = .ok r) {options : CompileOptions} {q : Request}
    {c : CompiledQuery} (h : r.compile options q = .ok c) :
    Lexeme.scan? c.sql = some (Tokens.lexemes c.dialect (c.query.tokens c.dialect)) := by
  obtain rfl : orderedRegistry = r := Except.ok.inj (registry_eq.symm.trans hr)
  obtain ⟨k, rfl⟩ := Registry.compile_eq_ok_iff.1 h
  have hcomment : ∀ s ∈ k.result.query.splices, Lexeme.endsInComment s = false := by
    intro s hs
    have hmem := k.mem_expressions_of_splices s hs
    exact Lexeme.opensComment_eq_false (hyphen_notMem_of_mem_expressions s hmem)
  have hspliceable := k.spliceable passes_declaredRegistry.inOrder hcomment
  exact (Query.scan_tokens k.result.dialect hspliceable).scans.scanChars?_eq

end Classroom

end MetricLayer
