import MetricLayer.Cli.Outcome
import MetricLayer.Proofs.Compile.Classroom
import MetricLayer.Proofs.Compile.Numbering
import MetricLayer.Proofs.Json.Controls
import MetricLayer.Proofs.Request.RoundTrip

/-!
# What `compile` prints as SQL

The output of `compile` in the SQL format is the SQL of the compiled query and a line for each of
its values, which names the placeholder that stands for the value and gives the value as JSON. A
line is a comment whatever text the value holds, since JSON escapes line breaks, so it adds no
element to the SQL: `perform_compile_tellsValues`.

The lines and their comments are treated apart. `Lexeme.scan?_listing` holds of any comments behind
any text; that the lines are comments comes from the characters of written JSON (`NoControls`).
-/

namespace MetricLayer

/-! ## Comments behind a text -/

namespace Lexeme

/-- The characters are a line comment, without the line break that ends it. -/
def IsLineComment (cs : List Char) : Prop :=
  ∃ line, cs = '-' :: '-' :: line ∧ '\n' ∉ line

/-- Lines that are comments have no elements. -/
theorem scanChars?_commentLines {css : List (List Char)} (h : ∀ cs ∈ css, IsLineComment cs) :
    scanChars? (css.flatMap (· ++ ['\n'])) = some [] := by
  induction css with
  | nil => rfl
  | cons cs css ih =>
    rw [List.forall_mem_cons] at h
    obtain ⟨⟨line, rfl, hline⟩, hcss⟩ := h
    -- The comment is skipped up to its line break, which is a blank before the next line.
    rw [List.flatMap_cons, List.append_assoc, List.cons_append, List.cons_append,
      scanChars?_lineComment hline (by simp), List.singleton_append,
      scanChars?_breaker (by decide), ih hcss]
    rfl

/-- Lines that are comments add no elements to the text before them, even if this ends within a
comment of its own. -/
theorem scan?_listing {s : String} {lines : List String} {ls : List Lexeme}
    (h : ∀ l ∈ lines, IsLineComment l.toList) (hls : scan? s = some ls) :
    scan? (s ++ "\n" ++ String.join (lines.map (· ++ "\n"))) = some ls := by
  have hchars : (s ++ "\n" ++ String.join (lines.map (· ++ "\n"))).toList =
      s.toList ++ '\n' :: (lines.map String.toList).flatMap (· ++ ['\n']) := by
    simp [List.flatMap_map]
  have hbreaks : Breaks ('\n' :: (lines.map String.toList).flatMap (· ++ ['\n'])) := by
    rintro c ⟨⟩
    decide
  have hlines := scanChars?_commentLines (List.forall_mem_map.2 h)
  -- A comment that the text leaves open ends at the line break, so it needs no condition.
  rw [scan?, hchars, scanChars?_append le_rfl hbreaks (.inr rfl) hls,
    scanChars?_breaker (by decide), hlines]
  exact congrArg some (List.append_nil ls)

end Lexeme

/-! ## The comment of a value -/

/-- The text of a value as JSON has no controls. -/
theorem Value.noControls_compact (v : Value) : NoControls v.toJson.compact.toList :=
  Json.noControls_compact v.writable_toJson

/-- The comment of a value has no controls, whatever text the value holds. -/
theorem noControls_valueComment (d : Dialect) (n : Nat) (v : Value) :
    NoControls (valueComment d n v).toList := by
  have hplaceholder : NoControls (d.placeholder n).toList := by
    rw [Dialect.placeholder, String.toList_ofList, noControls_cons]
    exact ⟨by cases d <;> decide, noControls_of_isDigit (Json.isDigits_toDigits n).2⟩
  unfold valueComment
  simp only [String.toList_append, noControls_append]
  exact ⟨⟨⟨by decide, hplaceholder⟩, by decide⟩, v.noControls_compact⟩

/-- The comment of a value is one. -/
theorem isLineComment_valueComment (d : Dialect) (n : Nat) (v : Value) :
    Lexeme.IsLineComment (valueComment d n v).toList := by
  have hnewline := (noControls_valueComment d n v).newline_notMem
  have hchars : (valueComment d n v).toList =
      '-' :: '-' :: ' ' :: ((d.placeholder n).toList ++ (" = " ++ v.toJson.compact).toList) := by
    simp [valueComment]
  rw [hchars] at hnewline ⊢
  exact ⟨_, rfl, fun hmem => hnewline (List.mem_cons_of_mem _ (List.mem_cons_of_mem _ hmem))⟩

/-- The comments of values are those of each, with numbers from the first on. -/
theorem getElem?_valueCommentsFrom (d : Dialect) (n : Nat) (vs : List Value) (i : Nat) :
    (valueCommentsFrom d n vs)[i]? = vs[i]?.map (valueComment d (n + i)) := by
  induction vs generalizing n i with
  | nil => rfl
  | cons v vs ih =>
    cases i with
    | zero => rfl
    | succ i => rw [valueCommentsFrom, List.getElem?_cons_succ, List.getElem?_cons_succ, ih,
        Nat.add_right_comm, Nat.add_assoc]

/-- There is a comment for each value. -/
theorem length_valueCommentsFrom (d : Dialect) (n : Nat) (vs : List Value) :
    (valueCommentsFrom d n vs).length = vs.length := by
  induction vs generalizing n with
  | nil => rfl
  | cons v vs ih => rw [valueCommentsFrom, List.length_cons, List.length_cons, ih]

/-- A comment of a query is that of a value. -/
theorem exists_value_of_mem_valueCommentsFrom {d : Dialect} {n : Nat} {vs : List Value} {l : String}
    (h : l ∈ valueCommentsFrom d n vs) : ∃ m v, l = valueComment d m v := by
  obtain ⟨i, hi⟩ := List.mem_iff_getElem?.1 h
  rw [getElem?_valueCommentsFrom] at hi
  obtain ⟨v, -, rfl⟩ := Option.map_eq_some_iff.1 hi
  exact ⟨_, v, rfl⟩

/-! ## The output -/

/-- The lines tell the values of a query: one for each, with the placeholder of its number in the
SQL, which stands in its place there, and its JSON text. -/
structure CompiledQuery.TellsValues (c : CompiledQuery) (lines : List String) : Prop where
  /-- There is one line for each value. -/
  length_eq : lines.length = c.params.length
  /-- The line of a value names the placeholder that stands for it in the SQL. -/
  line : ∀ i v, c.params[i]? = some v → c.placeholders[i]? = some (i + 1) ∧
    lines[i]? = some ("-- " ++ c.dialect.placeholder (i + 1) ++ " = " ++ v.toJson.compact)
  /-- No line has a character below `U+0020`. -/
  noControls : ∀ l ∈ lines, NoControls l.toList

/-- The listing of a query is its SQL and its comments, each on lines of its own. -/
theorem CompiledQuery.listing_eq (c : CompiledQuery) :
    c.listing = c.sql ++ "\n" ++ String.join (c.comments.map (· ++ "\n")) := by
  apply String.toList_inj.1
  simp [listing]

/-- The comments of a compiled query tell its values. -/
theorem Compilation.tellsValues {r : Registry} {options : CompileOptions} {q : Request}
    (k : Compilation r options q) : k.result.TellsValues k.result.comments where
  length_eq := length_valueCommentsFrom _ _ _
  line i v hv := by
    have hlt : i < k.result.params.length := (List.getElem?_eq_some_iff.1 hv).1
    constructor
    · rw [k.placeholders_result, List.getElem?_range' hlt, Nat.one_mul, Nat.add_comm]
    · rw [CompiledQuery.comments, getElem?_valueCommentsFrom, hv, Nat.add_comm]
      rfl
  noControls l hl := by
    obtain ⟨n, v, rfl⟩ := exists_value_of_mem_valueCommentsFrom hl
    exact noControls_valueComment _ _ _

namespace Cli

/-- A request that is read and compiled is compiled by the registry. -/
theorem exists_compile_of_compileRequest {around : Surroundings} {settings : Settings}
    {r : Registry} {source : RequestSource} {d : Dialect} {c : CompiledQuery}
    (h : compileRequest around settings r source d = .ok c) :
    ∃ options q, r.compile options q = .ok c := by
  unfold compileRequest at h
  obtain ⟨s, -, h⟩ := bind_eq_ok_iff.1 h
  split at h
  case h_1 hc =>
    obtain rfl := Except.ok.inj h
    obtain ⟨q, -, hq⟩ := bind_eq_ok_iff.1 hc
    exact ⟨_, q, hq⟩
  case h_2 => cases h

/-- In the SQL format `compile` prints the SQL of the compiled query, a line break, and a line for
each value. The lines add no element to the SQL if it can be cut into elements at all, and the SQL
of every query over the built-in schema can. -/
theorem perform_compile_tellsValues {around : Surroundings} {settings : Settings} {r : Registry}
    {source : RequestSource} {d : Option Dialect} {c : CompiledQuery}
    (h : compileRequest around settings r source (d.getD settings.compiler.dialect) = .ok c) :
    ∃ lines output, c.TellsValues lines ∧
      output = c.sql ++ "\n" ++ String.join (lines.map (· ++ "\n")) ∧
      Command.perform around settings r (.compile source d .sql) = .outcome (.printed output) ∧
      (∀ ls, Lexeme.scan? c.sql = some ls → Lexeme.scan? output = some ls) ∧
      (Classroom.registry = .ok r → ∃ ls, Lexeme.scan? c.sql = some ls) := by
  obtain ⟨options, q, hcompile⟩ := exists_compile_of_compileRequest h
  have htells : c.TellsValues c.comments := by
    obtain ⟨k, rfl⟩ := Registry.compile_eq_ok_iff.1 hcompile
    exact k.tellsValues
  have hcomments : ∀ l ∈ c.comments, Lexeme.IsLineComment l.toList := by
    intro l hl
    obtain ⟨n, v, rfl⟩ := exists_value_of_mem_valueCommentsFrom hl
    exact isLineComment_valueComment _ _ _
  have hperform : Command.perform around settings r (.compile source d .sql) =
      .outcome (.printed c.listing) := by
    rw [Command.perform, h]
    rfl
  exact ⟨c.comments, _, htells, rfl, hperform.trans (by rw [c.listing_eq]),
    fun ls hls => Lexeme.scan?_listing hcomments hls, fun hr => ⟨_, Classroom.scan?_sql hr hcompile⟩⟩

/-- The roles of users, apart from one whose text would be SQL if it did not stay in its comment. -/
def otherRoles : Request where
  dimensions := ["users.role"]
  filters := [⟨"users.role", .ne, [.text "\"'\n; DROP TABLE users;\r--"]⟩]

/-- The request on the standard input, and nothing else. -/
def otherRolesAround : Surroundings where
  environment _ := none
  files _ := .missing
  input := .text otherRoles.render
  configDirectory := none

/-- The value of the hostile request stays in its comment. -/
theorem perform_compile_tellsValues_otherRoles :
    ∃ c lines output ls,
      compileRequest otherRolesAround {} Classroom.orderedRegistry .standardInput .sqlite = .ok c ∧
      Classroom.registry = .ok Classroom.orderedRegistry ∧ c.TellsValues lines ∧
      Command.perform otherRolesAround {} Classroom.orderedRegistry
        (.compile .standardInput (some .sqlite) .sql) = .outcome (.printed output) ∧
      Lexeme.scan? c.sql = some ls ∧ Lexeme.scan? output = some ls := by
  have hparse : Request.parse otherRoles.render = .ok otherRoles :=
    Request.parse_of_isText (by simp [Request.IsExact, otherRoles, Value.IsExact])
      (Json.isText_compact otherRoles.writable_toJson)
  have hcompiles : (Classroom.orderedRegistry.compile
      { Settings.compileOptions {} with dialect := .sqlite } otherRoles).toBool = true := by
    decide +kernel
  obtain ⟨c, hc⟩ := exists_ok_of_toBool hcompiles
  have hrequest : compileRequest otherRolesAround {} Classroom.orderedRegistry .standardInput
      .sqlite = .ok c := by
    have htext : Classroom.orderedRegistry.compileText
        { Settings.compileOptions {} with dialect := .sqlite } otherRoles.render = .ok c := by
      rw [Registry.compileText, hparse]
      exact hc
    have hread : readRequest otherRolesAround .standardInput = .ok otherRoles.render := rfl
    exact bind_eq_ok_iff.2 ⟨_, hread, by rw [htext]⟩
  obtain ⟨lines, output, htells, -, hperform, hscan, hsql⟩ :=
    perform_compile_tellsValues (d := some .sqlite) hrequest
  obtain ⟨ls, hls⟩ := hsql Classroom.registry_eq
  exact ⟨c, lines, output, ls, hrequest, Classroom.registry_eq, htells, hperform, hls, hscan ls hls⟩

end Cli

end MetricLayer
