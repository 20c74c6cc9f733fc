import MetricLayer.Compile.Selection
import MetricLayer.Text.LikePattern

/-!
# Conjuncts

The conditions of a query with the values of their placeholders. A conjunct is numbered from the
number of values bound before it, so that the placeholders of a whole query count up from one, and
the value of the `k`-th placeholder is the `k`-th value.
-/

namespace MetricLayer

/-- A condition, and the values of its placeholders in order. -/
structure Conjunct where
  /-- The condition. -/
  expr : Expr
  /-- The values that its placeholders stand for. -/
  values : List Value

/-- The placeholders of some values after `bound` values. -/
def placeholdersFrom (bound : Nat) : List Value → List Expr
  | [] => []
  | _ :: vs => .param (bound + 1) :: placeholdersFrom (bound + 1) vs

/-- The only value of a filter. -/
def Filter.onlyValue (f : Filter) : Except RequestError Value :=
  match f.values with
  | [v] => .ok v
  | vs => .error (.arity f.operator.name (.exactly 1) vs.length)

/-- The membership of an operand in the values of a filter, of which there is at least one. -/
def Filter.membership (bound : Nat) (operand : Expr) (f : Filter) :
    Except RequestError Conjunct :=
  if f.values.isEmpty then .error (.arity f.operator.name (.atLeast 1) 0)
  else .ok ⟨.isIn false operand (placeholdersFrom bound f.values), f.values⟩

/-- The condition of a filter on an operand, after `bound` values. A text is looked for in any case,
by a pattern in which it stands for itself. -/
def Filter.conjunct (bound : Nat) (operand : Expr) (f : Filter) : Except RequestError Conjunct :=
  match f.operator with
  | .isIn => f.membership bound operand
  | .contains => f.onlyValue.map fun v =>
    ⟨.like false true Text.likeEscape operand (.param (bound + 1)),
      [.text (Text.containsPattern v.asText)]⟩
  | .eq => f.onlyValue.map fun v => ⟨.binary .eq operand (.param (bound + 1)), [v]⟩
  | .ne => f.onlyValue.map fun v => ⟨.binary .ne operand (.param (bound + 1)), [v]⟩
  | .gt => f.onlyValue.map fun v => ⟨.binary .gt operand (.param (bound + 1)), [v]⟩
  | .gte => f.onlyValue.map fun v => ⟨.binary .gte operand (.param (bound + 1)), [v]⟩
  | .lt => f.onlyValue.map fun v => ⟨.binary .lt operand (.param (bound + 1)), [v]⟩
  | .lte => f.onlyValue.map fun v => ⟨.binary .lte operand (.param (bound + 1)), [v]⟩

/-- The day after the upper bound of a date range. -/
def DateRange.following (x : DateRange) (d : Date) : Except RequestError Date :=
  match d.next? with
  | some e => .ok e
  | none => .error (.invalidDateRange (.noFollowingDay x.upper))

/-- The condition of a date range on a raw timestamp, after `bound` values. A day as upper bound is
covered whole, by an exclusive bound at the following day; a moment is an inclusive bound. -/
def DateRange.conjunct (bound : Nat) (sql : String) (x : DateRange) :
    Except RequestError Conjunct := do
  let (_, upper) ← x.bounds
  let first : Expr := .param (bound + 1)
  let second : Expr := .param (bound + 2)
  match upper with
  | .day d => do
    let following ← x.following d
    .ok ⟨.binary .and (.binary .gte (.raw sql) first) (.binary .lt (.raw sql) second),
      [.text x.lower, .text following.text]⟩
  | .moment _ _ => .ok ⟨.between false (.raw sql) first second, [.text x.lower, .text x.upper]⟩

/-- The conjuncts of filters, after `bound` values. -/
def filterConjuncts (bound : Nat) : List (Filter × Dimension) → Except RequestError (List Conjunct)
  | [] => .ok []
  | (f, d) :: fs => do
    let c ← f.conjunct bound d.operand.expr
    let cs ← filterConjuncts (bound + c.values.length) fs
    .ok (c :: cs)

/-- The conjunct of the date range of a time dimension, if there is one, after `bound` values. -/
def rangeConjuncts (bound : Nat) : Option SelectedTime → Except RequestError (List Conjunct)
  | none => .ok []
  | some t =>
    match t.clause.dateRange with
    | none => .ok []
    | some x => (x.conjunct bound t.dimension.sql).map fun c => [c]

/-- The values of conjuncts, in order. -/
def boundValues (cs : List Conjunct) : List Value :=
  cs.flatMap (·.values)

/-- The conjuncts of a selection: its filters in order, and then its date range. -/
def Selection.conjuncts (s : Selection) : Except RequestError (List Conjunct) := do
  let filters ← filterConjuncts 0 s.filters
  let range ← rangeConjuncts (boundValues filters).length s.time
  .ok (filters ++ range)

/-- The condition that all of some conditions hold, the first ones bound closest. -/
def conjunction : List Expr → Option Expr
  | [] => none
  | e :: es => some (es.foldl (.binary .and) e)

end MetricLayer
