import MetricLayer.Proofs.Request.RoundTrip

/-!
# What is wrong with a wire request

The shape of a wire request is checked, but its keywords are still texts, and its lists are of any
length. It is read if nothing is wrong with it (`WireRequest.IsReadable`), and then without loss:
nothing is dropped, added or moved (`WireRequest.Means`). Otherwise the error is the first of its
faults, in the order of `WireRequest.faults`. A text that is no wire request at all has none of
these faults, but is malformed. This is all in `parse_reports_first_fault`.

Each stage fails with the first of its own faults, so that the faults of a whole are those of its
stages one after the other. A request is readable if it has no fault.
-/

namespace MetricLayer

variable {α : Type}

/-! ## Keywords -/

/-- The keywords of the operators. -/
def operatorKeywords : List (String × FilterOperator) :=
  [("eq", .eq), ("equals", .eq), ("ne", .ne), ("notequals", .ne), ("not_equals", .ne),
    ("gt", .gt), ("gte", .gte), ("lt", .lt), ("lte", .lte), ("in", .isIn),
    ("contains", .contains)]

/-- The keywords of the granularities. -/
def granularityKeywords : List (String × Granularity) :=
  [("hour", .hour), ("day", .day), ("week", .week), ("month", .month), ("quarter", .quarter),
    ("year", .year)]

/-- The keywords of the directions. -/
def directionKeywords : List (String × SortDirection) :=
  [("asc", .asc), ("desc", .desc)]

section

variable (keywords : List (String × α)) (s : String)

/-- The text is a keyword of `x`, in any ASCII case. -/
def IsKeywordOf (x : α) : Prop :=
  (s.toLower, x) ∈ keywords

/-- The text is a keyword, in any ASCII case. -/
def IsKeyword : Prop :=
  s.toLower ∈ keywords.map Prod.fst

instance : Decidable (IsKeyword keywords s) :=
  inferInstanceAs (Decidable (_ ∈ _))

/-- A text is a keyword if it is a keyword of something. -/
theorem isKeyword_iff : IsKeyword keywords s ↔ ∃ x, IsKeywordOf keywords s x := by
  unfold IsKeyword IsKeywordOf
  rw [List.mem_map]
  constructor
  · rintro ⟨⟨keyword, x⟩, hmem, rfl⟩
    exact ⟨x, hmem⟩
  · rintro ⟨x, hmem⟩
    exact ⟨_, hmem, rfl⟩

end

/-- An operator is read from its keywords. -/
theorem FilterOperator.ofKeyword?_eq_some_iff {s : String} {op : FilterOperator} :
    FilterOperator.ofKeyword? s = some op ↔ IsKeywordOf operatorKeywords s op :=
  lookup_eq_some_iff_mem (by decide)

/-- A granularity is read from its keyword. -/
theorem Granularity.ofKeyword?_eq_some_iff {s : String} {g : Granularity} :
    Granularity.ofKeyword? s = some g ↔ IsKeywordOf granularityKeywords s g := by
  -- Each granularity has one keyword, and the reader compares the text with that.
  have hkeyword : IsKeywordOf granularityKeywords s g ↔ s.toLower = g.name := by
    cases g with
    | _ => simp [IsKeywordOf, granularityKeywords, Granularity.name]
  rw [hkeyword]
  unfold Granularity.ofKeyword?
  constructor
  · intro h
    have hname : g.name = s.toLower := by simpa using List.find?_some h
    exact hname.symm
  · intro h
    rw [h]
    cases g with
    | _ => rfl

/-- A direction is read from its keyword. -/
theorem SortDirection.ofKeyword?_eq_some_iff {s : String} {dir : SortDirection} :
    SortDirection.ofKeyword? s = some dir ↔ IsKeywordOf directionKeywords s dir := by
  have hkeyword : IsKeywordOf directionKeywords s dir ↔ s.toLower = dir.name := by
    cases dir with
    | _ => simp [IsKeywordOf, directionKeywords, SortDirection.name]
  rw [hkeyword]
  unfold SortDirection.ofKeyword?
  split
  case isTrue hasc =>
    rw [hasc]
    cases dir <;> decide
  case isFalse hasc =>
    split
    case isTrue hdesc =>
      rw [hdesc]
      cases dir <;> decide
    case isFalse hdesc => cases dir <;> simpa [SortDirection.name]

/-! ## What a wire request means -/

/-- A filter of the wire means a filter: the same but for its operator, whose keyword is read. -/
structure WireFilter.Means (f : WireFilter) (g : Filter) : Prop where
  /-- The dimension is the same. -/
  dimension : g.dimension = f.dimension
  /-- The operator has the keyword. -/
  operator : IsKeywordOf operatorKeywords f.operator g.operator
  /-- The values are the same, in the same order. -/
  values : g.values = f.values

/-- A time dimension of the wire means a time clause: the same but for its granularity, whose
keyword is read. -/
structure WireTime.Means (t : WireTime) (c : TimeClause) : Prop where
  /-- The dimension is the same. -/
  dimension : c.dimension = t.dimension
  /-- The granularity has the keyword. -/
  granularity : IsKeywordOf granularityKeywords t.granularity c.granularity
  /-- The bounds of the date range are the same. -/
  dateRange : c.dateRange.map DateRange.ends = t.dateRange

/-- An order entry of the wire means an item of the sort order. -/
inductive Wire.OrderMeans : List String → OrderItem → Prop where
  /-- A key alone is sorted from the least. -/
  | ascending (key : String) : OrderMeans [key] ⟨key, .asc⟩
  /-- A key is sorted in the direction with the keyword. -/
  | directed (key : String) {s : String} {dir : SortDirection}
    (h : IsKeywordOf directionKeywords s dir) : OrderMeans [key, s] ⟨key, dir⟩

/-- A wire request means a request: the same but for its keywords, which are read. -/
structure WireRequest.Means (w : WireRequest) (q : Request) : Prop where
  /-- The measures are the same, in the same order. -/
  measures : q.measures = w.measures
  /-- The dimensions are the same, in the same order. -/
  dimensions : q.dimensions = w.dimensions
  /-- The filters are those of the wire, in the same order. -/
  filters : List.Forall₂ WireFilter.Means w.filters q.filters
  /-- The time dimension is the only one of the wire, if there is any. -/
  time : List.Forall₂ WireTime.Means w.times q.time.toList
  /-- The items of the sort order are those of the wire, in the same order. -/
  order : List.Forall₂ Wire.OrderMeans w.order q.order
  /-- The limit is the same. -/
  limit : q.limit = w.limit
  /-- The offset is the same. -/
  offset : q.offset = w.offset

/-- A filter is read as what it means. -/
theorem WireFilter.resolve_eq_ok_iff {f : WireFilter} {g : Filter} :
    f.resolve = .ok g ↔ f.Means g := by
  unfold WireFilter.resolve
  cases hop : FilterOperator.ofKeyword? f.operator with
  | none =>
    refine iff_of_false (by simp) fun h => ?_
    rw [FilterOperator.ofKeyword?_eq_some_iff.2 h.operator] at hop
    cases hop
  | some op =>
    constructor
    · rintro h
      obtain rfl := Except.ok.inj h
      exact ⟨rfl, FilterOperator.ofKeyword?_eq_some_iff.1 hop, rfl⟩
    · rintro ⟨hdimension, hoperator, hvalues⟩
      obtain ⟨dimension, operator, values⟩ := g
      rw [FilterOperator.ofKeyword?_eq_some_iff.2 hoperator] at hop
      obtain rfl := Option.some.inj hop
      dsimp only at hdimension hvalues
      rw [hdimension, hvalues]

/-- A date range is read if it has two bounds. -/
theorem WireTime.resolveRange_eq_ok_iff {bounds : Option (List String)} {x : Option DateRange} :
    WireTime.resolveRange bounds = .ok x ↔ x.map DateRange.ends = bounds := by
  unfold WireTime.resolveRange
  split
  case h_1 => cases x <;> simp
  case h_2 lower upper =>
    cases x with
    | none => simp
    | some x =>
      obtain ⟨a, b⟩ := x
      simp [DateRange.ends, eq_comm]
  case h_3 bounds htwo =>
    refine iff_of_false (by simp) fun h => ?_
    obtain ⟨x, -, hx⟩ := Option.map_eq_some_iff.1 h
    exact htwo _ _ hx.symm

/-- Reads the granularity of a time dimension. -/
def WireTime.resolveGranularity (t : WireTime) : Except RequestError Granularity :=
  match Granularity.ofKeyword? t.granularity with
  | some g => .ok g
  | none => .error (.unsupportedGranularity t.granularity)

/-- A time dimension is read in two steps: its granularity, and then its date range. -/
theorem WireTime.resolve_eq_bind (t : WireTime) :
    t.resolve = t.resolveGranularity >>= fun g =>
      WireTime.resolveRange t.dateRange >>= fun x => .ok ⟨t.dimension, g, x⟩ := by
  unfold WireTime.resolve WireTime.resolveGranularity
  cases Granularity.ofKeyword? t.granularity with
  | none => rfl
  | some g => rfl

/-- A granularity is read if it has the keyword. -/
theorem WireTime.resolveGranularity_eq_ok_iff {t : WireTime} {g : Granularity} :
    t.resolveGranularity = .ok g ↔ IsKeywordOf granularityKeywords t.granularity g := by
  rw [← Granularity.ofKeyword?_eq_some_iff, WireTime.resolveGranularity]
  cases Granularity.ofKeyword? t.granularity with
  | none => simp
  | some g' => simp

/-- A time dimension is read as what it means. -/
theorem WireTime.resolve_eq_ok_iff {t : WireTime} {c : TimeClause} :
    t.resolve = .ok c ↔ t.Means c := by
  rw [WireTime.resolve_eq_bind]
  simp only [bind_eq_ok_iff, resolveGranularity_eq_ok_iff, resolveRange_eq_ok_iff, Except.ok.injEq]
  constructor
  · rintro ⟨g, hg, x, hx, rfl⟩
    exact ⟨rfl, hg, hx⟩
  · intro h
    exact ⟨_, h.granularity, _, h.dateRange, by rw [← h.dimension]⟩

/-- An order entry is read as what it means. -/
theorem Wire.orderItem_eq_ok_iff {entry : List String} {item : OrderItem} :
    Wire.orderItem entry = .ok item ↔ Wire.OrderMeans entry item := by
  unfold Wire.orderItem
  split
  case h_1 key =>
    constructor
    · intro h
      rw [← Except.ok.inj h]
      exact .ascending key
    · rintro ⟨⟩
      rfl
  case h_2 key s =>
    constructor
    · split
      case h_1 dir hdir =>
        intro h
        rw [← Except.ok.inj h]
        exact .directed key (SortDirection.ofKeyword?_eq_some_iff.1 hdir)
      case h_2 => nofun
    · rintro (_ | ⟨_, h⟩)
      rw [SortDirection.ofKeyword?_eq_some_iff.2 h]
  case h_3 hone htwo =>
    refine iff_of_false (by simp) fun h => ?_
    cases h with
    | ascending key => exact hone key rfl
    | directed key => exact htwo key _ rfl

/-- The time dimensions of a request are read as the only time clause that they mean. -/
theorem WireRequest.resolveTime_eq_ok_iff {ts : List WireTime} {c : Option TimeClause} :
    WireRequest.resolveTime ts = .ok c ↔ List.Forall₂ WireTime.Means ts c.toList := by
  match ts with
  | [] => cases c <;> simp [WireRequest.resolveTime]
  | [t] =>
    rw [WireRequest.resolveTime, map_eq_ok_iff]
    simp only [WireTime.resolve_eq_ok_iff]
    cases c with
    | none => simp
    | some c => simp
  | t :: u :: ts => cases c <;> simp [WireRequest.resolveTime]

/-- A request is read as what it means. -/
theorem WireRequest.resolve_eq_ok_iff {w : WireRequest} {q : Request} :
    w.resolve = .ok q ↔ w.Means q := by
  unfold WireRequest.resolve
  simp only [bind_eq_ok_iff, mapM_eq_ok_iff, WireFilter.resolve_eq_ok_iff, resolveTime_eq_ok_iff,
    Wire.orderItem_eq_ok_iff, Except.ok.injEq]
  constructor
  · rintro ⟨fs, hfs, c, hc, os, hos, rfl⟩
    exact ⟨rfl, rfl, hfs, hc, hos, rfl, rfl⟩
  · intro h
    refine ⟨_, h.filters, _, h.time, _, h.order, ?_⟩
    rw [← h.measures, ← h.dimensions, ← h.limit, ← h.offset]

/-! ## What can be wrong -/

/-- The error, unless the condition holds. -/
def faultUnless (p : Prop) [Decidable p] (e : RequestError) : List RequestError :=
  if p then [] else [e]

/-- What is wrong with a filter: its operator. -/
def WireFilter.faults (f : WireFilter) : List RequestError :=
  faultUnless (IsKeyword operatorKeywords f.operator) (.unsupportedOperator f.operator)

/-- What is wrong with a date range: the number of its bounds. -/
def WireTime.rangeFaults (bounds : List String) : List RequestError :=
  faultUnless (bounds.length = 2) (.arity "dateRange" (.exactly 2) bounds.length)

/-- What is wrong with a time dimension: its granularity, and then its date range. -/
def WireTime.faults (t : WireTime) : List RequestError :=
  faultUnless (IsKeyword granularityKeywords t.granularity)
      (.unsupportedGranularity t.granularity) ++
    t.dateRange.toList.flatMap WireTime.rangeFaults

/-- What is wrong with an order entry: its length, and then its direction. -/
def Wire.orderFaults (entry : List String) : List RequestError :=
  faultUnless (entry.length = 1 ∨ entry.length = 2)
      (.invalidRequest (.orderEntryLength entry.length)) ++
    entry[1]?.toList.flatMap fun s =>
      faultUnless (IsKeyword directionKeywords s) (.unsupportedDirection s)

/-- What is wrong with a request: its filters, the number of its time dimensions, each of these, and
then its sort order. -/
def WireRequest.faults (w : WireRequest) : List RequestError :=
  w.filters.flatMap WireFilter.faults ++
    (faultUnless (w.times.length ≤ 1) (.invalidRequest .severalTimeDimensions) ++
      (w.times.flatMap WireTime.faults ++ w.order.flatMap Wire.orderFaults))

/-- A request can be read. -/
structure WireRequest.IsReadable (w : WireRequest) : Prop where
  /-- Every operator is a keyword. -/
  operators : ∀ f ∈ w.filters, IsKeyword operatorKeywords f.operator
  /-- There is at most one time dimension, wherever it stands. -/
  times : w.timeDimension.toList.length + w.timeDimensions.length ≤ 1
  /-- The granularity is a keyword. -/
  granularity : ∀ t ∈ w.times, IsKeyword granularityKeywords t.granularity
  /-- The date range has two bounds. -/
  dateRange : ∀ t ∈ w.times, ∀ bounds ∈ t.dateRange, bounds.length = 2
  /-- Every order entry has one element or two. -/
  order : ∀ entry ∈ w.order, entry.length = 1 ∨ entry.length = 2
  /-- Every direction is a keyword. -/
  directions : ∀ entry ∈ w.order, ∀ s ∈ entry[1]?, IsKeyword directionKeywords s

section

variable {p : Prop} [Decidable p] {e : RequestError}

/-- There is no fault if the condition holds. -/
theorem faultUnless_eq_nil_iff : faultUnless p e = [] ↔ p := by
  unfold faultUnless
  split
  case isTrue h => exact iff_of_true rfl h
  case isFalse h => exact iff_of_false (by simp) h

/-- A step that gives a result just under a condition fails with the fault. -/
theorem failsWith_faultUnless {x : Except RequestError α} (hp : p → ∃ a, x = .ok a)
    (hnot : ¬p → x = .error e) : FailsWith (faultUnless p e).head? x := by
  unfold faultUnless
  split
  case isTrue h =>
    obtain ⟨a, rfl⟩ := hp h
    exact .ok a
  case isFalse h =>
    rw [hnot h]
    exact .error e

/-- A step that reads a keyword fails with the fault of the text that is none. -/
theorem failsWith_keyword {β : Type} {keywords : List (String × β)} {s : String} {read : Option β}
    {x : Except RequestError α} (hread : ∀ b, read = some b ↔ IsKeywordOf keywords s b)
    (hsome : ∀ b, read = some b → ∃ a, x = .ok a) (hnone : read = none → x = .error e) :
    FailsWith (faultUnless (IsKeyword keywords s) e).head? x := by
  -- A text is read as nothing just if it is a keyword of nothing.
  have hkeyword : IsKeyword keywords s ↔ ∃ b, read = some b := by
    simp only [isKeyword_iff, hread]
  refine failsWith_faultUnless (fun h => ?_) fun h => hnone ?_
  · obtain ⟨b, hb⟩ := hkeyword.1 h
    exact hsome b hb
  · rwa [hkeyword, ← Option.isSome_iff_exists, Option.not_isSome_iff_eq_none] at h

end

/-- A request can be read if there is nothing wrong with it. -/
theorem WireRequest.faults_eq_nil_iff {w : WireRequest} : w.faults = [] ↔ w.IsReadable := by
  have htimes : w.times.length = w.timeDimension.toList.length + w.timeDimensions.length :=
    List.length_append
  unfold WireRequest.faults WireFilter.faults WireTime.faults WireTime.rangeFaults Wire.orderFaults
  simp only [List.append_eq_nil_iff, List.flatMap_eq_nil_iff, faultUnless_eq_nil_iff, htimes,
    Option.mem_toList]
  constructor
  · rintro ⟨hfs, hone, hts, hos⟩
    exact ⟨hfs, hone, fun t ht => (hts t ht).1, fun t ht => (hts t ht).2, fun o ho => (hos o ho).1,
      fun o ho => (hos o ho).2⟩
  · intro h
    exact ⟨h.operators, h.times, fun t ht => ⟨h.granularity t ht, h.dateRange t ht⟩,
      fun o ho => ⟨h.order o ho, h.directions o ho⟩⟩

/-! ## The first fault -/

/-- A filter fails with its fault. -/
theorem WireFilter.failsWith_resolve (f : WireFilter) : FailsWith f.faults.head? f.resolve := by
  refine failsWith_keyword (fun op => FilterOperator.ofKeyword?_eq_some_iff)
    (fun op hop => ⟨⟨f.dimension, op, f.values⟩, ?_⟩) fun hop => ?_
  · rw [WireFilter.resolve, hop]
  · rw [WireFilter.resolve, hop]

/-- A date range fails with its fault. -/
theorem WireTime.failsWith_resolveRange (bounds : Option (List String)) :
    FailsWith (bounds.toList.flatMap WireTime.rangeFaults).head?
      (WireTime.resolveRange bounds) := by
  cases bounds with
  | none => exact .ok none
  | some bounds =>
    rw [Option.toList_some, List.flatMap_singleton]
    refine failsWith_faultUnless (fun h => ?_) fun h => ?_
    · obtain ⟨lower, upper, rfl⟩ := List.length_eq_two.1 h
      exact ⟨_, rfl⟩
    · unfold WireTime.resolveRange
      split
      case h_1 hnone => cases hnone
      case h_2 hsome =>
        obtain rfl := Option.some.inj hsome
        exact absurd rfl h
      case h_3 hsome =>
        obtain rfl := Option.some.inj hsome
        rfl

/-- A time dimension fails with its first fault. -/
theorem WireTime.failsWith_resolve (t : WireTime) : FailsWith t.faults.head? t.resolve := by
  have hgranularity : FailsWith (faultUnless (IsKeyword granularityKeywords t.granularity)
      (.unsupportedGranularity t.granularity)).head? t.resolveGranularity := by
    refine failsWith_keyword (fun g => Granularity.ofKeyword?_eq_some_iff)
      (fun g hg => ⟨g, ?_⟩) fun hg => ?_
    · rw [WireTime.resolveGranularity, hg]
    · rw [WireTime.resolveGranularity, hg]
  have hwhole := hgranularity.bind fun g _ =>
    (WireTime.failsWith_resolveRange t.dateRange).bind fun x _ =>
      .ok (⟨t.dimension, g, x⟩ : TimeClause)
  rwa [Option.or_none, ← List.head?_append, ← WireTime.resolve_eq_bind] at hwhole

/-- An order entry fails with its first fault. -/
theorem Wire.failsWith_orderItem (entry : List String) :
    FailsWith (Wire.orderFaults entry).head? (Wire.orderItem entry) := by
  match entry with
  | [] => exact .error _
  | [key] => exact .ok _
  | [key, s] =>
    have hfaults : Wire.orderFaults [key, s] =
        faultUnless (IsKeyword directionKeywords s) (.unsupportedDirection s) := by
      simp [Wire.orderFaults, faultUnless]
    rw [hfaults]
    refine failsWith_keyword (fun dir => SortDirection.ofKeyword?_eq_some_iff)
      (fun dir hdir => ⟨⟨key, dir⟩, ?_⟩) fun hdir => ?_
    · rw [Wire.orderItem, hdir]
    · rw [Wire.orderItem, hdir]
  | key :: s :: t :: more =>
    -- The length comes first, even if the second element is no direction.
    have hlength : (Wire.orderFaults (key :: s :: t :: more)).head? =
        some (.invalidRequest (.orderEntryLength (more.length + 3))) := by
      simp [Wire.orderFaults, faultUnless]
    rw [hlength]
    exact .error _

/-- The time dimensions of a request fail with their number, or else with the first fault of the
only one. -/
theorem WireRequest.failsWith_resolveTime (ts : List WireTime) :
    FailsWith (faultUnless (ts.length ≤ 1) (.invalidRequest .severalTimeDimensions) ++
      ts.flatMap WireTime.faults).head? (WireRequest.resolveTime ts) := by
  match ts with
  | [] => exact .ok _
  | [t] =>
    have hfaults : faultUnless ([t].length ≤ 1) (.invalidRequest .severalTimeDimensions) ++
        [t].flatMap WireTime.faults = t.faults := by
      simp [faultUnless]
    rw [hfaults]
    exact t.failsWith_resolve.map
  -- More than one is too many, whatever else is wrong with them.
  | t :: u :: ts => exact .error _

/-- A request fails with its first fault. -/
theorem WireRequest.failsWith_resolve (w : WireRequest) : FailsWith w.faults.head? w.resolve := by
  have hfilters : FailsWith (w.filters.flatMap WireFilter.faults).head?
      (w.filters.mapM WireFilter.resolve) := by
    rw [List.head?_flatMap]
    exact .mapM WireFilter.failsWith_resolve w.filters
  have horder : FailsWith (w.order.flatMap Wire.orderFaults).head?
      (w.order.mapM Wire.orderItem) := by
    rw [List.head?_flatMap]
    exact .mapM Wire.failsWith_orderItem w.order
  have hwhole := hfilters.bind fun fs _ =>
    (WireRequest.failsWith_resolveTime w.times).bind fun c _ =>
      horder.bind fun os _ =>
        .ok (⟨w.measures, w.dimensions, fs, c, os, w.limit, w.offset⟩ : Request)
  rw [Option.or_none, ← List.head?_append, ← List.head?_append, List.append_assoc] at hwhole
  exact hwhole

/-- What a wire request is read as. -/
structure WireRequest.ReadsWhole (w : WireRequest) : Prop where
  /-- There is a request if the wire request can be read. -/
  readable_iff : (∃ q, w.resolve = .ok q) ↔ w.IsReadable
  /-- The request is what the wire request means. -/
  means_iff : ∀ q, w.resolve = .ok q ↔ w.Means q
  /-- The error is the first fault. -/
  fault_iff : ∀ e, w.resolve = .error e ↔ w.faults.head? = some e
  /-- It makes no difference where the only time dimension stands. -/
  time_eq : ∀ t, WireRequest.resolve { w with timeDimension := some t, timeDimensions := [] } =
    WireRequest.resolve { w with timeDimension := none, timeDimensions := [t] }

/-- A wire request is read as a whole or not at all. -/
theorem WireRequest.readsWhole (w : WireRequest) : w.ReadsWhole where
  readable_iff := by
    rw [w.failsWith_resolve.exists_ok_iff, List.head?_eq_none_iff, WireRequest.faults_eq_nil_iff]
  means_iff _ := WireRequest.resolve_eq_ok_iff
  fault_iff := w.failsWith_resolve
  time_eq _ := rfl

/-- No fault of a wire request is that of a malformed text. -/
theorem WireRequest.malformed_notMem_faults (w : WireRequest) :
    .invalidRequest .malformed ∉ w.faults := by
  have hunless : ∀ {p : Prop} [Decidable p] {e : RequestError}, e ≠ .invalidRequest .malformed →
      .invalidRequest .malformed ∉ faultUnless p e := by
    intro p _ e he hmem
    unfold faultUnless at hmem
    split at hmem
    · exact absurd hmem List.not_mem_nil
    · exact he (List.mem_singleton.1 hmem).symm
  unfold WireRequest.faults WireFilter.faults WireTime.faults WireTime.rangeFaults Wire.orderFaults
  simp [hunless]

/-! ## Texts -/

/-- The wire request that a text decodes to, if it is the JSON text of one. -/
def Request.decoded? (s : String) : Option WireRequest :=
  (Json.parse? s).bind Wire.request?

/-- A text is read as the wire request that it decodes to. -/
theorem Request.parse_eq_resolve (s : String) :
    Request.parse s =
      ((Request.decoded? s).map WireRequest.resolve).getD
        (.error (.invalidRequest .malformed)) := by
  unfold Request.parse Request.decoded?
  cases (Json.parse? s).bind Wire.request? with
  | none => rfl
  | some w => rfl

/-- A wire request is read as a whole, and otherwise its first fault is reported. A text that
decodes to no wire request is malformed, and no other text is. -/
theorem parse_reports_first_fault :
    (∀ w : WireRequest, w.ReadsWhole) ∧
      ∀ s e, Request.parse s = .error e ↔
        (Request.decoded? s = none ∧ e = .invalidRequest .malformed) ∨
          (∃ w, Request.decoded? s = some w ∧ w.faults.head? = some e) ∧
            e ≠ .invalidRequest .malformed := by
  refine ⟨WireRequest.readsWhole, fun s e => ?_⟩
  rw [Request.parse_eq_resolve]
  cases Request.decoded? s with
  | none => simp [eq_comm]
  | some w =>
    rw [Option.map_some, Option.getD_some]
    simp only [w.failsWith_resolve e, reduceCtorEq, false_and, Option.some.injEq, exists_eq_left',
      false_or]
    refine (and_iff_left_of_imp fun hhead => ?_).symm
    rintro rfl
    exact w.malformed_notMem_faults (List.mem_of_head? hhead)

example :
    (WireRequest.mk ["views.count"] [] [⟨"users.role", "IN", []⟩]
      (some ⟨"views.seen_at", "Fortnight", some ["2024-02-01"]⟩) []
      [["views.count", "DESC"], ["users.role", "sideways"]] none none).faults =
      [.unsupportedGranularity "Fortnight", .arity "dateRange" (.exactly 2) 1,
        .unsupportedDirection "sideways"] := by
  decide +kernel

end MetricLayer
