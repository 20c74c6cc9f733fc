import MetricLayer.Compile.CompiledQuery
import MetricLayer.Proofs.Compile.Conjunct
import MetricLayer.Proofs.Compile.Selection
import MetricLayer.Proofs.Schema.Draft

/-!
# Unknown names

A request that mentions a name that is not in its catalogue fails with the first such name, whatever
else is wrong with it, and no other request fails so: `compile_eq_unknownIdentifier_iff`.

The look-ups come first and stop at the first name that is unknown (`Registry.failsWith_names`); no
later stage reports an unknown name (`Registry.failsOnlyWith_compileSelection`).
-/

namespace MetricLayer

/-! ## The names of a request -/

/-- A name that a request mentions, with the catalogue in which it is looked up. -/
inductive Mention where
  /-- A name among the measures. -/
  | measure (id : String)
  /-- A name among the dimensions. -/
  | dimension (id : String)
  /-- A name among the measures and the dimensions. -/
  | member (id : String)
  deriving DecidableEq, Repr

/-- The name that is mentioned. -/
def Mention.name : Mention → String
  | measure id => id
  | dimension id => id
  | member id => id

/-- The catalogue of a name has it. -/
def Registry.knows (r : Registry) : Mention → Bool
  | .measure id => (r.measure? id).isSome
  | .dimension id => (r.dimension? id).isSome
  | .member id => (r.measure? id).isSome || (r.dimension? id).isSome

/-- The names of order keys; the time key is none. -/
def OrderItem.mentions (item : OrderItem) : List Mention :=
  if item.key = timeKey then [] else [.member item.key]

/-- The names that a request mentions: the measures, the dimensions, the dimensions of the filters
and of the time clause, and the order keys, each list in its order. -/
def Request.mentions (q : Request) : List Mention :=
  q.measures.map .measure ++ (q.dimensions.map .dimension ++
    (q.filters.map (fun f => .dimension f.dimension) ++
      (q.time.toList.map (fun t => .dimension t.dimension) ++ q.order.flatMap OrderItem.mentions)))

/-- The first name of a request that its catalogue does not have. -/
def Registry.firstUnknown? (r : Registry) (q : Request) : Option String :=
  (q.mentions.find? fun m => !r.knows m).map Mention.name

/-! ## The look-ups -/

namespace Registry

/-- The error for a name, if its catalogue does not have it. -/
def unknown? (r : Registry) (m : Mention) : Option RequestError :=
  if r.knows m then none else some (.unknownIdentifier m.name)

/-- The first of the errors for some names is that for the first unknown one. -/
theorem findSome?_unknown? (r : Registry) (ms : List Mention) :
    ms.findSome? r.unknown? =
      ((ms.find? fun m => !r.knows m).map Mention.name).map .unknownIdentifier := by
  have h : r.unknown? =
      Option.map (fun m => .unknownIdentifier m.name) ∘ Option.guard fun m => !r.knows m := by
    funext m
    rw [Function.comp_apply, Option.guard, unknown?]
    cases r.knows m with
    | true => rfl
    | false => rfl
  rw [Option.map_map, List.find?_eq_findSome?_guard, List.map_findSome?, h]
  rfl

variable (r : Registry)

/-- A measure that is looked up fails if it is unknown. -/
theorem failsWith_namedMeasure (id : String) :
    FailsWith (r.unknown? (.measure id)) (r.namedMeasure id) := by
  have h : r.unknown? (.measure id) =
      if (r.measure? id).isSome then none else some (.unknownIdentifier id) := rfl
  rw [namedMeasure_eq, h]
  cases r.measure? id with
  | none => exact .error _
  | some m => exact .ok m

/-- A dimension that is looked up fails if it is unknown. -/
theorem failsWith_namedDimension (id : String) :
    FailsWith (r.unknown? (.dimension id)) (r.namedDimension id) := by
  have h : r.unknown? (.dimension id) =
      if (r.dimension? id).isSome then none else some (.unknownIdentifier id) := rfl
  rw [namedDimension_eq, h]
  cases r.dimension? id with
  | none => exact .error _
  | some d => exact .ok d

/-- A filter that is looked up fails if its dimension is unknown. -/
theorem failsWith_namedFilter (f : Filter) :
    FailsWith (r.unknown? (.dimension f.dimension)) (r.namedFilter f) :=
  (r.failsWith_namedDimension f.dimension).map

/-- A time clause that is looked up fails if its dimension is unknown. -/
theorem failsWith_namedTime (t : Option TimeClause) :
    FailsWith ((t.toList.map fun t => .dimension t.dimension).findSome? r.unknown?)
      (r.namedTime t) := by
  cases t with
  | none => exact .ok none
  | some t =>
    rw [Option.toList_some, List.map_singleton, List.findSome?_singleton]
    exact (r.failsWith_namedDimension t.dimension).map

/-- The check of an order key fails if it is not the time key and unknown. -/
theorem failsWith_checkOrderKey (item : OrderItem) :
    FailsWith (item.mentions.findSome? r.unknown?) (r.checkOrderKey item) := by
  unfold OrderItem.mentions checkOrderKey
  by_cases htime : item.key = timeKey
  · rw [if_pos htime, if_pos (.inl htime)]
    exact .ok ()
  · have h : r.unknown? (.member item.key) =
        if (r.measure? item.key).isSome || (r.dimension? item.key).isSome then none
        else some (.unknownIdentifier item.key) := rfl
    rw [if_neg htime, List.findSome?_singleton, h]
    split
    case isTrue hknown =>
      rw [if_pos (.inr ((Bool.or_eq_true _ _).mp hknown))]
      exact .ok ()
    case isFalse hunknown =>
      rw [if_neg (not_or_intro htime (mt (Bool.or_eq_true _ _).mpr hunknown))]
      exact .error _

/-- The look-ups of a request fail with the first name that is unknown, if there is one. -/
theorem failsWith_names (q : Request) :
    FailsWith ((r.firstUnknown? q).map .unknownIdentifier) (r.names q) := by
  have hmeasures := FailsWith.mapM (fun id => r.failsWith_namedMeasure id) q.measures
  have hdimensions := FailsWith.mapM (fun id => r.failsWith_namedDimension id) q.dimensions
  have hfilters := FailsWith.mapM (fun f => r.failsWith_namedFilter f) q.filters
  have horder := FailsWith.forM (fun item => r.failsWith_checkOrderKey item) q.order
  have hnames := hmeasures.bind fun ms _ => hdimensions.bind fun ds _ => hfilters.bind fun fs _ =>
    (r.failsWith_namedTime q.time).bind fun t _ => horder.bind fun _ _ => .ok (Names.mk ms ds fs t)
  -- The errors of the look-ups in sequence are those of the mentions in the same sequence.
  unfold firstUnknown? Request.mentions
  rw [← findSome?_unknown?, List.findSome?_append, List.findSome?_append, List.findSome?_append,
    List.findSome?_append, List.findSome?_map, List.findSome?_map, List.findSome?_map,
    findSome?_flatMap]
  rwa [Option.or_none] at hnames

end Registry

/-! ## The later stages -/

/-- The error is another than that a name is unknown. -/
def RequestError.NotUnknown (e : RequestError) : Prop :=
  ∀ id, e ≠ .unknownIdentifier id

/-- The error is one of the joins or the conditions of a query. -/
def RequestError.OfConditions : RequestError → Prop
  | arity _ _ _ => True
  | unreachableJoin _ _ => True
  | invalidDateRange _ => True
  | _ => False

/-- The error is one of the limits, the joins or the conditions of a query. -/
def RequestError.OfClauses : RequestError → Prop
  | arity _ _ _ => True
  | unreachableJoin _ _ => True
  | invalidDateRange _ => True
  | offsetWithoutLimit => True
  | invalidRequest _ => True
  | _ => False

/-- The errors of the joins and the conditions are among those of the last clauses. -/
theorem RequestError.OfConditions.ofClauses {e : RequestError} (h : e.OfConditions) :
    e.OfClauses := by
  cases e with
  | arity | unreachableJoin | invalidDateRange => trivial
  | _ => exact absurd h id

/-- The errors of the last clauses are no unknown names. -/
theorem RequestError.OfClauses.notUnknown {e : RequestError} (h : e.OfClauses) : e.NotUnknown := by
  rintro id rfl
  exact h

/-- A check of distinct identifiers reports no unknown name. -/
theorem failsOnlyWith_checkDistinct (ids : List String) :
    FailsOnlyWith RequestError.NotUnknown (checkDistinct ids) := by
  unfold checkDistinct
  cases firstRepeated? [] ids with
  | none => exact .ok ()
  | some id => exact .error nofun

/-- The errors of a date range are its own. -/
theorem DateRange.failsOnlyWith_bounds (x : DateRange) :
    FailsOnlyWith RequestError.OfConditions x.bounds := by
  have hbound : ∀ s, FailsOnlyWith RequestError.OfConditions (DateRange.bound s) := by
    intro s
    unfold DateRange.bound
    cases DateBound.parse? s with
    | none => exact .error trivial
    | some b => exact .ok b
  unfold DateRange.bounds
  refine (hbound x.lower).bind fun a _ => (hbound x.upper).bind fun b _ => ?_
  split
  · exact .error trivial
  · exact .ok (a, b)

/-- The check of a time dimension reports no unknown name. -/
theorem failsOnlyWith_selectTime (t : Option (TimeClause × Dimension)) :
    FailsOnlyWith RequestError.NotUnknown (selectTime t) := by
  cases t with
  | none => exact .ok none
  | some p =>
    obtain ⟨t, d⟩ := p
    have hbucket : FailsOnlyWith RequestError.NotUnknown (d.bucket t.granularity) := by
      unfold Dimension.bucket
      split
      · exact .ok _
      · exact .error nofun
    have hrange : FailsOnlyWith RequestError.NotUnknown (checkDateRange t.dateRange) := by
      cases t.dateRange with
      | none => exact .ok ()
      | some x => exact (x.failsOnlyWith_bounds.imp fun _ h => h.ofClauses.notUnknown).map
    exact hbucket.bind fun b _ => hrange.bind fun _ _ => .ok _

/-- The check of a selection reports no unknown name. -/
theorem Names.failsOnlyWith_select (n : Names) :
    FailsOnlyWith RequestError.NotUnknown n.select := by
  have hnonempty : FailsOnlyWith RequestError.NotUnknown n.checkNonempty := by
    unfold Names.checkNonempty
    split
    · exact .error nofun
    · exact .ok ()
  exact hnonempty.bind fun _ _ => (failsOnlyWith_checkDistinct _).bind fun _ _ =>
    (failsOnlyWith_checkDistinct _).bind fun _ _ => (failsOnlyWith_selectTime n.time).bind
      fun _ _ => .ok _

/-- The columns of a selection report no unknown name. -/
theorem Selection.failsOnlyWith_columns (s : Selection) :
    FailsOnlyWith RequestError.NotUnknown s.columns := by
  unfold Selection.columns
  split
  · exact .error nofun
  · exact .ok _

/-- The sort order reports no unknown name: a key that is no column is not selected. -/
theorem failsOnlyWith_orderTerms (cs : List Column) (items : List OrderItem) :
    FailsOnlyWith RequestError.NotUnknown (orderTerms cs items) := by
  have hterm : ∀ item, FailsOnlyWith RequestError.NotUnknown (orderTerm cs item) := by
    intro item
    unfold orderTerm
    split
    · exact .ok _
    · exact .error nofun
  unfold orderTerms
  split
  · exact .ok _
  · exact .mapM fun item _ => hterm item

/-- The errors of the limits are their own. -/
theorem failsOnlyWith_pagination (cap : Option UInt64) (q : Request) :
    FailsOnlyWith RequestError.OfClauses (pagination cap q) := by
  have hrows : ∀ field n, FailsOnlyWith RequestError.OfClauses (checkRows field n) := by
    intro field n
    unfold checkRows
    split
    · exact .error trivial
    · exact .ok ()
  refine (hrows _ _).bind fun _ _ => (hrows _ _).bind fun _ _ => ?_
  dsimp only
  split
  · exact .error trivial
  · exact .ok _

/-- The errors of the conjuncts are those of filters and date ranges. -/
theorem Selection.failsOnlyWith_conjuncts (s : Selection) :
    FailsOnlyWith RequestError.OfConditions s.conjuncts := by
  have hfilters : ∀ fs bound,
      FailsOnlyWith RequestError.OfConditions (filterConjuncts bound fs) := by
    intro fs
    induction fs with
    | nil => exact fun _ => .ok []
    | cons p fs ih =>
      obtain ⟨f, d⟩ := p
      intro bound
      have hconjunct :
          FailsOnlyWith RequestError.OfConditions (f.conjunct bound d.operand.expr) := by
        rw [Filter.conjunct_eq]
        split
        · exact .ok _
        · exact .error trivial
      exact hconjunct.bind fun c _ => (ih _).bind fun cs _ => .ok _
  have hrange : ∀ bound, FailsOnlyWith RequestError.OfConditions (rangeConjuncts bound s.time) := by
    intro bound
    unfold rangeConjuncts
    split
    · exact .ok []
    · split
      · exact .ok []
      · rw [DateRange.conjunct_eq]
        exact (DateRange.failsOnlyWith_bounds _).map.map
  exact (hfilters _ _).bind fun _ _ => (hrange _).bind fun _ _ => .ok _

namespace Registry

/-- The errors of a join plan are tables without a path. -/
theorem failsOnlyWith_joinPlan (r : Registry) (needed : List String) :
    FailsOnlyWith RequestError.OfConditions (r.joinPlan needed) := by
  have halias : ∀ primary table,
      FailsOnlyWith RequestError.OfConditions (r.joinAlias primary table) := by
    intro primary table
    unfold joinAlias
    split
    · exact .ok _
    · exact .error trivial
  have hstep : ∀ primary s, FailsOnlyWith RequestError.OfConditions (r.joinStep primary s) := by
    intro primary s
    exact (halias _ _).bind fun _ _ => (halias _ _).bind fun _ _ => .ok _
  unfold joinPlan
  refine FailsOnlyWith.bind (.mapM fun s _ => hstep _ s) fun joins _ => ?_
  split
  · exact .error trivial
  · exact (halias _ _).bind fun _ _ => .ok _

/-- The errors of what follows the limits are those of the joins and the conditions. -/
theorem failsOnlyWith_statement (r : Registry) (s : Selection)
    (finish : JoinPlan → List Conjunct → CompiledQuery) :
    FailsOnlyWith RequestError.OfConditions (r.joinPlan s.tables >>= fun plan =>
      s.conjuncts >>= fun conjuncts => .ok (finish plan conjuncts)) :=
  (r.failsOnlyWith_joinPlan _).bind fun _ _ => s.failsOnlyWith_conjuncts.bind fun _ _ => .ok _

/-- The errors of what follows the sort order are those of the last clauses. -/
theorem failsOnlyWith_clauses (r : Registry) (cap : Option UInt64) (q : Request) (s : Selection)
    (finish : Page → JoinPlan → List Conjunct → CompiledQuery) :
    FailsOnlyWith RequestError.OfClauses (pagination cap q >>= fun page =>
      r.joinPlan s.tables >>= fun plan => s.conjuncts >>= fun conjuncts =>
        .ok (finish page plan conjuncts)) :=
  (failsOnlyWith_pagination _ _).bind fun page _ =>
    (r.failsOnlyWith_statement s (finish page)).imp fun _ => RequestError.OfConditions.ofClauses

/-- The stages after the look-ups report no unknown name. -/
theorem failsOnlyWith_compileSelection (r : Registry) (options : CompileOptions) (q : Request)
    (s : Selection) : FailsOnlyWith RequestError.NotUnknown (r.compileSelection options q s) :=
  s.failsOnlyWith_columns.bind fun _ _ => (failsOnlyWith_orderTerms _ _).bind fun _ _ =>
    (r.failsOnlyWith_clauses _ _ s _).imp fun _ => RequestError.OfClauses.notUnknown

end Registry

/-- A request fails with an unknown name just if a name that it mentions is not in its catalogue,
and then with the first such name, whatever else is wrong with the request. -/
theorem compile_eq_unknownIdentifier_iff {r : Registry} {options : CompileOptions} {q : Request}
    {id : String} :
    r.compile options q = .error (.unknownIdentifier id) ↔ r.firstUnknown? q = some id := by
  have hnames : r.names q = .error (.unknownIdentifier id) ↔ r.firstUnknown? q = some id := by
    rw [r.failsWith_names q, Option.map_eq_some_iff]
    constructor
    · rintro ⟨id', hid, h⟩
      rw [hid, RequestError.unknownIdentifier.inj h]
    · intro h
      exact ⟨id, h, rfl⟩
  unfold Registry.compile
  rw [← hnames, bind_eq_error_iff]
  refine ⟨fun h => h.resolve_right ?_, .inl⟩
  -- Once all names are found, the rest of the way has other errors only.
  rintro ⟨n, -, h⟩
  have hrest : FailsOnlyWith RequestError.NotUnknown (n.select >>= r.compileSelection options q) :=
    n.failsOnlyWith_select.bind fun s _ => r.failsOnlyWith_compileSelection options q s
  exact hrest _ h id rfl

example :
    Draft.pageViewsRegistry.firstUnknown?
        { measures := ["views.count"], dimensions := ["views.count", "time"] } =
      some "views.count" := by
  decide +kernel

end MetricLayer
