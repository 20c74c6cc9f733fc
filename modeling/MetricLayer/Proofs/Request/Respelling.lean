import Mathlib.Logic.Relation
import MetricLayer.Proofs.Json.Writing
import MetricLayer.Proofs.Request.RecordForm

/-!
# Spellings of a request

How the text of a request is spelled makes no difference: `Request.parse_eq_of_respelled`. The order
and the choice of keys, unknown entries, defaults, arrays in place of objects and the case of
keywords are steps of the three forms of records, `requestForm`, `filterForm` and `timeForm`; blanks
and escapes are what texts of one JSON value differ in. Each record is read together with its
keywords, since the step that changes the case of a keyword changes the wire record.
-/

namespace MetricLayer

/-! ## Forms -/

/-- No value of the field is spelled in another way. -/
def Verbatim (_ _ : Json) : Prop := False

/-- A recognised keyword is written in another ASCII case. -/
inductive KeywordCase {α : Type} (ofKeyword? : String → Option α) : Json → Json → Prop
  /-- Both texts are the same in lower case. -/
  | intro {s t : String} (hcase : s.toLower = t.toLower) (hs : (ofKeyword? s).isSome) :
    KeywordCase ofKeyword? (.string s) (.string t)

/-- An item of an array is spelled in another way. -/
inductive AtItem (R : Json → Json → Prop) : Json → Json → Prop
  /-- The other items stay. -/
  | intro {v w : Json} (vs ws : List Json) (h : R v w) :
    AtItem R (.array (vs ++ v :: ws)) (.array (vs ++ w :: ws))

/-- The direction of an order entry is written in another case. -/
inductive DirectionCase : Json → Json → Prop
  /-- The key stays. -/
  | intro {d e : Json} (k : Json) (h : KeywordCase SortDirection.ofKeyword? d e) :
    DirectionCase (.array [k, d]) (.array [k, e])

namespace RecordField

/-- A field that must not be left out. -/
def required (keys : List String) (R : Json → Json → Prop) : RecordField :=
  ⟨keys, none, R⟩

/-- A field that is an empty list if it is left out. -/
def listed (key : String) (R : Json → Json → Prop) : RecordField :=
  ⟨[key], some (.array []), R⟩

/-- A field that is `null` if it is left out. -/
def nullable (key : String) (R : Json → Json → Prop) : RecordField :=
  ⟨[key], some .null, R⟩

end RecordField

open RecordField (required listed nullable)

/-- The form of a filter. -/
def filterForm : RecordForm where
  fields := [required ["dimension", "member"] Verbatim,
    required ["operator"] (KeywordCase FilterOperator.ofKeyword?), listed "values" Verbatim]
  keys_nodup := by decide

/-- The form of a time dimension. -/
def timeForm : RecordForm where
  fields := [required ["dimension"] Verbatim,
    required ["granularity"] (KeywordCase Granularity.ofKeyword?), nullable "dateRange" Verbatim]
  keys_nodup := by decide

/-- The form of a request. -/
def requestForm : RecordForm where
  fields := [listed "measures" Verbatim, listed "dimensions" Verbatim,
    listed "filters" (AtItem filterForm.Step), nullable "timeDimension" timeForm.Step,
    listed "timeDimensions" (AtItem timeForm.Step), listed "order" (AtItem DirectionCase),
    nullable "limit" Verbatim, nullable "offset" Verbatim]
  keys_nodup := by decide

/-! ## Fields -/

section Fields

variable {α β : Type} {R : Json → Json → Prop} {v w : Json}

/-- What is read of a field is read of its value, if what it is without one is read of its
default. -/
theorem RecordField.field_eq (f : RecordField) {missing : Option α} {item : Json → Option α}
    (h : missing = f.absent.bind item) (es : List (String × Json)) :
    Wire.field f.keys missing item es = (f.value? es).bind item := by
  rw [RecordField.value?_eq, Wire.field]
  generalize (es.filter fun e => f.keys.contains e.1) = own
  rcases own with _ | ⟨e, _ | ⟨d, own⟩⟩
  · exact h
  · rfl
  · rfl

/-- A required field is read of its value. -/
theorem RecordField.field_required (keys : List String) (R : Json → Json → Prop)
    (item : Json → Option α) (es : List (String × Json)) :
    Wire.field keys none item es = ((required keys R).value? es).bind item :=
  (required keys R).field_eq rfl es

/-- A list is read of its value. -/
theorem RecordField.field_listed (key : String) (R : Json → Json → Prop)
    (item : Json → Option α) (es : List (String × Json)) :
    Wire.field [key] (some []) (Wire.listOf item) es =
      ((listed key R).value? es).bind (Wire.listOf item) := by
  have habsent : some [] = (listed key R).absent.bind (Wire.listOf item) := rfl
  exact (listed key R).field_eq habsent es

/-- What may be `null` is read of its value. -/
theorem RecordField.field_nullable (key : String) (R : Json → Json → Prop)
    (item : Json → Option α) (es : List (String × Json)) :
    Wire.field [key] (some none) (Wire.optional item) es =
      ((nullable key R).value? es).bind (Wire.optional item) := by
  have habsent : some none = (nullable key R).absent.bind (Wire.optional item) := rfl
  exact (nullable key R).field_eq habsent es

namespace Wire

/-- A list of what is read in two steps. -/
theorem listOf_map_comp (item : Json → Option α) (g : α → β) (v : Json) :
    listOf (fun v => (item v).map g) v = (listOf item v).map (List.map g) := by
  cases v with
  | array vs =>
    change (vs.mapM fun v => (item v).map g) = (vs.mapM item).map (List.map g)
    induction vs with
    | nil => rfl
    | cons v vs ih =>
      rw [List.mapM_cons, List.mapM_cons, ih]
      cases item v with
      | none => rfl
      | some x =>
        cases vs.mapM item with
        | none => rfl
        | some xs => rfl
  | _ => rfl

/-- An option of what is read in two steps. -/
theorem optional_map_comp (item : Json → Option α) (g : α → β) (v : Json) :
    optional (fun v => (item v).map g) v = (optional item v).map (Option.map g) := by
  cases v with
  | null => rfl
  | _ =>
    simp only [optional, Option.map_map]
    rfl

/-- A list is read the same if one of its items is. -/
theorem listOf_atItem {item : Json → Option α} (hitem : ∀ {v w}, R v w → item v = item w)
    (h : AtItem R v w) : listOf item v = listOf item w := by
  obtain ⟨vs, ws, h⟩ := h
  change (vs ++ _ :: ws).mapM item = (vs ++ _ :: ws).mapM item
  rw [List.mapM_append, List.mapM_append, List.mapM_cons, List.mapM_cons, hitem h]

/-- A record that may be `null` is read the same before and after a change of its spelling. -/
theorem optional_step {F : RecordForm} {item : Json → Option α} (hitem : F.Reads item)
    (h : F.Step v w) : optional item v = optional item w := by
  have heq := congrArg (Option.map some) (h.read_eq hitem)
  cases h <;> exact heq

end Wire

/-! ## Keywords -/

/-- An operator does not depend on the case of its keyword. -/
theorem FilterOperator.ofKeyword?_congr {s t : String} (h : s.toLower = t.toLower) :
    FilterOperator.ofKeyword? s = FilterOperator.ofKeyword? t := by
  unfold FilterOperator.ofKeyword?
  rw [h]

/-- A granularity does not depend on the case of its keyword. -/
theorem Granularity.ofKeyword?_congr {s t : String} (h : s.toLower = t.toLower) :
    Granularity.ofKeyword? s = Granularity.ofKeyword? t := by
  unfold Granularity.ofKeyword?
  rw [h]

/-- A direction does not depend on the case of its keyword. -/
theorem SortDirection.ofKeyword?_congr {s t : String} (h : s.toLower = t.toLower) :
    SortDirection.ofKeyword? s = SortDirection.ofKeyword? t := by
  unfold SortDirection.ofKeyword?
  rw [h]

end Fields

/-! ## Records with their keywords -/

namespace Wire

/-- Reads a filter with its operator. -/
def readFilter (v : Json) : Option (Except RequestError Filter) :=
  (filter? v).map WireFilter.resolve

/-- Reads a time dimension with its granularity. -/
def readTime (v : Json) : Option (Except RequestError TimeClause) :=
  (time? v).map WireTime.resolve

/-- Reads an order entry with its direction. -/
def readOrder (v : Json) : Option (Except RequestError OrderItem) :=
  (strings v).map orderItem

/-- An order entry is read the same in either case of its direction. -/
theorem readOrder_directionCase {v w : Json} (h : DirectionCase v w) :
    readOrder v = readOrder w := by
  obtain ⟨k, @⟨s, t, hcase, hs⟩⟩ := h
  obtain ⟨d, hd⟩ := Option.isSome_iff_exists.1 hs
  have ht : SortDirection.ofKeyword? t = some d := by
    rw [← SortDirection.ofKeyword?_congr hcase, hd]
  have hstrings (u : String) : strings (.array [k, .string u]) = k.string?.map fun k => [k, u] := by
    change [k, .string u].mapM Json.string? = _
    rw [List.mapM_cons, List.mapM_cons, List.mapM_nil]
    cases k.string? <;> rfl
  unfold readOrder
  rw [hstrings, hstrings]
  cases k.string? with
  | none => rfl
  | some k => simp [orderItem, hd, ht]

/-! ### Filters -/

/-- An object is read as a filter by its fields. -/
theorem filter?_object (es : List (String × Json)) :
    filter? (.object es) = (filterForm.arrange es).bind fun vs => filter? (.array vs) := by
  rw [filter?.eq_1, RecordField.field_required _ Verbatim,
    RecordField.field_required _ (KeywordCase FilterOperator.ofKeyword?),
    RecordField.field_listed _ Verbatim]
  simp only [RecordForm.arrange, RecordField.values?, filterForm, List.mapM_cons, List.mapM_nil]
  generalize RecordField.value? _ es = d
  generalize RecordField.value? _ es = o
  generalize RecordField.value? _ es = vs
  rcases d with _ | d
  · simp
  rcases o with _ | o
  · simp
  rcases vs with _ | vs
  · simp
  · rfl

/-- A filter is read the same in either case of its operator. -/
theorem readFilter_operatorCase {o o' : Json} (h : KeywordCase FilterOperator.ofKeyword? o o')
    (d vs : Json) : readFilter (.array [d, o', vs]) = readFilter (.array [d, o, vs]) := by
  obtain @⟨s, t, hcase, hs⟩ := h
  obtain ⟨operator, hoperator⟩ := Option.isSome_iff_exists.1 hs
  have ht : FilterOperator.ofKeyword? t = some operator := by
    rw [← FilterOperator.ofKeyword?_congr hcase, hoperator]
  have hread (u : String) : readFilter (.array [d, .string u, vs]) = d.string?.bind fun d =>
      (listOf Value.ofJson? vs).bind fun values => some (WireFilter.resolve ⟨d, u, values⟩) := by
    change Option.map _ (d.string?.bind fun d => (listOf Value.ofJson? vs).bind fun values =>
      some (WireFilter.mk d u values)) = _
    cases d.string? with
    | none => rfl
    | some d => cases listOf Value.ofJson? vs <;> rfl
  rw [hread, hread]
  simp only [WireFilter.resolve, hoperator, ht]

/-- Filters are read by their form. -/
theorem reads_filter : filterForm.Reads readFilter where
  object es := by
    unfold readFilter
    rw [filter?_object, Option.map_bind]
    rfl
  item {vs i f v w} hf hlength hv h := by
    obtain ⟨d, o, values, rfl⟩ := List.length_eq_three.1 hlength
    match i, hf, hv with
    | 1, rfl, rfl => exact readFilter_operatorCase h d values
    | 0, rfl, _ => exact False.elim h
    | 2, rfl, _ => exact False.elim h

/-! ### Time dimensions -/

/-- An object is read as a time dimension by its fields. -/
theorem time?_object (es : List (String × Json)) :
    time? (.object es) = (timeForm.arrange es).bind fun vs => time? (.array vs) := by
  rw [time?.eq_1, RecordField.field_required _ Verbatim,
    RecordField.field_required _ (KeywordCase Granularity.ofKeyword?),
    RecordField.field_nullable _ Verbatim]
  simp only [RecordForm.arrange, RecordField.values?, timeForm, List.mapM_cons, List.mapM_nil]
  generalize RecordField.value? _ es = d
  generalize RecordField.value? _ es = g
  generalize RecordField.value? _ es = r
  rcases d with _ | d
  · simp
  rcases g with _ | g
  · simp
  rcases r with _ | r
  · simp
  · rfl

/-- A time dimension is read the same in either case of its granularity. -/
theorem readTime_granularityCase {g g' : Json} (h : KeywordCase Granularity.ofKeyword? g g')
    (d r : Json) : readTime (.array [d, g', r]) = readTime (.array [d, g, r]) := by
  obtain @⟨s, t, hcase, hs⟩ := h
  obtain ⟨granularity, hgranularity⟩ := Option.isSome_iff_exists.1 hs
  have ht : Granularity.ofKeyword? t = some granularity := by
    rw [← Granularity.ofKeyword?_congr hcase, hgranularity]
  have hread (u : String) : readTime (.array [d, .string u, r]) = d.string?.bind fun d =>
      (optional strings r).bind fun range => some (WireTime.resolve ⟨d, u, range⟩) := by
    change Option.map _ (d.string?.bind fun d => (optional strings r).bind fun range =>
      some (WireTime.mk d u range)) = _
    cases d.string? with
    | none => rfl
    | some d => cases optional strings r <;> rfl
  rw [hread, hread]
  simp only [WireTime.resolve, hgranularity, ht]

/-- Time dimensions are read by their form. -/
theorem reads_time : timeForm.Reads readTime where
  object es := by
    unfold readTime
    rw [time?_object, Option.map_bind]
    rfl
  item {vs i f v w} hf hlength hv h := by
    obtain ⟨d, g, r, rfl⟩ := List.length_eq_three.1 hlength
    match i, hf, hv with
    | 1, rfl, rfl => exact readTime_granularityCase h d r
    | 0, rfl, _ => exact False.elim h
    | 2, rfl, _ => exact False.elim h

/-! ### Requests -/

/-- Reads a request with its keywords. -/
def readRequest (v : Json) : Option (Except RequestError Request) :=
  (request? v).map WireRequest.resolve

/-- The only time dimension, if there is any. -/
def onlyTime : List (Except RequestError TimeClause) → Except RequestError (Option TimeClause)
  | [] => .ok none
  | [t] => t.map some
  | _ => .error (.invalidRequest .severalTimeDimensions)

/-- The request of the parts that are read with their keywords. -/
def assemble (measures dimensions : List String) (filters : List (Except RequestError Filter))
    (time : Option (Except RequestError TimeClause)) (times : List (Except RequestError TimeClause))
    (order : List (Except RequestError OrderItem)) (limit offset : Option UInt64) :
    Except RequestError Request := do
  let filters ← filters.mapM id
  let time ← onlyTime (time.toList ++ times)
  let order ← order.mapM id
  .ok ⟨measures, dimensions, filters, time, order, limit, offset⟩

/-- Resolving the keywords of a request is resolving those of its parts. -/
theorem resolve_eq_assemble (w : WireRequest) :
    w.resolve = assemble w.measures w.dimensions (w.filters.map WireFilter.resolve)
      (w.timeDimension.map WireTime.resolve) (w.timeDimensions.map WireTime.resolve)
      (w.order.map orderItem) w.limit w.offset := by
  have htime (ts : List WireTime) :
      WireRequest.resolveTime ts = onlyTime (ts.map WireTime.resolve) := by
    rcases ts with _ | ⟨t, _ | ⟨u, ts⟩⟩ <;> rfl
  have htimes : (w.timeDimension.map WireTime.resolve).toList ++
      w.timeDimensions.map WireTime.resolve = w.times.map WireTime.resolve := by
    rw [WireRequest.times, List.map_append]
    cases w.timeDimension <;> rfl
  rw [WireRequest.resolve, assemble, htimes, List.mapM_map, List.mapM_map, htime]
  rfl

/-- An array of all fields is read part by part, each with its keywords. -/
theorem readRequest_array (m d f t ts o l n : Json) :
    readRequest (.array [m, d, f, t, ts, o, l, n]) =
      (strings m).bind fun measures => (strings d).bind fun dimensions =>
      (listOf readFilter f).bind fun filters => (optional readTime t).bind fun time =>
      (listOf readTime ts).bind fun times => (listOf readOrder o).bind fun order =>
      (optional rows l).bind fun limit => (optional rows n).bind fun offset =>
        some (assemble measures dimensions filters time times order limit offset) := by
  have hfilters : listOf readFilter f = (listOf filter? f).map (List.map WireFilter.resolve) :=
    listOf_map_comp filter? WireFilter.resolve f
  have htime : optional readTime t = (optional time? t).map (Option.map WireTime.resolve) :=
    optional_map_comp time? WireTime.resolve t
  have htimes : listOf readTime ts = (listOf time? ts).map (List.map WireTime.resolve) :=
    listOf_map_comp time? WireTime.resolve ts
  have horder : listOf readOrder o = (listOf strings o).map (List.map orderItem) :=
    listOf_map_comp strings orderItem o
  rw [hfilters, htime, htimes, horder]
  -- What is done with the keywords is moved into each part, through what reads its shape.
  simp only [readRequest, request?, Option.bind_eq_bind, Option.map_bind, Option.bind_map,
    Function.comp_def, Option.map_some, resolve_eq_assemble]

/-- An object is read as a request by its fields. -/
theorem request?_object (es : List (String × Json)) :
    request? (.object es) = (requestForm.arrange es).bind fun vs => request? (.array vs) := by
  have hstrings (key : String) : field [key] (some []) strings es =
      ((listed key Verbatim).value? es).bind strings :=
    RecordField.field_listed key Verbatim Json.string? es
  rw [request?.eq_1, hstrings, hstrings, RecordField.field_listed _ (AtItem filterForm.Step),
    RecordField.field_nullable _ timeForm.Step, RecordField.field_listed _ (AtItem timeForm.Step),
    RecordField.field_listed _ (AtItem DirectionCase), RecordField.field_nullable _ Verbatim,
    RecordField.field_nullable _ Verbatim]
  simp only [RecordForm.arrange, RecordField.values?, requestForm, List.mapM_cons, List.mapM_nil]
  generalize RecordField.value? _ es = m
  generalize RecordField.value? _ es = d
  generalize RecordField.value? _ es = f
  generalize RecordField.value? _ es = t
  generalize RecordField.value? _ es = ts
  generalize RecordField.value? _ es = o
  generalize RecordField.value? _ es = l
  generalize RecordField.value? _ es = n
  -- A field without value leaves nothing to read on either side, whatever is read before it.
  rcases m with _ | m
  · simp
  rcases d with _ | d
  · simp
  rcases f with _ | f
  · simp
  rcases t with _ | t
  · simp
  rcases ts with _ | ts
  · simp
  rcases o with _ | o
  · simp
  rcases l with _ | l
  · simp
  rcases n with _ | n
  · simp
  · rfl

/-- Requests are read by their form. -/
theorem reads_request : requestForm.Reads readRequest where
  object es := by
    unfold readRequest
    rw [request?_object, Option.map_bind]
    rfl
  item {vs i x v w} hx hlength hv h := by
    obtain ⟨m, d, f, t, ts, o, l, n, rfl⟩ :
        ∃ m d f t ts o l n, vs = [m, d, f, t, ts, o, l, n] := by
      match vs, hlength with
      | [m, d, f, t, ts, o, l, n], _ => exact ⟨m, d, f, t, ts, o, l, n, rfl⟩
    match i, hx, hv with
    | 2, rfl, rfl =>
      change readRequest (.array [m, d, w, t, ts, o, l, n]) = _
      rw [readRequest_array, readRequest_array, listOf_atItem (fun h => h.read_eq reads_filter) h]
    | 3, rfl, rfl =>
      change readRequest (.array [m, d, f, w, ts, o, l, n]) = _
      rw [readRequest_array, readRequest_array, optional_step reads_time h]
    | 4, rfl, rfl =>
      change readRequest (.array [m, d, f, t, w, o, l, n]) = _
      rw [readRequest_array, readRequest_array, listOf_atItem (fun h => h.read_eq reads_time) h]
    | 5, rfl, rfl =>
      change readRequest (.array [m, d, f, t, ts, w, l, n]) = _
      rw [readRequest_array, readRequest_array,
        listOf_atItem (fun h => readOrder_directionCase h) h]
    | 0, rfl, _ => exact False.elim h
    | 1, rfl, _ => exact False.elim h
    | 6, rfl, _ => exact False.elim h
    | 7, rfl, _ => exact False.elim h

end Wire

/-! ## Texts -/

/-- A text is read as a request by its JSON value. -/
theorem Request.parse_of_value {s : String} {v : Json} (h : Json.IsText s v) :
    Request.parse s = (Wire.readRequest v).getD (.error (.invalidRequest .malformed)) := by
  unfold Request.parse Wire.readRequest
  rw [Json.parse?_eq_some_iff.2 h, Option.bind_some]
  cases Wire.request? v <;> rfl

/-- Texts whose JSON values are spelled differently as records of a request are read alike. -/
theorem Request.parse_eq_of_respelled {s s' : String} {v v' : Json} (hs : Json.IsText s v)
    (hs' : Json.IsText s' v') (h : Relation.EqvGen requestForm.Step v v') :
    Request.parse s = Request.parse s' := by
  have hread : Wire.readRequest v = Wire.readRequest v' := by
    clear hs hs'
    induction h with
    | rel v w h => exact h.read_eq Wire.reads_request
    | refl v => rfl
    | symm v w _ ih => exact ih.symm
    | trans u v w _ _ ih ih' => exact ih.trans ih'
  rw [parse_of_value hs, parse_of_value hs', hread]

/-- The entries of a request with one filter and one measure. -/
def Request.filteredViews (filter : Json) : List (String × Json) :=
  [("filters", .array [filter]), ("measures", Json.ofStrings ["views.count"])]

/-- A request with one filter, in the common spelling. -/
def Request.commonSpelling : Json :=
  .object (filteredViews
    (.object [("dimension", .string "users.role"), ("operator", .string "eq")])).reverse

/-- The same request, with an entry that means nothing and a limit of `null`, and with the filter as
an array whose operator is in capitals. -/
def Request.unusualSpelling : Json :=
  .object (("limit", .null) :: ("comment", .object [("measures", .bool true)]) ::
    filteredViews (.array [.string "users.role", .string "EQ", .array []]))

/-- The unusual spelling is reached from the common one. -/
theorem Request.commonSpelling_respelled :
    Relation.EqvGen requestForm.Step commonSpelling unusualSpelling := by
  have hfilter {v w : Json} (h : filterForm.Step v w) :
      requestForm.Step (.object (filteredViews v)) (.object (filteredViews w)) :=
    .value (f := listed "filters" (AtItem filterForm.Step)) (by simp [requestForm])
      (by simp [listed]) (.intro [] [] h)
  have hmember : filterForm.Step
      (.object [("dimension", .string "users.role"), ("operator", .string "eq")])
      (.object [("member", .string "users.role"), ("operator", .string "eq")]) :=
    .rename (by decide) (.string "users.role")
  have harray : filterForm.Step
      (.object [("member", .string "users.role"), ("operator", .string "eq")])
      (.array [.string "users.role", .string "eq", .array []]) :=
    .positional rfl
  have hsmall : "eq".toLower = "eq" := by decide +kernel
  have hlarge : "EQ".toLower = "eq" := by decide +kernel
  have hcapitals : filterForm.Step (.array [.string "users.role", .string "eq", .array []])
      (.array [.string "users.role", .string "EQ", .array []]) :=
    .item (i := 1) rfl rfl rfl (.intro (hsmall.trans hlarge.symm) (by decide +kernel))
  have hcomment {es : List (String × Json)} : requestForm.Step (.object es)
      (.object (("comment", .object [("measures", .bool true)]) :: es)) :=
    .unknown (by decide) (.object [("measures", .bool true)])
  have hlimit : requestForm.Step (.object (("comment", .object [("measures", .bool true)]) ::
      filteredViews (.array [.string "users.role", .string "EQ", .array []]))) unusualSpelling :=
    .absent (f := nullable "limit" Verbatim) (by simp [requestForm]) (by simp [nullable]) rfl
      (by simp [RecordField.Occurs, filteredViews, nullable])
  refine .trans _ _ _ (.rel _ _ (.permute (List.reverse_perm _))) ?_
  refine .trans _ _ _ (.rel _ _ (hfilter hmember)) ?_
  refine .trans _ _ _ (.rel _ _ (hfilter harray)) ?_
  refine .trans _ _ _ (.rel _ _ (hfilter hcapitals)) ?_
  exact .trans _ _ _ (.rel _ _ hcomment) (.rel _ _ hlimit)

/-- A request in the common spelling without blanks is read as one in the unusual spelling with one
item on a line. -/
theorem Request.parse_eq_of_respelled_unusual :
    Json.IsText commonSpelling.compact commonSpelling ∧
      Json.IsText unusualSpelling.indented unusualSpelling ∧
      Relation.EqvGen requestForm.Step commonSpelling unusualSpelling ∧
      Request.parse commonSpelling.compact = Request.parse unusualSpelling.indented := by
  have hcommon : Json.IsText commonSpelling.compact commonSpelling :=
    Json.isText_compact (by simp [commonSpelling, filteredViews, Json.Writable,
      Json.WritableEntries, Json.WritableItems, Json.ofStrings])
  have hunusual : Json.IsText unusualSpelling.indented unusualSpelling :=
    Json.isText_indented (by simp [unusualSpelling, filteredViews, Json.Writable,
      Json.WritableEntries, Json.WritableItems, Json.ofStrings])
  exact ⟨hcommon, hunusual, commonSpelling_respelled,
    parse_eq_of_respelled hcommon hunusual commonSpelling_respelled⟩

end MetricLayer
