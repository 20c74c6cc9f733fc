import MetricLayer.Proofs.Decimal.Writing
import MetricLayer.Proofs.Fallible
import MetricLayer.Proofs.Json.Writing
import MetricLayer.Request.Wire

/-!
# Requests come back from the wire

A request whose values are truth values, integers and texts is read back from its wire form, however
this is spelled as JSON: `Request.parse_written`. The form is taken apart as the reader does it: the
shape of each record gives a wire record whose keywords are names, and names are keywords.
-/

namespace MetricLayer

variable {α β : Type}

/-! ## Keywords -/

/-- The name of an operator is a keyword of it. -/
@[simp] theorem FilterOperator.ofKeyword?_name (o : FilterOperator) :
    FilterOperator.ofKeyword? o.name = some o := by
  cases o <;> decide +kernel

/-- The name of a granularity is a keyword of it. -/
@[simp] theorem Granularity.ofKeyword?_name (g : Granularity) :
    Granularity.ofKeyword? g.name = some g := by
  cases g <;> decide +kernel

/-- The name of a direction is a keyword of it. -/
@[simp] theorem SortDirection.ofKeyword?_name (d : SortDirection) :
    SortDirection.ofKeyword? d.name = some d := by
  cases d <;> decide +kernel

/-! ## Values -/

/-- The value is a truth value, an integer or a text, and no floating-point number. -/
def Value.IsExact : Value → Prop
  | .float _ => False
  | _ => True

/-- An integer is read back from its numeral. -/
theorem Value.ofNumeral?_ofInt (i : Int64) : Value.ofNumeral? (.ofInt i.toInt) = some (.int i) := by
  have hlow := i.le_toInt
  have hhigh := i.toInt_lt
  have hinteger : (Numeral.ofInt i.toInt).isInteger = true := rfl
  unfold Value.ofNumeral?
  rw [Numeral.wholeValue_ofInt, hinteger]
  by_cases hneg : i.toInt < 0
  · have hsign : (Numeral.ofInt i.toInt).negative = true := by simp [Numeral.ofInt, hneg]
    have hvalue : -(i.toInt.natAbs : Int) = i.toInt := by omega
    have hpos : 0 < i.toInt.natAbs := by omega
    have hle : i.toInt.natAbs ≤ 0x8000000000000000 := by omega
    dsimp only
    rw [hsign, if_neg (by simp), if_pos (by simp [hpos, hle]), hvalue, Int64.ofInt_toInt]
  · have hsign : (Numeral.ofInt i.toInt).negative = false := by simp [Numeral.ofInt, hneg]
    have hvalue : (i.toInt.natAbs : Int) = i.toInt := by omega
    have hlt : i.toInt.natAbs < 0x8000000000000000 := by omega
    have hint : Int64.ofNat i.toInt.natAbs = i := by
      rw [← Int64.ofInt_eq_ofNat, hvalue, Int64.ofInt_toInt]
    dsimp only
    rw [hsign, if_pos (by simp [hlt]), hint]

/-- A value without floating-point number is read back from the JSON that stands for it. -/
theorem Value.ofJson?_toJson {v : Value} (h : v.IsExact) : Value.ofJson? v.toJson = some v := by
  cases v with
  | bool b => rfl
  | int i => exact Value.ofNumeral?_ofInt i
  | float x => exact h.elim
  | text s => rfl

/-- The JSON that stands for a value can be written. -/
theorem Value.writable_toJson (v : Value) : v.toJson.Writable := by
  cases v with
  | bool b => trivial
  | int i => exact Json.wellFormed_ofInt i.toInt
  | float x => exact x.wellFormed_numeral
  | text s => trivial

namespace Wire

/-! ## Lists, options and numbers -/

/-- A list is read back if each of its items is. -/
theorem listOf_map {item : Json → Option α} {f : β → Json} {g : β → α} {xs : List β}
    (h : ∀ x ∈ xs, item (f x) = some (g x)) :
    listOf item (.array (xs.map f)) = some (xs.map g) := by
  change (xs.map f).mapM item = some (xs.map g)
  induction xs with
  | nil => rfl
  | cons x xs ih =>
    rw [List.map_cons, List.mapM_cons, h x List.mem_cons_self,
      ih fun x hx => h x (List.mem_cons_of_mem _ hx)]
    rfl

/-- Texts are read back. -/
theorem strings_ofStrings (ss : List String) : strings (Json.ofStrings ss) = some ss := by
  have hread : listOf Json.string? (.array (ss.map .string)) = some (ss.map id) :=
    listOf_map fun _ _ => rfl
  rwa [List.map_id] at hread

/-- A number of rows is read back. -/
theorem rows_ofNat (n : UInt64) : rows (.number (.ofNat n.toNat)) = some n := by
  have hlt := n.toNat_lt_size
  have hinteger : (Numeral.ofNat n.toNat).isInteger = true := rfl
  have hsign : (Numeral.ofNat n.toNat).negative = false := rfl
  change (if _ then _ else _) = _
  simp [hinteger, hsign, hlt]

/-- An optional number of rows is read back. -/
theorem optional_ofRows (n : Option UInt64) : optional rows (Json.ofRows n) = some n := by
  cases n with
  | none => rfl
  | some n =>
    change (rows (.number (.ofNat n.toNat))).map some = some (some n)
    rw [rows_ofNat, Option.map_some]

end Wire

/-! ## Shapes -/

/-- The filter as a wire record, with the name of its operator. -/
def Filter.wire (f : Filter) : WireFilter :=
  ⟨f.dimension, f.operator.name, f.values⟩

/-- The bounds of the date range. -/
def DateRange.ends (r : DateRange) : List String :=
  [r.lower, r.upper]

/-- The time dimension as a wire record, with the name of its granularity. -/
def TimeClause.wire (t : TimeClause) : WireTime :=
  ⟨t.dimension, t.granularity.name, t.dateRange.map DateRange.ends⟩

/-- The order item as a wire entry, with the name of its direction. -/
def OrderItem.wire (o : OrderItem) : List String :=
  [o.key, o.direction.name]

/-- The request as a wire record. -/
def Request.wire (r : Request) : WireRequest where
  measures := r.measures
  dimensions := r.dimensions
  filters := r.filters.map Filter.wire
  timeDimension := r.time.map TimeClause.wire
  timeDimensions := []
  order := r.order.map OrderItem.wire
  limit := r.limit
  offset := r.offset

/-- The values of a request hold no floating-point number. -/
def Request.IsExact (r : Request) : Prop :=
  ∀ f ∈ r.filters, ∀ v ∈ f.values, v.IsExact

/-- A filter is read back as far as its shape goes. -/
theorem Wire.filter?_toJson {f : Filter} (h : ∀ v ∈ f.values, v.IsExact) :
    Wire.filter? f.toJson = some f.wire := by
  have hvalues : Wire.listOf Value.ofJson? (.array (f.values.map Value.toJson)) =
      some (f.values.map id) :=
    Wire.listOf_map fun v hv => Value.ofJson?_toJson (h v hv)
  rw [List.map_id] at hvalues
  simp [Wire.filter?, Filter.toJson, Filter.wire, Wire.field, Json.string?, hvalues]

/-- A time dimension is read back as far as its shape goes. -/
theorem Wire.time?_toJson (t : TimeClause) : Wire.time? t.toJson = some t.wire := by
  have hrange : Wire.optional Wire.strings (Json.ofOption (t.dateRange.map DateRange.toJson)) =
      some (t.dateRange.map DateRange.ends) := by
    cases t.dateRange with
    | none => rfl
    | some r => rfl
  simp [Wire.time?, TimeClause.toJson, TimeClause.wire, Wire.field, Json.string?, hrange]

/-- A request is read back as far as its shape goes. -/
theorem Wire.request?_toJson {r : Request} (h : r.IsExact) :
    Wire.request? r.toJson = some r.wire := by
  have hfilters : Wire.listOf Wire.filter? (.array (r.filters.map Filter.toJson)) =
      some (r.filters.map Filter.wire) :=
    Wire.listOf_map fun f hf => Wire.filter?_toJson (h f hf)
  have horder : Wire.listOf Wire.strings (.array (r.order.map OrderItem.toJson)) =
      some (r.order.map OrderItem.wire) :=
    Wire.listOf_map fun o _ => Wire.strings_ofStrings o.wire
  have htime : Wire.optional Wire.time? (Json.ofOption (r.time.map TimeClause.toJson)) =
      some (r.time.map TimeClause.wire) := by
    cases r.time with
    | none => rfl
    | some t =>
      change (Wire.time? t.toJson).map some = _
      rw [Wire.time?_toJson, Option.map_some, Option.map_some]
  simp [Wire.request?, Request.toJson, Request.wire, Wire.field, Wire.strings_ofStrings, hfilters,
    horder, htime, Wire.optional_ofRows]

/-! ## Keywords -/

/-- Items are found again by a step that finds each of them. -/
theorem mapM_map_eq_ok {ε : Type} {f : α → Except ε β} {g : β → α} (h : ∀ y, f (g y) = .ok y)
    (ys : List β) : (ys.map g).mapM f = .ok ys := by
  rw [mapM_eq_ok_iff, List.forall₂_map_left_iff, List.forall₂_same]
  exact fun y _ => h y

/-- The wire record of a filter is resolved to the filter. -/
theorem Filter.resolve_wire (f : Filter) : f.wire.resolve = .ok f := by
  simp [WireFilter.resolve, Filter.wire]

/-- The wire record of a time dimension is resolved to the time dimension. -/
theorem TimeClause.resolve_wire (t : TimeClause) : t.wire.resolve = .ok t := by
  have hrange : WireTime.resolveRange (t.dateRange.map DateRange.ends) = .ok t.dateRange := by
    cases t.dateRange with
    | none => rfl
    | some r => rfl
  simp only [WireTime.resolve, TimeClause.wire, Granularity.ofKeyword?_name, hrange]
  rfl

/-- The wire entry of an order item is resolved to the item. -/
theorem OrderItem.resolve_wire (o : OrderItem) : Wire.orderItem o.wire = .ok o := by
  simp [Wire.orderItem, OrderItem.wire]

/-- The wire record of a request is resolved to the request. -/
theorem Request.resolve_wire (r : Request) : r.wire.resolve = .ok r := by
  have htime : WireRequest.resolveTime r.wire.times = .ok r.time := by
    unfold WireRequest.times Request.wire
    cases r.time with
    | none => rfl
    | some t =>
      change t.wire.resolve.map some = _
      rw [TimeClause.resolve_wire]
      rfl
  unfold WireRequest.resolve
  rw [htime]
  simp only [Request.wire, mapM_map_eq_ok Filter.resolve_wire,
    mapM_map_eq_ok OrderItem.resolve_wire]
  rfl

/-! ## The round trip -/

/-- The wire form of a filter can be written. -/
theorem Filter.writable_toJson (f : Filter) : f.toJson.Writable :=
  ⟨trivial, trivial, Json.writable_array_map fun v _ => v.writable_toJson, trivial⟩

/-- The wire form of a time dimension can be written. -/
theorem TimeClause.writable_toJson (t : TimeClause) : t.toJson.Writable :=
  have hrange := Json.writable_ofOption (f := DateRange.toJson)
    (fun r => Json.writable_ofStrings r.ends) t.dateRange
  ⟨trivial, trivial, hrange, trivial⟩

/-- The wire form of a request can be written. -/
theorem Request.writable_toJson (r : Request) : r.toJson.Writable :=
  ⟨Json.writable_ofStrings r.measures, Json.writable_ofStrings r.dimensions,
    Json.writable_array_map fun f _ => f.writable_toJson,
    Json.writable_ofOption TimeClause.writable_toJson r.time,
    Json.writable_array_map fun o _ => Json.writable_ofStrings o.wire,
    Json.writable_ofRows r.limit, Json.writable_ofRows r.offset, trivial⟩

/-- Every spelling of the wire form is read as the request. -/
theorem Request.parse_of_isText {r : Request} (h : r.IsExact) {s : String}
    (hs : Json.IsText s r.toJson) : Request.parse s = .ok r := by
  unfold Request.parse
  rw [Json.parse?_eq_some_iff.2 hs, Option.bind_some, Wire.request?_toJson h]
  exact r.resolve_wire

/-- A request without floating-point numbers is read back from what is written for it, and from
every other text of its wire form. -/
theorem Request.parse_written {r : Request} (h : r.IsExact) :
    Request.parse r.render = .ok r ∧
      ∀ s, Json.IsText s r.toJson → Request.parse s = .ok r :=
  ⟨parse_of_isText h (Json.isText_compact r.writable_toJson), fun _ hs => parse_of_isText h hs⟩

/-- A request that is hard to write: quotes, control characters and other scripts in its texts,
values of different kinds that look the same, and the greatest and least numbers. -/
def Request.intricate : Request where
  measures := ["views.\"count\"", "\\u0041"]
  dimensions := ["", "gr\u00f6\u00dfe", "\u65e5\u672c"]
  filters := [
    ⟨"a\tb\nc\x00\x1f", .isIn, [.text "1", .int 1, .bool true, .text "true", .text "null"]⟩,
    ⟨"member", .contains, [.int Int64.minValue, .int Int64.maxValue, .int 0]⟩,
    ⟨"x", .ne, []⟩]
  time := some ⟨"views.seen_at", .quarter, some ⟨"[1, 2]", "\u007f"⟩⟩
  order := [⟨"time", .desc⟩, ⟨"asc", .asc⟩]
  limit := some 0xffffffffffffffff
  offset := some 0

/-- The intricate request is read back from what is written for it. -/
theorem Request.parse_written_intricate :
    intricate.IsExact ∧ Request.parse intricate.render = .ok intricate := by
  have hexact : intricate.IsExact := by simp [IsExact, intricate, Value.IsExact]
  exact ⟨hexact, (parse_written hexact).1⟩

end MetricLayer
