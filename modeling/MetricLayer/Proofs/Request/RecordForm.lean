import MetricLayer.Proofs.Items
import MetricLayer.Request.Wire

/-!
# Records on the wire

A record of a request may be spelled in many ways: `RecordForm.Step` is one change of the spelling.
What reads an object by arranging the values of its fields, and then reads the array of these, reads
the same before and after each step, if it does so where the value of a single field is spelled
differently: `RecordForm.Step.read_eq`.
-/

namespace MetricLayer

/-- A field of a record on the wire. -/
structure RecordField where
  /-- The keys under which the field may stand. -/
  keys : List String
  /-- What the field means to have if it is left out; none if it must not be. -/
  absent : Option Json
  /-- The second value spells the first in another way. -/
  Respells : Json → Json → Prop

/-- The fields of a record in the order of an array; no key belongs to two of them. -/
structure RecordForm where
  /-- The fields. -/
  fields : List RecordField
  /-- No key repeats. -/
  keys_nodup : (fields.flatMap RecordField.keys).Nodup

variable {key : String} {v w : Json} {es es' : List (String × Json)}

namespace RecordField

variable {f : RecordField}

/-- The value that an object gives to a field. -/
def value? (f : RecordField) (es : List (String × Json)) : Option Json :=
  Wire.field f.keys f.absent some es

/-- The values that an object gives to several fields, if it gives one to each. -/
def values? (fs : List RecordField) (es : List (String × Json)) : Option (List Json) :=
  fs.mapM fun f => f.value? es

/-- The field stands in the object. -/
def Occurs (f : RecordField) (es : List (String × Json)) : Prop :=
  ∃ e ∈ es, e.1 ∈ f.keys

/-- The entries of a field. -/
theorem value?_eq (f : RecordField) (es : List (String × Json)) :
    f.value? es = match es.filter fun e => f.keys.contains e.1 with
      | [] => f.absent
      | [e] => some e.2
      | _ => none := rfl

/-- A field that does not occur has no entries. -/
theorem filter_eq_nil (h : ¬ f.Occurs es) : (es.filter fun e => f.keys.contains e.1) = [] := by
  rw [List.filter_eq_nil_iff]
  intro e he hkey
  exact h ⟨e, he, by simpa using hkey⟩

/-- A field that occurs has entries. -/
theorem filter_ne_nil (h : f.Occurs es) : (es.filter fun e => f.keys.contains e.1) ≠ [] := by
  obtain ⟨e, he, hkey⟩ := h
  exact List.ne_nil_of_mem (List.mem_filter.2 ⟨he, by simpa using hkey⟩)

/-- An entry under another key changes nothing. -/
theorem value?_cons_of_notMem (h : key ∉ f.keys) : f.value? ((key, v) :: es) = f.value? es := by
  rw [value?_eq, value?_eq, List.filter_cons_of_neg (by simpa using h)]

/-- A field that does not occur has its default. -/
theorem value?_of_not_occurs (h : ¬ f.Occurs es) : f.value? es = f.absent := by
  rw [value?_eq, filter_eq_nil h]

/-- A field that occurs once has the value of its entry. -/
theorem value?_cons_of_not_occurs (hkey : key ∈ f.keys) (h : ¬ f.Occurs es) :
    f.value? ((key, v) :: es) = some v := by
  rw [value?_eq, List.filter_cons_of_pos (by simpa using hkey), filter_eq_nil h]

/-- A field that occurs twice has no value. -/
theorem value?_cons_of_occurs (hkey : key ∈ f.keys) (h : f.Occurs es) :
    f.value? ((key, v) :: es) = none := by
  obtain ⟨e, entries, heq⟩ := List.exists_cons_of_ne_nil (filter_ne_nil h)
  rw [value?_eq, List.filter_cons_of_pos (by simpa using hkey), heq]

/-- The order of the entries makes no difference. -/
theorem value?_perm (h : es.Perm es') : f.value? es = f.value? es' := by
  have hperm := h.filter fun e => f.keys.contains e.1
  rw [value?_eq, value?_eq]
  generalize (es.filter fun e => f.keys.contains e.1) = own at hperm
  generalize (es'.filter fun e => f.keys.contains e.1) = own' at hperm
  rcases own with _ | ⟨e, _ | ⟨d, own⟩⟩
  · rw [List.nil_perm.1 hperm]
  · rw [List.singleton_perm.1 hperm]
  · rcases own' with _ | ⟨e', _ | ⟨d', own'⟩⟩
    · exact absurd hperm.length_eq (by simp)
    · exact absurd hperm.length_eq (by simp)
    · rfl

/-- Two keys of the field are the same. -/
theorem value?_rename {key' : String} (h : key ∈ f.keys ↔ key' ∈ f.keys) :
    f.value? ((key, v) :: es) = f.value? ((key', v) :: es) := by
  by_cases hkey : key ∈ f.keys
  · by_cases hes : f.Occurs es
    · rw [value?_cons_of_occurs hkey hes, value?_cons_of_occurs (h.1 hkey) hes]
    · rw [value?_cons_of_not_occurs hkey hes, value?_cons_of_not_occurs (h.1 hkey) hes]
  · rw [value?_cons_of_notMem hkey, value?_cons_of_notMem (mt h.2 hkey)]

/-- Objects that give the same value to each field give the same values. -/
theorem values?_congr {fs : List RecordField} (h : ∀ f ∈ fs, f.value? es = f.value? es') :
    values? fs es = values? fs es' :=
  mapM_congr h

/-- The values of fields one after the other. -/
theorem values?_append_cons (fs gs : List RecordField) (f : RecordField)
    (es : List (String × Json)) :
    values? (fs ++ f :: gs) es = (values? fs es).bind fun vs => (f.value? es).bind fun v =>
      (values? gs es).bind fun ws => some (vs ++ v :: ws) := by
  simp [values?, List.mapM_append, List.mapM_cons, Option.bind_assoc]

end RecordField

namespace RecordForm

/-- The values that an object gives to the fields, in their order. -/
def arrange (F : RecordForm) (es : List (String × Json)) : Option (List Json) :=
  RecordField.values? F.fields es

/-- One change of the spelling of a record. -/
inductive Step (F : RecordForm) : Json → Json → Prop
  /-- The entries of the object are put in another order. -/
  | permute {es es' : List (String × Json)} (h : es.Perm es') : F.Step (.object es) (.object es')
  /-- An entry is added under a key that belongs to no field. -/
  | unknown {es : List (String × Json)} {key : String} (h : ∀ f ∈ F.fields, key ∉ f.keys)
      (v : Json) : F.Step (.object es) (.object ((key, v) :: es))
  /-- A key is replaced by one that belongs to the same field. -/
  | rename {es : List (String × Json)} {key key' : String}
      (h : ∀ f ∈ F.fields, key ∈ f.keys ↔ key' ∈ f.keys) (v : Json) :
    F.Step (.object ((key, v) :: es)) (.object ((key', v) :: es))
  /-- A field that is left out is written with what it means to have. -/
  | absent {es : List (String × Json)} {f : RecordField} {key : String} {v : Json}
      (hf : f ∈ F.fields) (hkey : key ∈ f.keys) (hv : f.absent = some v) (hes : ¬ f.Occurs es) :
    F.Step (.object es) (.object ((key, v) :: es))
  /-- The object is replaced by the array of the values of all fields. -/
  | positional {es : List (String × Json)} {vs : List Json} (h : F.arrange es = some vs) :
    F.Step (.object es) (.array vs)
  /-- The value of a field of the object is spelled in another way. -/
  | value {es : List (String × Json)} {f : RecordField} {key : String} {v w : Json}
      (hf : f ∈ F.fields) (hkey : key ∈ f.keys) (h : f.Respells v w) :
    F.Step (.object ((key, v) :: es)) (.object ((key, w) :: es))
  /-- The value of a field in the array of all fields is spelled in another way. -/
  | item {vs : List Json} {i : Nat} {f : RecordField} {v w : Json} (hf : F.fields[i]? = some f)
      (hlength : vs.length = F.fields.length) (hv : vs[i]? = some v) (h : f.Respells v w) :
    F.Step (.array vs) (.array (vs.set i w))

/-- The reader takes the fields of an object in order and reads the array of them; in this it does
not mind how the value of a field is spelled. -/
structure Reads {α : Type} (F : RecordForm) (read : Json → Option α) : Prop where
  /-- An object is read as the array of its fields. -/
  object (es : List (String × Json)) :
    read (.object es) = (F.arrange es).bind fun vs => read (.array vs)
  /-- The spelling of the value of a field makes no difference. -/
  item {vs : List Json} {i : Nat} {f : RecordField} {v w : Json} (hf : F.fields[i]? = some f)
      (hlength : vs.length = F.fields.length) (hv : vs[i]? = some v) (h : f.Respells v w) :
    read (.array (vs.set i w)) = read (.array vs)

variable {F : RecordForm} {f : RecordField} {α : Type} {read : Json → Option α}

/-- Objects that give the same values to all fields are read alike. -/
theorem Reads.object_congr (hread : F.Reads read) (h : ∀ f ∈ F.fields, f.value? es = f.value? es') :
    read (.object es) = read (.object es') := by
  rw [hread.object, hread.object, arrange, arrange, RecordField.values?_congr h]

/-- A key of a field belongs to no field before and to none after it. -/
theorem exists_split (hf : f ∈ F.fields) (hkey : key ∈ f.keys) :
    ∃ pre post, F.fields = pre ++ f :: post ∧
      (∀ g ∈ pre, key ∉ g.keys) ∧ ∀ g ∈ post, key ∉ g.keys := by
  obtain ⟨pre, post, hF⟩ := List.append_of_mem hf
  have hnodup := F.keys_nodup
  rw [hF, List.flatMap_append, List.flatMap_cons, List.nodup_append', List.nodup_append'] at hnodup
  obtain ⟨-, ⟨-, -, hpost⟩, hpre⟩ := hnodup
  refine ⟨pre, post, hF, fun g hg hmem => ?_, fun g hg hmem => ?_⟩
  · exact hpre (List.mem_flatMap.2 ⟨g, hg, hmem⟩) (List.mem_append_left _ hkey)
  · exact hpost hkey (List.mem_flatMap.2 ⟨g, hg, hmem⟩)

/-- Writing what a field means to have makes no difference. -/
theorem Reads.object_absent (hread : F.Reads read) (hf : f ∈ F.fields) (hkey : key ∈ f.keys)
    (hv : f.absent = some v) (hes : ¬ f.Occurs es) :
    read (.object es) = read (.object ((key, v) :: es)) := by
  obtain ⟨pre, post, hF, hpre, hpost⟩ := exists_split hf hkey
  refine hread.object_congr fun g hg => ?_
  rw [hF, List.mem_append, List.mem_cons] at hg
  rcases hg with hg | rfl | hg
  · rw [RecordField.value?_cons_of_notMem (hpre g hg)]
  · rw [RecordField.value?_of_not_occurs hes, hv, RecordField.value?_cons_of_not_occurs hkey hes]
  · rw [RecordField.value?_cons_of_notMem (hpost g hg)]

/-- The spelling of the value of a field in an array makes no difference. -/
theorem Reads.array_value (hread : F.Reads read) {pre post : List RecordField} {vs ws : List Json}
    (hF : F.fields = pre ++ f :: post) (hvs : vs.length = pre.length)
    (hws : ws.length = post.length) (h : f.Respells v w) :
    read (.array (vs ++ v :: ws)) = read (.array (vs ++ w :: ws)) := by
  have hf : F.fields[vs.length]? = some f := by simp [hF, hvs]
  have hlength : (vs ++ v :: ws).length = F.fields.length := by simp [hF, hvs, hws]
  have hset : (vs ++ v :: ws).set vs.length w = vs ++ w :: ws := by simp
  rw [← hset]
  exact (hread.item hf hlength (by simp) h).symm

/-- The spelling of the value of a field in an object makes no difference. -/
theorem Reads.object_value (hread : F.Reads read) (hf : f ∈ F.fields) (hkey : key ∈ f.keys)
    (h : f.Respells v w) : read (.object ((key, v) :: es)) = read (.object ((key, w) :: es)) := by
  obtain ⟨pre, post, hF, hpre, hpost⟩ := exists_split hf hkey
  have hother : ∀ (gs : List RecordField) (u : Json), (∀ g ∈ gs, key ∉ g.keys) →
      RecordField.values? gs ((key, u) :: es) = RecordField.values? gs es :=
    fun gs u hgs => RecordField.values?_congr fun g hg =>
      RecordField.value?_cons_of_notMem (hgs g hg)
  rw [hread.object, hread.object, arrange, arrange, hF, RecordField.values?_append_cons,
    RecordField.values?_append_cons, hother pre v hpre, hother pre w hpre, hother post v hpost,
    hother post w hpost]
  -- A field that stands there twice has no value in either spelling.
  by_cases hes : f.Occurs es
  · rw [RecordField.value?_cons_of_occurs hkey hes, RecordField.value?_cons_of_occurs hkey hes]
  · rw [RecordField.value?_cons_of_not_occurs hkey hes,
      RecordField.value?_cons_of_not_occurs hkey hes]
    cases hvs : RecordField.values? pre es with
    | none => rfl
    | some vs =>
      cases hws : RecordField.values? post es with
      | none => rfl
      | some ws => exact hread.array_value hF (length_eq_of_mapM hvs) (length_eq_of_mapM hws) h

/-- A record is read the same before and after a change of its spelling. -/
theorem Step.read_eq (hread : F.Reads read) (h : F.Step v w) : read v = read w := by
  cases h with
  | permute h => exact hread.object_congr fun f _ => RecordField.value?_perm h
  | unknown h v =>
    exact hread.object_congr fun f hf => (RecordField.value?_cons_of_notMem (h f hf)).symm
  | rename h v => exact hread.object_congr fun f hf => RecordField.value?_rename (h f hf)
  | absent hf hkey hv hes => exact hread.object_absent hf hkey hv hes
  | positional h => rw [hread.object, h, Option.bind_some]
  | value hf hkey h => exact hread.object_value hf hkey h
  | item hf hlength hv h => exact (hread.item hf hlength hv h).symm

end RecordForm

end MetricLayer
