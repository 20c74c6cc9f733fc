import MetricLayer.Compile.DialectMismatch
import MetricLayer.Proofs.Digest.Collision
import MetricLayer.Proofs.Request.RoundTrip

/-!
# Fingerprints tell executions apart

The text under a fingerprint stands for one execution only, that is one dialect, one query text and
one list of values: `CompiledQuery.identity_unambiguous`. So two executions share a fingerprint only
if the bytes of their texts collide under SHA-256. The text can be read back as JSON, and each part
of it is known by the JSON that stands for it; numbers of the two kinds differ because a
floating-point number is always written with a fraction or an exponent.
-/

namespace MetricLayer

/-- A dialect is known by its name. -/
theorem Dialect.name_injective : Function.Injective Dialect.name := by
  have hread : ∀ d : Dialect, Dialect.ofName? d.name = some d := by
    intro d
    cases d <;> decide +kernel
  intro d d' h
  have hname := hread d
  rw [h, hread d'] at hname
  exact (Option.some.inj hname).symm

/-- A value is known by the JSON that stands for it. -/
theorem Value.toJson_injective : Function.Injective Value.toJson := by
  intro v w h
  -- The numerals of integers and of floating-point numbers are apart.
  have hkind : ∀ (i : Int64) (x : Binary64), Numeral.ofInt i.toInt ≠ x.numeral := by
    intro i x heq
    have hinteger : (Numeral.ofInt i.toInt).isInteger = true := rfl
    rw [heq, x.isInteger_numeral] at hinteger
    exact Bool.false_ne_true hinteger
  cases v <;> cases w <;> simp only [toJson, Json.bool.injEq, Json.number.injEq,
    Json.string.injEq, reduceCtorEq] at h
  case bool.bool => rw [h]
  case int.int i j =>
    have hread := Value.ofNumeral?_ofInt i
    rw [h, Value.ofNumeral?_ofInt] at hread
    exact (Option.some.inj hread).symm
  case int.float i x => exact absurd h (hkind i x)
  case float.int x i => exact absurd h.symm (hkind i x)
  case float.float x y => rw [Binary64.numeral_injective h]
  case text.text => rw [h]

namespace CompiledQuery

/-- The compiled queries are executed alike: in one dialect, by one text, with the same values. -/
def SameExecution (c c' : CompiledQuery) : Prop :=
  c.dialect = c'.dialect ∧ c.sql = c'.sql ∧ c.params = c'.params

/-- The identity of a compiled query can be written. -/
theorem writable_identity (c : CompiledQuery) : c.identity.Writable :=
  ⟨trivial, trivial, Json.writable_array_map fun v _ => v.writable_toJson, trivial⟩

/-- The identity is that of the execution. -/
theorem identity_eq_iff (c c' : CompiledQuery) :
    c.identity = c'.identity ↔ c.SameExecution c' := by
  simp only [identity, SameExecution, Json.array.injEq, List.cons.injEq, Json.string.injEq,
    Dialect.name_injective.eq_iff, (List.map_injective_iff.2 Value.toJson_injective).eq_iff,
    and_true]

/-- The text under a fingerprint is the same for two compiled queries if and only if they have one
dialect, one query text and the same values, kind by kind; so their fingerprints are equal just for
these, or where the bytes of the texts collide. -/
theorem identity_unambiguous (c c' : CompiledQuery) :
    (c.identity.compact = c'.identity.compact ↔ c.SameExecution c') ∧
      (c.fingerprint = c'.fingerprint ↔
        c.SameExecution c' ∨
          Digest.Collide (Text.bytes c.identity.compact) (Text.bytes c'.identity.compact)) := by
  have htext : c.identity.compact = c'.identity.compact ↔ c.SameExecution c' := by
    rw [Json.compact_inj c.writable_identity c'.writable_identity, identity_eq_iff]
  refine ⟨htext, ?_⟩
  rw [fingerprint, fingerprint, Digest.sha256Hex_eq_iff, htext]

end CompiledQuery

/-- Values that look alike are written apart. -/
example :
    [Value.int 1, .float ⟨false, 1023 * Binary64.leadingBit, by decide⟩, .text "1", .bool true].map
      (·.toJson.compact) = ["1", "1.0", "\"1\"", "true"] := by
  decide +kernel

end MetricLayer
