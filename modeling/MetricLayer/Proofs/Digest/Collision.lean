import MetricLayer.Digest.Sha256
import MetricLayer.Proofs.Text.ByteOrder

/-!
# Equal digests

Two texts have one hexadecimal digest only if they are equal or their bytes collide under SHA-256
(`sha256Hex_eq_iff`). No resistance to collisions is assumed: a collision stands in the conclusion,
with the two messages named.
-/

namespace MetricLayer.Digest

/-- The messages are distinct and have one digest. -/
def Collide (m m' : List UInt8) : Prop :=
  m ≠ m' ∧ sha256 m = sha256 m'

/-- The bytes that are taken of an array from a position on, behind those taken before. -/
theorem toList_loop_eq (bs : ByteArray) (i : Nat) (r : List UInt8) :
    ByteArray.toList.loop bs i r = r.reverse ++ bs.data.toList.drop i := by
  fun_induction ByteArray.toList.loop bs i r with
  | case1 i r hlt ih =>
    have hlt' : i < bs.data.toList.length := hlt
    have hget : bs.get! i = bs.data.toList[i] := getElem!_pos bs.data i hlt
    rw [ih, hget, List.reverse_cons, List.append_assoc, List.singleton_append,
      List.getElem_cons_drop]
  | case2 i r hge =>
    have hge' : bs.data.toList.length ≤ i := Nat.le_of_not_lt hge
    rw [List.drop_eq_nil_of_le hge', List.append_nil]

/-- The digest of a text is that of its bytes. -/
theorem sha256Hex_eq (s : String) :
    sha256Hex s = String.ofList ((sha256 (Text.bytes s)).flatMap hexByte) := by
  have hbytes : s.toUTF8.toList = Text.bytes s := toList_loop_eq s.toUTF8 0 []
  rw [sha256Hex, hbytes]

/-- A byte is known by its two hexadecimal digits. -/
theorem hexByte_injective : Function.Injective hexByte := by
  have hdigit : ∀ m < 16, ∀ n < 16, Nat.digitChar m = Nat.digitChar n → m = n := by decide
  intro b c h
  have hb := b.toNat_lt
  have hc := c.toNat_lt
  obtain ⟨hhigh, hlow⟩ := List.cons_eq_cons.1 h
  have hquotient := hdigit _ (by omega) _ (by omega) hhigh
  have hremainder := hdigit _ (by omega) _ (by omega) (List.cons_eq_cons.1 hlow).1
  exact UInt8.toNat_inj.1 (by omega)

/-- Bytes are known by their hexadecimal digits. -/
theorem flatMap_hexByte_inj {bs cs : List UInt8} :
    bs.flatMap hexByte = cs.flatMap hexByte ↔ bs = cs := by
  refine ⟨fun h => ?_, congrArg _⟩
  induction bs generalizing cs with
  | nil =>
    cases cs with
    | nil => rfl
    | cons c cs => simp [hexByte] at h
  | cons b bs ih =>
    cases cs with
    | nil => simp [hexByte] at h
    | cons c cs =>
      rw [List.flatMap_cons, List.flatMap_cons] at h
      obtain ⟨hhead, htail⟩ := List.append_inj h rfl
      rw [hexByte_injective hhead, ih htail]

/-- Texts have one digest if they are equal or their bytes collide, and not otherwise. -/
theorem sha256Hex_eq_iff {s t : String} :
    sha256Hex s = sha256Hex t ↔ s = t ∨ Collide (Text.bytes s) (Text.bytes t) := by
  rw [sha256Hex_eq, sha256Hex_eq, String.ofList_inj, flatMap_hexByte_inj, Collide, ne_eq,
    Text.bytes_inj]
  by_cases heq : s = t
  · simp [heq]
  · simp [heq]

end MetricLayer.Digest
