import Mathlib.Data.Nat.Init
import Mathlib.Tactic.SplitIfs

/-!
# The order of texts by their bytes

A database compares texts byte by byte in UTF-8. This is the order of their characters
(`Text.bytes_lt_iff`): the bytes of a character hold its code in groups of six bits, the leading
group first, and a character with more groups begins with a greater byte.
-/

namespace MetricLayer

namespace Text

/-- The bytes of a text in UTF-8. -/
def bytes (s : String) : List UInt8 :=
  s.toUTF8.data.toList

/-- The bytes of a text are those of its characters in order. -/
theorem bytes_eq (s : String) : bytes s = s.toList.flatMap String.utf8EncodeChar := by
  show s.toByteArray.data.toList = _
  rw [← String.utf8Encode_toList, List.utf8Encode, List.toList_data_toByteArray]

/-- A text is known by its bytes. -/
theorem bytes_inj {s t : String} : bytes s = bytes t ↔ s = t := by
  rw [bytes, bytes, Array.toList_inj, ← ByteArray.ext_iff]
  exact String.toByteArray_inj

/-- The bytes of a lower character come first, whatever follows them. -/
theorem utf8EncodeChar_append_lt {c d : Char} (h : c < d) (us vs : List UInt8) :
    String.utf8EncodeChar c ++ us < String.utf8EncodeChar d ++ vs := by
  have hlt : c.val.toNat < d.val.toNat := h
  have hd : d.val.toNat < 0x110000 := by
    rcases d.valid with hlow | hhigh
    · exact Nat.lt_trans hlow (by decide)
    · exact hhigh.2
  unfold String.utf8EncodeChar
  dsimp only
  generalize c.val.toNat = m at hlt ⊢
  generalize d.val.toNat = n at hlt hd ⊢
  -- Of the groups of six bits, the first that differ are in the order of the codes.
  have hlast : m / 64 < n / 64 ∨ m / 64 = n / 64 ∧ m % 64 < n % 64 := by omega
  have hthird : m / 64 < n / 64 →
      m / 4096 < n / 4096 ∨ m / 4096 = n / 4096 ∧ m / 64 % 64 < n / 64 % 64 := by omega
  have hsecond : m / 4096 < n / 4096 →
      m / 262144 < n / 262144 ∨ m / 262144 = n / 262144 ∧ m / 4096 % 64 < n / 4096 % 64 := by
    omega
  -- One case for each pair of lengths; a lower character is not longer.
  split_ifs <;>
    simp (disch := omega) only [List.cons_append, List.nil_append, List.cons_lt_cons_iff,
      UInt8.lt_iff_toNat_lt, UInt8.toNat_ofNat', ← UInt8.toNat_inj, Nat.mod_eq_of_lt,
      Nat.reducePow] <;>
    omega

/-- Behind the same bytes, the order is that of what follows them. -/
theorem append_lt_append_iff {xs us vs : List UInt8} : xs ++ us < xs ++ vs ↔ us < vs := by
  induction xs with
  | nil => exact Iff.rfl
  | cons x xs ih => rw [List.cons_append, List.cons_append, List.cons_lt_cons_self, ih]

/-- Encoded texts are in the order of their first characters, or else of the bytes behind them. -/
theorem utf8EncodeChar_append_lt_iff {c d : Char} {us vs : List UInt8} :
    String.utf8EncodeChar c ++ us < String.utf8EncodeChar d ++ vs ↔ c < d ∨ c = d ∧ us < vs := by
  rcases Nat.lt_trichotomy c.toNat d.toNat with hlt | heq | hgt
  · exact iff_of_true (utf8EncodeChar_append_lt hlt us vs) (.inl hlt)
  · obtain rfl := Char.toNat_inj.1 heq
    have hself : ¬c < c := Nat.lt_irrefl c.toNat
    rw [append_lt_append_iff, or_iff_right hself, and_iff_right rfl]
  · refine iff_of_false (List.lt_asymm (utf8EncodeChar_append_lt hgt vs us)) ?_
    rintro (hlt | ⟨rfl, -⟩)
    · exact Nat.lt_asymm hlt hgt
    · exact Nat.lt_irrefl _ hgt

/-- The bytes of characters are in the order of the characters. -/
theorem flatMap_utf8EncodeChar_lt_iff {cs ds : List Char} :
    cs.flatMap String.utf8EncodeChar < ds.flatMap String.utf8EncodeChar ↔ cs < ds := by
  induction cs generalizing ds with
  | nil =>
    cases ds with
    | nil => exact iff_of_false (List.lt_irrefl _) (List.lt_irrefl _)
    | cons d ds =>
      obtain ⟨b, bs, hd⟩ := List.exists_cons_of_ne_nil (String.utf8EncodeChar_ne_nil (c := d))
      rw [List.flatMap_cons, hd]
      exact iff_of_true (List.nil_lt_cons b _) (List.nil_lt_cons d ds)
  | cons c cs ih =>
    cases ds with
    | nil => exact iff_of_false (List.not_lt_nil _) (List.not_lt_nil _)
    | cons d ds =>
      rw [List.flatMap_cons, List.flatMap_cons, utf8EncodeChar_append_lt_iff, ih,
        List.cons_lt_cons_iff]

/-- One text comes before another in the order of the bytes just if it does in that of the
characters. -/
theorem bytes_lt_iff {s t : String} : bytes s < bytes t ↔ s.toList < t.toList := by
  rw [bytes_eq, bytes_eq, flatMap_utf8EncodeChar_lt_iff]

end Text

end MetricLayer
