import Mathlib.Data.List.Infix
import MetricLayer.Compile.Conjunct

/-!
# Texts that contain a text

A filter for texts that contain a needle binds a pattern that matches just these:
`contains_matches_iff_infix`. A database may compare letters without regard to case, by a change of
the characters of both the pattern and the text. This makes no difference to the steps of a pattern
if it keeps apart the characters with a meaning of their own (`KeepsSpecials`).

The pattern is read first: an escaped text is read as the characters of the text, whatever follows
it (`likeItems?_escapedChars`). Then it is matched: a run of any characters leaves some end of the
text to the steps that follow (`likeMatches_anyRun_iff`), and characters leave what comes after them
(`likeMatches_only_iff`).
-/

namespace MetricLayer.Text

/-! ## Matching -/

/-- No steps match the empty text only. -/
theorem likeMatches_nil_iff {cs : List Char} : likeMatches [] cs = true ↔ cs = [] := by
  rw [likeMatches, List.isEmpty_iff]

/-- Any run of characters may come before what the following steps match. -/
theorem likeMatches_anyRun_iff {items : List LikeItem} {cs : List Char} :
    likeMatches (.anyRun :: items) cs = true ↔
      ∃ run rest, cs = run ++ rest ∧ likeMatches items rest = true := by
  induction cs with
  | nil =>
    rw [likeMatches]
    constructor
    · exact fun h => ⟨[], [], rfl, h⟩
    · rintro ⟨run, rest, hcs, h⟩
      obtain ⟨-, rfl⟩ := List.append_eq_nil_iff.1 hcs.symm
      exact h
  | cons c cs ih =>
    rw [likeMatches, Bool.or_eq_true, ih]
    constructor
    · rintro (h | ⟨run, rest, rfl, h⟩)
      · exact ⟨[], c :: cs, rfl, h⟩
      · exact ⟨c :: run, rest, rfl, h⟩
    · rintro ⟨run, rest, hcs, h⟩
      rcases List.cons_eq_append_iff.1 hcs with ⟨-, rfl⟩ | ⟨run, -, rfl⟩
      · exact .inl h
      · exact .inr ⟨run, rest, rfl, h⟩

/-- Some characters come before what the following steps match. -/
theorem likeMatches_only_iff {ds : List Char} {items : List LikeItem} {cs : List Char} :
    likeMatches (ds.map .only ++ items) cs = true ↔
      ∃ rest, cs = ds ++ rest ∧ likeMatches items rest = true := by
  induction ds generalizing cs with
  | nil => simp
  | cons d ds ih =>
    cases cs with
    | nil => simp [likeMatches]
    | cons c cs =>
      rw [List.map_cons, List.cons_append, likeMatches, Bool.and_eq_true, beq_iff_eq, ih]
      constructor
      · rintro ⟨rfl, rest, rfl, h⟩
        exact ⟨rest, rfl, h⟩
      · rintro ⟨rest, hcs, h⟩
        obtain ⟨rfl, rfl⟩ := List.cons.inj hcs
        exact ⟨rfl, rest, rfl, h⟩

/-- A text between any runs is matched by the texts that contain it. -/
theorem likeMatches_between_anyRuns_iff {ds cs : List Char} :
    likeMatches (.anyRun :: (ds.map .only ++ [.anyRun])) cs = true ↔ ds <:+: cs := by
  have hend : ∀ rest, likeMatches [.anyRun] rest = true := fun rest =>
    likeMatches_anyRun_iff.2 ⟨rest, [], (List.append_nil rest).symm, likeMatches_nil_iff.2 rfl⟩
  simp only [likeMatches_anyRun_iff, likeMatches_only_iff, hend, and_true]
  constructor
  · rintro ⟨run, _, rfl, rest, rfl⟩
    exact ⟨run, rest, List.append_assoc _ _ _⟩
  · rintro ⟨run, rest, rfl⟩
    exact ⟨run, ds ++ rest, List.append_assoc _ _ _, rest, rfl⟩

/-! ## Reading -/

/-- The step of a character that is not escaped. -/
def LikeItem.ofChar (c : Char) : LikeItem :=
  if c = '%' then .anyRun else if c = '_' then .anyOne else .only c

/-- A character is read as its step, unless it is the escape character. -/
theorem likeItems?_cons {escape c : Char} (h : c ≠ escape) (cs : List Char) :
    likeItems? escape (c :: cs) = (likeItems? escape cs).map (LikeItem.ofChar c :: ·) := by
  cases cs with
  | nil => simp [likeItems?, h, LikeItem.ofChar]
  | cons d ds =>
    rw [likeItems?, if_neg h]
    rfl

/-- An escaped character is read as itself. -/
theorem likeItems?_escape (escape c : Char) (cs : List Char) :
    likeItems? escape (escape :: c :: cs) = (likeItems? escape cs).map (LikeItem.only c :: ·) := by
  rw [likeItems?, if_pos rfl]

/-- The characters with a meaning of their own. -/
theorem isLikeSpecial_iff {c : Char} :
    isLikeSpecial c = true ↔ c = likeEscape ∨ c = '%' ∨ c = '_' := by
  simp [isLikeSpecial, or_assoc]

/-- A character without a meaning of its own is read as itself. -/
theorem likeItems?_plain {c : Char} (h : ¬isLikeSpecial c) (cs : List Char) :
    likeItems? likeEscape (c :: cs) = (likeItems? likeEscape cs).map (LikeItem.only c :: ·) := by
  rw [isLikeSpecial_iff, not_or, not_or] at h
  obtain ⟨hescape, hrun, hone⟩ := h
  rw [likeItems?_cons hescape, LikeItem.ofChar, if_neg hrun, if_neg hone]

/-- A change of characters that leaves those with a meaning of their own, and makes no other one of
them. -/
structure KeepsSpecials (f : Char → Char) : Prop where
  /-- The characters with a meaning of their own stay as they are. -/
  special : ∀ c, isLikeSpecial c → f c = c
  /-- No other character becomes one of them. -/
  other : ∀ c, ¬isLikeSpecial c → ¬isLikeSpecial (f c)

/-- To change nothing keeps the characters with a meaning of their own. -/
theorem keepsSpecials_id : KeepsSpecials id :=
  ⟨fun _ _ => rfl, fun _ h => h⟩

/-- A character stays as it is, or becomes a small letter of ASCII. -/
theorem toLower_eq_or (c : Char) :
    c.toLower = c ∨ (97 ≤ c.toLower.toNat ∧ c.toLower.toNat ≤ 122) := by
  unfold Char.toLower
  split
  case isTrue h =>
    have hlow : 65 ≤ c.val.toNat := h.1
    have hhigh : c.val.toNat ≤ 90 := h.2
    have hshift : (32 : UInt32).toNat = 32 := rfl
    right
    show 97 ≤ (c.val + 32).toNat ∧ (c.val + 32).toNat ≤ 122
    rw [UInt32.toNat_add]
    omega
  case isFalse => exact .inl rfl

/-- Small letters for the capital letters of ASCII keep the characters with a meaning of their
own. -/
theorem keepsSpecials_toLower : KeepsSpecials Char.toLower where
  special c h := by
    rcases isLikeSpecial_iff.1 h with rfl | rfl | rfl
    · rfl
    · rfl
    · rfl
  other c h := by
    rcases toLower_eq_or c with heq | ⟨hlow, -⟩
    · rwa [heq]
    · -- The characters with a meaning of their own come before the small letters.
      rw [isLikeSpecial_iff]
      rintro (hc | hc | hc)
      · exact absurd hlow (by rw [hc]; decide)
      · exact absurd hlow (by rw [hc]; decide)
      · exact absurd hlow (by rw [hc]; decide)

/-- An escaped text is read as its characters, in front of what follows. -/
theorem likeItems?_escapedChars {f : Char → Char} (hf : KeepsSpecials f) (cs more : List Char) :
    likeItems? likeEscape ((likeEscapedChars cs).map f ++ more) =
      (likeItems? likeEscape more).map ((cs.map f).map LikeItem.only ++ ·) := by
  have hescape : f likeEscape = likeEscape := hf.special _ (by decide)
  induction cs with
  | nil => simp [likeEscapedChars]
  | cons c cs ih =>
    rw [likeEscapedChars]
    split
    case isTrue hc =>
      rw [List.map_cons, List.map_cons, List.cons_append, List.cons_append, hescape,
        likeItems?_escape, ih, Option.map_map]
      rfl
    case isFalse hc =>
      rw [List.map_cons, List.cons_append, likeItems?_plain (hf.other c hc), ih, Option.map_map]
      rfl

/-- The pattern for a text is read as the characters of the text between any runs. -/
theorem likeItems?_containsPattern {f : Char → Char} (hf : KeepsSpecials f) (s : String) :
    likeItems? likeEscape ((containsPattern s).toList.map f) =
      some (.anyRun :: ((s.toList.map f).map LikeItem.only ++ [.anyRun])) := by
  have hrun : f '%' = '%' := hf.special _ (by decide)
  have hpattern : (containsPattern s).toList.map f =
      '%' :: ((likeEscapedChars s.toList).map f ++ ['%']) := by
    simp [containsPattern, likeEscaped, hrun]
  rw [hpattern, likeItems?_cons (by decide), likeItems?_escapedChars hf]
  rfl

end MetricLayer.Text

namespace MetricLayer

open Text

/-- A filter for texts that contain a needle binds the escaped needle between wildcards as a
pattern. The pattern can be read, and it matches a text just if the needle occurs in the text, after
any change of characters that keeps those with a meaning of their own. -/
theorem contains_matches_iff_infix {f : Char → Char} (hf : KeepsSpecials f) (needle : String) :
    (∀ dimension bound operand,
      Filter.conjunct bound operand ⟨dimension, .contains, [.text needle]⟩ =
        .ok ⟨.like false true likeEscape operand (.param (bound + 1)),
          [.text ("%" ++ likeEscaped needle ++ "%")]⟩) ∧
      ∃ items, likeItems? likeEscape (("%" ++ likeEscaped needle ++ "%").toList.map f) = some items ∧
        ∀ subject : String, likeMatches items (subject.toList.map f) = true ↔
          needle.toList.map f <:+: subject.toList.map f := by
  refine ⟨fun dimension bound operand => rfl, _, likeItems?_containsPattern hf needle, ?_⟩
  intro subject
  exact likeMatches_between_anyRuns_iff

/-- With small letters for capital ones, the pattern for a text with wildcards and an escape
character matches the text in other letters, and no text that has other characters in their place. -/
theorem contains_matches_iff_infix_discount :
    KeepsSpecials Char.toLower ∧
      ∃ items, likeItems? likeEscape
          (("%" ++ likeEscaped "50%_\\OFF" ++ "%").toList.map Char.toLower) = some items ∧
        likeMatches items ("Now 50%_\\off!".toList.map Char.toLower) = true ∧
        likeMatches items ("Now 500_\\off!".toList.map Char.toLower) = false := by
  obtain ⟨-, items, hitems, hmatches⟩ :=
    contains_matches_iff_infix keepsSpecials_toLower "50%_\\OFF"
  refine ⟨keepsSpecials_toLower, items, hitems, (hmatches _).2 (by decide +kernel), ?_⟩
  rw [Bool.eq_false_iff, ne_eq, hmatches]
  decide +kernel

end MetricLayer
