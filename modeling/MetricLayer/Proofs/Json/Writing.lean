import MetricLayer.Json.Writer
import MetricLayer.Proofs.Json.Reading

/-!
# Written values are read back

Either text that is written for a value is a text of that value by the grammar, so that the reader
gives the value back: `Json.isText_compact` and `Json.isText_indented`. This holds for values that
have no `garbled` parts and whose numerals have the form in which numbers are read
(`Json.Writable`).
-/

namespace MetricLayer

/-- The numeral has digits where it needs them, and no zero before other whole digits. -/
def Numeral.WellFormed (x : Numeral) : Prop :=
  Json.IsWhole x.whole ∧ (x.fraction = [] ∨ Json.IsDigits x.fraction)

namespace Json

/-! ## Numbers -/

/-- The digits of a natural number are digits. -/
theorem isDigits_toDigits (n : Nat) : IsDigits (Nat.toDigits 10 n) :=
  ⟨Nat.toDigits_ne_nil, fun _ hc => Nat.isDigit_of_mem_toDigits (by decide) (by decide) hc⟩

/-- The digits of a positive number do not begin with zero. -/
theorem head?_toDigits_ne {n : Nat} (hn : 0 < n) : (Nat.toDigits 10 n).head? ≠ some '0' := by
  have hdigit : ∀ d < 10, 0 < d → Nat.digitChar d ≠ '0' := by decide
  induction n using Nat.strongRecOn with
  | ind n ih =>
    by_cases hlt : n < 10
    · rw [Nat.toDigits_of_lt_base hlt]
      simpa using hdigit n hlt hn
    · rw [Nat.toDigits_of_base_le (by decide) (by omega),
        List.head?_append_of_ne_nil _ Nat.toDigits_ne_nil]
      exact ih (n / 10) (by omega) (by omega)

/-- The digits of a natural number are whole digits. -/
theorem isWhole_toDigits (n : Nat) : IsWhole (Nat.toDigits 10 n) := by
  rcases Nat.eq_zero_or_pos n with rfl | hn
  · exact .inl rfl
  · exact .inr ⟨isDigits_toDigits n, head?_toDigits_ne hn⟩

/-- The numeral of an integer is well formed. -/
theorem wellFormed_ofInt (i : Int) : (Numeral.ofInt i).WellFormed :=
  ⟨isWhole_toDigits _, .inl rfl⟩

/-- The numeral of a natural number is well formed. -/
theorem wellFormed_ofNat (n : Nat) : (Numeral.ofNat n).WellFormed :=
  ⟨isWhole_toDigits _, .inl rfl⟩

/-- What is written for an exponent is one. -/
theorem isExponent_exponentChars (e : Option Int) : IsExponent (Numeral.exponentChars e) e := by
  cases e with
  | none => exact .absent
  | some e =>
    have hvalue : Nat.ofDigitChars 10 (Nat.toDigits 10 e.natAbs) 0 = e.natAbs := by simp
    rw [Numeral.exponentChars]
    split
    case isTrue hneg =>
      have hminus := IsExponent.minus (.inl rfl) (isDigits_toDigits e.natAbs)
      rwa [hvalue, show -(e.natAbs : Int) = e by omega] at hminus
    case isFalse hneg =>
      have hplus := IsExponent.plus (.inl rfl) (isDigits_toDigits e.natAbs)
      rwa [hvalue, show (e.natAbs : Int) = e by omega] at hplus

/-- What is written for a well-formed numeral is a number. -/
theorem isNumber_chars {x : Numeral} (h : x.WellFormed) : IsNumber x.chars x :=
  .intro h.1 h.2 (isExponent_exponentChars x.exponent)

/-! ## Strings -/

/-- The digits of the code of a control character are worth it. -/
theorem hexCode?_digitChar {n : Nat} (hn : n < 0x20) :
    hexCode? '0' '0' (Nat.digitChar (n / 16)) (Nat.digitChar (n % 16)) = some n := by
  have hall : ∀ n < 0x20,
      hexCode? '0' '0' (Nat.digitChar (n / 16)) (Nat.digitChar (n % 16)) = some n := by decide
  exact hall n hn

/-- A code below the surrogates stands for its character. -/
theorem joinPieces_code {n : Nat} (hn : n < 0xD800) (ps : List StringPiece) :
    joinPieces (.code n :: ps) = (joinPieces ps).map (Char.ofNat n :: ·) := by
  have hhigh : isHighSurrogate n = false := by simp [isHighSurrogate]; omega
  have hlow : isLowSurrogate n = false := by simp [isLowSurrogate]; omega
  cases ps with
  | nil => simp [joinPieces, hhigh, hlow]
  | cons p ps => cases p <;> simp [joinPieces, hhigh, hlow]

/-- Inside a string the characters are a piece that stands for `c`. -/
def StandsFor (cs : List Char) (c : Char) : Prop :=
  ∃ p,
    (∀ {ds : List Char} {ps : List StringPiece}, IsPieces ds ps → IsPieces (cs ++ ds) (p :: ps)) ∧
    ∀ ps, joinPieces (p :: ps) = (joinPieces ps).map (c :: ·)

/-- A letter that escapes a character stands for it. -/
theorem standsFor_escape {e c : Char} (he : letterEscape? e = some c) : StandsFor ['\\', e] c :=
  ⟨.char c, fun h => .escape he h, fun _ => by rw [joinPieces]⟩

/-- The escape of a control character by its code stands for it. -/
theorem standsFor_codeEscape {c : Char} (hc : c.toNat < 0x20) : StandsFor (codeEscape c) c := by
  refine ⟨.code c.toNat, fun h => .code (hexCode?_digitChar hc) h, fun ps => ?_⟩
  rw [joinPieces_code (by omega), Char.ofNat_toNat]

/-- What is written for a character stands for it. -/
theorem standsFor_escapedChar (c : Char) : StandsFor (escapedChar c) c := by
  unfold escapedChar
  split_ifs with hquote hslash hb hf hn hr ht hcontrol
  · subst hquote
    exact standsFor_escape (by decide)
  · subst hslash
    exact standsFor_escape (by decide)
  · subst hb
    exact standsFor_escape (by decide)
  · subst hf
    exact standsFor_escape (by decide)
  · subst hn
    exact standsFor_escape (by decide)
  · subst hr
    exact standsFor_escape (by decide)
  · subst ht
    exact standsFor_escape (by decide)
  · exact standsFor_codeEscape hcontrol
  · exact ⟨.char c, fun h => .char ⟨hquote, hslash, Nat.le_of_not_lt hcontrol⟩ h,
      fun _ => by rw [joinPieces]⟩

/-- What is written for characters are pieces that stand for them. -/
theorem exists_pieces (cs : List Char) :
    ∃ ps, IsPieces (cs.flatMap escapedChar) ps ∧ joinPieces ps = some cs := by
  induction cs with
  | nil => exact ⟨[], .nil, rfl⟩
  | cons c cs ih =>
    obtain ⟨ps, hps, hjoin⟩ := ih
    obtain ⟨p, hp, hc⟩ := standsFor_escapedChar c
    exact ⟨p :: ps, hp hps, by rw [hc, hjoin, Option.map_some]⟩

/-- What is written for a text is a string of it. -/
theorem isString_stringChars (s : String) : IsString (stringChars s) (some s) := by
  obtain ⟨ps, hps, hjoin⟩ := exists_pieces s.toList
  have hstring := IsString.intro hps
  rwa [hjoin, Option.map_some, String.ofList_toList] at hstring

/-! ## Values -/

mutual

/-- No part of the value is `garbled`, and its numerals are well formed. -/
def Writable : Json → Prop
  | .null => True
  | .bool _ => True
  | .number x => x.WellFormed
  | .string _ => True
  | .garbled => False
  | .array items => WritableItems items
  | .object entries => WritableEntries entries

/-- The values are writable. -/
def WritableItems : List Json → Prop
  | [] => True
  | v :: vs => Writable v ∧ WritableItems vs

/-- The values of the entries are writable. -/
def WritableEntries : List (String × Json) → Prop
  | [] => True
  | (_, v) :: es => Writable v ∧ WritableEntries es

end

/-- Values are writable if each of them is. -/
theorem writableItems_iff {vs : List Json} : WritableItems vs ↔ ∀ v ∈ vs, Writable v := by
  induction vs with
  | nil => simp [WritableItems]
  | cons v vs ih => rw [WritableItems, ih, List.forall_mem_cons]

/-- The array of writable values is writable. -/
theorem writable_array_map {α : Type} {f : α → Json} {xs : List α}
    (h : ∀ x ∈ xs, (f x).Writable) : (Json.array (xs.map f)).Writable := by
  refine writableItems_iff.2 fun v hv => ?_
  obtain ⟨x, hx, rfl⟩ := List.mem_map.1 hv
  exact h x hx

/-- The array of texts is writable. -/
theorem writable_ofStrings (ss : List String) : (ofStrings ss).Writable :=
  writable_array_map fun _ _ => trivial

/-- A writable value, or `null`, is writable. -/
theorem writable_ofOption {α : Type} {f : α → Json} (h : ∀ x, (f x).Writable) (o : Option α) :
    (ofOption (o.map f)).Writable := by
  cases o with
  | none => trivial
  | some x => exact h x

/-- A number of rows is writable. -/
theorem writable_ofRows (n : Option UInt64) : (ofRows n).Writable :=
  writable_ofOption (f := fun n : UInt64 => .number (.ofNat n.toNat))
    (fun n => wellFormed_ofNat n.toNat) n

/-- The object of entries whose keys stand for texts. -/
theorem ofEntries_some (es : List (String × Json)) :
    ofEntries (es.map fun e => (some e.1, e.2)) = .object es := by
  have hmap : (es.map fun e => (some e.1, e.2)).mapM
      (fun (e : Option String × Json) => e.1.map fun k => (k, e.2)) = some es := by
    induction es with
    | nil => rfl
    | cons e es ih =>
      rw [List.map_cons, List.mapM_cons, ih]
      rfl
  unfold ofEntries
  rw [hmap]

/-- A value is a text of its own without blanks around it. -/
theorem IsValue.isElement {cs : List Char} {v : Json} (h : IsValue cs v) : IsElement cs v := by
  have helement := IsElement.intro isBlanks_nil h isBlanks_nil
  rwa [List.append_nil, List.nil_append] at helement

/-- A string is a key without blanks around it. -/
theorem IsString.isKey {cs : List Char} {k : Option String} (h : IsString cs k) : IsKey cs k := by
  have hkey := IsKey.intro isBlanks_nil h isBlanks_nil
  rwa [List.append_nil, List.nil_append] at hkey

mutual

/-- What is written for a writable value is a text of it. -/
theorem isValue_compactChars : ∀ {v : Json}, v.Writable → IsValue v.compactChars v
  | .null, _ => .nullWord
  | .bool true, _ => .trueWord
  | .bool false, _ => .falseWord
  | .number _, h => .number (isNumber_chars h)
  | .string s, _ => .string (isString_stringChars s)
  | .array [], _ => .emptyArray isBlanks_nil
  | .array (v :: vs), h => .array (isElements_compactItems h (List.cons_ne_nil v vs))
  | .object [], _ => .emptyObject isBlanks_nil
  | .object (e :: es), h => by
    have hobject := IsValue.object (isMembers_compactEntries h (List.cons_ne_nil e es))
    rwa [ofEntries_some] at hobject

/-- What is written for writable items is a text of them. -/
theorem isElements_compactItems : ∀ {vs : List Json}, WritableItems vs → vs ≠ [] →
    IsElements (compactItems vs) vs
  | [], _, hne => absurd rfl hne
  | [_], h, _ => .last (isValue_compactChars h.1).isElement
  | _ :: v :: vs, h, _ =>
    .cons (isValue_compactChars h.1).isElement
      (isElements_compactItems h.2 (List.cons_ne_nil v vs))

/-- What is written for writable entries is a text of them. -/
theorem isMembers_compactEntries : ∀ {es : List (String × Json)}, WritableEntries es → es ≠ [] →
    IsMembers (compactEntries es) (es.map fun e => (some e.1, e.2))
  | [], _, hne => absurd rfl hne
  | [(k, _)], h, _ =>
    .last (isString_stringChars k).isKey (isValue_compactChars h.1).isElement
  | (k, _) :: e :: es, h, _ =>
    .cons (isString_stringChars k).isKey (isValue_compactChars h.1).isElement
      (isMembers_compactEntries h.2 (List.cons_ne_nil e es))

end

/-- A space is a blank. -/
theorem isBlanks_space : IsBlanks [' '] :=
  fun _ hc => .inl (List.mem_singleton.1 hc)

/-- A line break and an indentation are blanks. -/
theorem isBlanks_lineBreak (level : Nat) : IsBlanks (lineBreak level) := by
  intro c hc
  rcases List.mem_cons.1 hc with rfl | hc
  · exact .inr (.inr (.inl rfl))
  · exact .inl (List.eq_of_mem_replicate hc)

mutual

/-- What is written for a writable value, one item on a line, is a text of it. -/
theorem isValue_indentedChars : ∀ {v : Json} (level : Nat), v.Writable →
    IsValue (v.indentedChars level) v
  | .null, _, h => isValue_compactChars h
  | .bool _, _, h => isValue_compactChars h
  | .number _, _, h => isValue_compactChars h
  | .string _, _, h => isValue_compactChars h
  | .array [], _, h => isValue_compactChars h
  | .object [], _, h => isValue_compactChars h
  | .array (v :: vs), level, h => by
    have hitems := isElements_indentedItems (level + 1) h (List.cons_ne_nil v vs)
      (isBlanks_lineBreak level)
    have harray := IsValue.array hitems
    rwa [List.append_assoc] at harray
  | .object (e :: es), level, h => by
    have hentries := isMembers_indentedEntries (level + 1) h (List.cons_ne_nil e es)
      (isBlanks_lineBreak level)
    have hobject := IsValue.object hentries
    rwa [ofEntries_some, List.append_assoc] at hobject

/-- What is written for writable items, each on its line, is a text of them, with blanks behind
it. -/
theorem isElements_indentedItems : ∀ {vs : List Json} (level : Nat) {b : List Char},
    WritableItems vs → vs ≠ [] → IsBlanks b → IsElements (indentedItems level vs ++ b) vs
  | [], _, _, _, hne, _ => absurd rfl hne
  | [_], level, _, h, _, hb => by
    have hlast := IsElement.intro (isBlanks_lineBreak level) (isValue_indentedChars level h.1) hb
    rw [← List.append_assoc] at hlast
    exact .last hlast
  | v :: w :: vs, level, b, h, _, hb => by
    have hitem := IsElement.intro (isBlanks_lineBreak level) (isValue_indentedChars level h.1)
      isBlanks_nil
    have hitems := IsElements.cons hitem
      (isElements_indentedItems level h.2 (List.cons_ne_nil w vs) hb)
    simpa [indentedItems] using hitems

/-- What is written for writable entries, each on its line, is a text of them, with blanks behind
it. -/
theorem isMembers_indentedEntries : ∀ {es : List (String × Json)} (level : Nat) {b : List Char},
    WritableEntries es → es ≠ [] → IsBlanks b →
      IsMembers (indentedEntries level es ++ b) (es.map fun e => (some e.1, e.2))
  | [], _, _, _, hne, _ => absurd rfl hne
  | [(k, _)], level, _, h, _, hb => by
    have hkey := IsKey.intro (isBlanks_lineBreak level) (isString_stringChars k) isBlanks_nil
    have hvalue := IsElement.intro isBlanks_space (isValue_indentedChars level h.1) hb
    simpa [indentedEntries] using IsMembers.last hkey hvalue
  | (k, _) :: e :: es, level, _, h, _, hb => by
    have hkey := IsKey.intro (isBlanks_lineBreak level) (isString_stringChars k) isBlanks_nil
    have hvalue := IsElement.intro isBlanks_space (isValue_indentedChars level h.1) isBlanks_nil
    have hentries := IsMembers.cons hkey hvalue
      (isMembers_indentedEntries level h.2 (List.cons_ne_nil e es) hb)
    simpa [indentedEntries] using hentries

end

/-- What is written for a writable value is read as that value. -/
theorem isText_compact {v : Json} (h : v.Writable) : IsText v.compact v := by
  unfold IsText compact
  rw [String.toList_ofList]
  exact (isValue_compactChars h).isElement

/-- Distinct writable values have distinct texts. -/
theorem compact_inj {v w : Json} (hv : v.Writable) (hw : w.Writable) :
    v.compact = w.compact ↔ v = w := by
  refine ⟨fun h => ?_, congrArg compact⟩
  have hread := parse?_eq_some_iff.2 (isText_compact hv)
  rw [h, parse?_eq_some_iff.2 (isText_compact hw)] at hread
  exact (Option.some.inj hread).symm

/-- What is written for a writable value, one item on a line, is read as that value. -/
theorem isText_indented {v : Json} (h : v.Writable) : IsText v.indented v := by
  unfold IsText indented
  rw [String.toList_ofList]
  exact (isValue_indentedChars 0 h).isElement

end Json

end MetricLayer
