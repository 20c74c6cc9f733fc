import MetricLayer.Proofs.Json.Writing

/-!
# Written values on one line

The text of a value without blanks has no character below `U+0020`, whatever is in its strings:
`Json.noControls_compact`. So it has no line break and fits on a line of its own.
-/

namespace MetricLayer

variable {cs ds : List Char}

/-- No character is below `U+0020`. -/
def NoControls (cs : List Char) : Prop :=
  ∀ c ∈ cs, 0x20 ≤ c.toNat

instance (cs : List Char) : Decidable (NoControls cs) :=
  List.decidableBAll _ _

/-- Characters one after the other have no controls if neither have. -/
theorem noControls_append : NoControls (cs ++ ds) ↔ NoControls cs ∧ NoControls ds :=
  List.forall_mem_append

/-- A character is no control if its code is large enough. -/
theorem noControls_cons {c : Char} :
    NoControls (c :: cs) ↔ 0x20 ≤ c.toNat ∧ NoControls cs :=
  List.forall_mem_cons

/-- Characters without controls have no line break. -/
theorem NoControls.newline_notMem (h : NoControls cs) : '\n' ∉ cs :=
  fun hmem => absurd (h _ hmem) (by decide)

/-- Digits are no controls. -/
theorem noControls_of_isDigit (h : ∀ c ∈ cs, c.isDigit = true) : NoControls cs := by
  intro c hc
  have hdigit := h c hc
  simp only [Char.isDigit, Bool.and_eq_true, decide_eq_true_eq] at hdigit
  have hle : 48 ≤ c.toNat := hdigit.1
  omega

namespace Json

/-! ## Numbers and strings -/

/-- What is written for an exponent has no controls. -/
theorem noControls_exponentChars (e : Option Int) : NoControls (Numeral.exponentChars e) := by
  cases e with
  | none => decide
  | some e =>
    have hdigits := noControls_of_isDigit (isDigits_toDigits e.natAbs).2
    have hsign : NoControls ['e', if e < 0 then '-' else '+'] := by split <;> decide
    exact noControls_append.2 ⟨hsign, hdigits⟩

/-- What is written for a well-formed numeral has no controls. -/
theorem noControls_numeral {x : Numeral} (h : x.WellFormed) : NoControls x.chars := by
  obtain ⟨hwhole, hfraction⟩ := h
  have hsign : NoControls (if x.negative then ['-'] else []) := by split <;> decide
  have hfraction : NoControls (Numeral.fractionChars x.fraction) := by
    unfold Numeral.fractionChars
    split
    · decide
    case isFalse hne =>
      have hdigits := (hfraction.resolve_left (by simpa using hne)).2
      exact noControls_cons.2 ⟨by decide, noControls_of_isDigit hdigits⟩
  unfold Numeral.chars
  rw [noControls_append, noControls_append, noControls_append]
  exact ⟨hsign, noControls_of_isDigit hwhole.isDigits.2, hfraction, noControls_exponentChars _⟩

/-- The escape of a control by its code has no controls. -/
theorem noControls_codeEscape {c : Char} (hc : c.toNat < 0x20) : NoControls (codeEscape c) := by
  have hcode : ∀ n < 0x20,
      NoControls ['\\', 'u', '0', '0', Nat.digitChar (n / 16), Nat.digitChar (n % 16)] := by
    decide
  exact hcode c.toNat hc

/-- What is written for a character has no controls, even if it is one. -/
theorem noControls_escapedChar (c : Char) : NoControls (escapedChar c) := by
  unfold escapedChar
  split_ifs with hquote hslash hb hf hn hr ht hcontrol
  -- The escapes by a letter are fixed characters.
  iterate 7 · decide
  · exact noControls_codeEscape hcontrol
  · exact noControls_cons.2 ⟨Nat.le_of_not_lt hcontrol, by decide⟩

/-- What is written for a text has no controls. -/
theorem noControls_stringChars (s : String) : NoControls (stringChars s) := by
  have hbody : NoControls (s.toList.flatMap escapedChar) := by
    intro c hc
    obtain ⟨d, -, hd⟩ := List.mem_flatMap.1 hc
    exact noControls_escapedChar d c hd
  exact noControls_cons.2 ⟨by decide, noControls_append.2 ⟨hbody, by decide⟩⟩

/-! ## Values -/

mutual

/-- What is written for a writable value has no controls. -/
theorem noControls_compactChars : ∀ {v : Json}, v.Writable → NoControls v.compactChars
  | .null, _ => by decide
  | .bool true, _ => by decide
  | .bool false, _ => by decide
  | .number _, h => noControls_numeral h
  | .string s, _ => noControls_stringChars s
  | .array vs, h =>
    noControls_cons.2 ⟨by decide, noControls_append.2 ⟨noControls_compactItems h, by decide⟩⟩
  | .object es, h =>
    noControls_cons.2 ⟨by decide, noControls_append.2 ⟨noControls_compactEntries h, by decide⟩⟩

/-- What is written for writable items has no controls. -/
theorem noControls_compactItems : ∀ {vs : List Json}, WritableItems vs → NoControls (compactItems vs)
  | [], _ => by decide
  | [_], h => noControls_compactChars h.1
  | _ :: v :: vs, h =>
    have htail : WritableItems (v :: vs) := h.2
    noControls_append.2 ⟨noControls_compactChars h.1,
      noControls_cons.2 ⟨by decide, noControls_compactItems htail⟩⟩

/-- What is written for writable entries has no controls. -/
theorem noControls_compactEntries : ∀ {es : List (String × Json)}, WritableEntries es →
    NoControls (compactEntries es)
  | [], _ => by decide
  | [(k, _)], h =>
    noControls_append.2 ⟨noControls_stringChars k,
      noControls_cons.2 ⟨by decide, noControls_compactChars h.1⟩⟩
  | (k, _) :: e :: es, h =>
    have htail : WritableEntries (e :: es) := h.2
    noControls_append.2 ⟨noControls_stringChars k, noControls_cons.2 ⟨by decide,
      noControls_append.2 ⟨noControls_compactChars h.1,
        noControls_cons.2 ⟨by decide, noControls_compactEntries htail⟩⟩⟩⟩

end

/-- The text of a value without blanks has no controls. -/
theorem noControls_compact {v : Json} (h : v.Writable) : NoControls v.compact.toList := by
  rw [compact, String.toList_ofList]
  exact noControls_compactChars h

end Json

end MetricLayer
