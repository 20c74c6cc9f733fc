import MetricLayer.Proofs.Items
import MetricLayer.Proofs.Json.Grammar

/-!
# Reading numbers and strings by the grammar

The parts of JSON that do not nest. Each reader has two lemmas. One says that it reads a text of the
part in front of other characters, and leaves these; the other that what it has read is a text of
the part. For a number the characters behind it matter, since they must not continue it
(`Json.Stops`).
-/

namespace MetricLayer.Json

variable {cs ds b rest : List Char} {c : Char}

/-! ## Blanks -/

/-- The characters that are skipped are the blanks. -/
theorem isJsonBlank_iff : isJsonBlank c = true ↔ c = ' ' ∨ c = '\t' ∨ c = '\n' ∨ c = '\r' := by
  simp [isJsonBlank, or_assoc]

/-- No characters are blanks. -/
theorem isBlanks_nil : IsBlanks [] := fun _ hc => absurd hc List.not_mem_nil

/-- Blanks in front of characters are skipped. -/
theorem skipBlanks_append (hb : IsBlanks b) (cs : List Char) :
    skipBlanks (b ++ cs) = skipBlanks cs :=
  List.dropWhile_append_of_pos fun c hc => isJsonBlank_iff.2 (hb c hc)

/-- A character that is no blank is not skipped. -/
theorem skipBlanks_cons (hc : isJsonBlank c = false) (cs : List Char) :
    skipBlanks (c :: cs) = c :: cs :=
  List.dropWhile_cons_of_neg (by simp [hc])

/-- What is skipped are blanks. -/
theorem exists_blanks (cs : List Char) : ∃ b, IsBlanks b ∧ cs = b ++ skipBlanks cs := by
  refine ⟨cs.takeWhile isJsonBlank, fun c hc => ?_, List.takeWhile_append_dropWhile.symm⟩
  exact isJsonBlank_iff.1 (List.mem_takeWhile_imp hc)

/-- Blanks are all that there is if nothing is left of the characters. -/
theorem isBlanks_of_skipBlanks_eq_nil (h : skipBlanks cs = []) : IsBlanks cs := by
  obtain ⟨b, hb, hcs⟩ := exists_blanks cs
  rw [h, List.append_nil] at hcs
  exact hcs ▸ hb

/-! ## Numbers -/

/-- The characters do not continue a number. -/
def Stops (cs : List Char) : Prop :=
  ∀ c ∈ cs.head?, c.isDigit = false ∧ c ≠ '.' ∧ c ≠ 'e' ∧ c ≠ 'E'

/-- Digits are read to the first character that is none. -/
theorem readDigits_append (hds : IsDigits ds) (hrest : ∀ c ∈ rest.head?, c.isDigit = false) :
    readDigits (ds ++ rest) = some (ds, rest) := by
  have hspan : (ds ++ rest).span Char.isDigit = (ds, rest) := by
    rw [span_append ds hrest, span_eq_self hds.2, List.nil_append]
  obtain ⟨d, ds, rfl⟩ := List.exists_cons_of_ne_nil hds.1
  rw [readDigits, hspan]

/-- What is read as digits are digits. -/
theorem isDigits_of_readDigits (h : readDigits cs = some (ds, rest)) :
    IsDigits ds ∧ cs = ds ++ rest := by
  have hspan := List.span_eq_takeWhile_dropWhile Char.isDigit cs
  have hds : ∀ c ∈ cs.takeWhile Char.isDigit, c.isDigit = true := fun c => List.mem_takeWhile_imp
  have hcs : cs.takeWhile Char.isDigit ++ cs.dropWhile Char.isDigit = cs :=
    List.takeWhile_append_dropWhile
  rw [readDigits, hspan] at h
  cases htake : cs.takeWhile Char.isDigit with
  | nil => simp [htake] at h
  | cons d run =>
    rw [htake] at h hds hcs
    obtain ⟨rfl, rfl⟩ : d :: run = ds ∧ cs.dropWhile Char.isDigit = rest := by simpa using h
    exact ⟨⟨List.cons_ne_nil _ _, hds⟩, hcs.symm⟩

/-- Whole digits are read to the first character that is no digit. -/
theorem readWhole_append (h : IsWhole cs) (hrest : ∀ c ∈ rest.head?, c.isDigit = false) :
    readWhole (cs ++ rest) = some (cs, rest) := by
  rcases h with rfl | ⟨hds, hzero⟩
  · cases rest with
    | nil => rfl
    | cons c rest => simp [readWhole, hrest c rfl]
  · have hread := readDigits_append hds hrest
    obtain ⟨d, ds, rfl⟩ := List.exists_cons_of_ne_nil hds.1
    have hd : d ≠ '0' := by simpa using hzero
    rwa [List.cons_append, readWhole.eq_3 _ (by simpa using hd)]

/-- What is read as whole digits are whole digits. -/
theorem isWhole_of_readWhole (h : readWhole cs = some (ds, rest)) :
    IsWhole ds ∧ cs = ds ++ rest := by
  unfold readWhole at h
  split at h
  case h_1 cs =>
    have hread : some (['0'], cs) = some (ds, rest) := by
      cases cs with
      | nil => exact h
      | cons c cs =>
        simp only at h
        split at h
        · cases h
        · exact h
    obtain ⟨rfl, rfl⟩ : ['0'] = ds ∧ cs = rest := by simpa using hread
    exact ⟨.inl rfl, rfl⟩
  case h_2 hzero =>
    obtain ⟨hds, rfl⟩ := isDigits_of_readDigits h
    refine ⟨.inr ⟨hds, fun hhead => ?_⟩, rfl⟩
    obtain ⟨ds, rfl⟩ := List.head?_eq_some_iff.1 hhead
    exact hzero _ rfl

/-- A fraction is read to the first character that is no digit. -/
theorem readFraction_append (h : ds = [] ∨ IsDigits ds)
    (hrest : ∀ c ∈ rest.head?, c.isDigit = false ∧ c ≠ '.') :
    readFraction (Numeral.fractionChars ds ++ rest) = some (ds, rest) := by
  rcases h with rfl | hds
  · refine readFraction.eq_2 rest ?_
    rintro cs rfl
    exact (hrest '.' rfl).2 rfl
  · have hne : ds.isEmpty = false := List.isEmpty_eq_false_iff.2 hds.1
    rw [Numeral.fractionChars, hne, if_neg (by simp)]
    exact readDigits_append hds fun c hc => (hrest c hc).1

/-- What is read as a fraction is a fraction. -/
theorem isFraction_of_readFraction (h : readFraction cs = some (ds, rest)) :
    (ds = [] ∨ IsDigits ds) ∧ cs = Numeral.fractionChars ds ++ rest := by
  unfold readFraction at h
  split at h
  case h_1 =>
    obtain ⟨hds, rfl⟩ := isDigits_of_readDigits h
    have hne : ds.isEmpty = false := List.isEmpty_eq_false_iff.2 hds.1
    exact ⟨.inr hds, by simp [Numeral.fractionChars, hne]⟩
  case h_2 =>
    obtain ⟨rfl, rfl⟩ : [] = ds ∧ cs = rest := by simpa using h
    exact ⟨.inl rfl, rfl⟩

/-- The digits of an exponent without a sign are read to the first character that is no digit. -/
theorem readExponentDigits_append (hds : IsDigits ds)
    (hrest : ∀ c ∈ rest.head?, c.isDigit = false) :
    readExponentDigits (ds ++ rest) = some ((Nat.ofDigitChars 10 ds 0 : Int), rest) := by
  have hread := readDigits_append hds hrest
  obtain ⟨d, ds, rfl⟩ := List.exists_cons_of_ne_nil hds.1
  have hd : d.isDigit = true := hds.2 d List.mem_cons_self
  have hminus : d ≠ '-' := fun heq => absurd (heq ▸ hd) (by decide)
  have hplus : d ≠ '+' := fun heq => absurd (heq ▸ hd) (by decide)
  rw [List.cons_append] at hread ⊢
  rw [readExponentDigits.eq_3 _ (by simpa using hminus) (by simpa using hplus), hread]
  rfl

/-- An exponent is read to the first character that does not continue a number. -/
theorem readExponent_append {e : Option Int} (h : IsExponent cs e) (hrest : Stops rest) :
    readExponent (cs ++ rest) = some (e, rest) := by
  have hdigit : ∀ c ∈ rest.head?, c.isDigit = false := fun c hc => (hrest c hc).1
  cases h with
  | absent =>
    cases rest with
    | nil => rfl
    | cons c rest =>
      obtain ⟨-, -, he, hE⟩ := hrest c rfl
      exact readExponent.eq_3 _ (by simpa using he) (by simpa using hE)
  | unsigned he hds =>
    rcases he with rfl | rfl <;>
      simp only [List.cons_append, readExponent, readExponentDigits_append hds hdigit,
        Option.map_some]
  | plus he hds =>
    rcases he with rfl | rfl <;>
      simp only [List.cons_append, readExponent, readExponentDigits, readDigits_append hds hdigit,
        Option.map_some]
  | minus he hds =>
    rcases he with rfl | rfl <;>
      simp only [List.cons_append, readExponent, readExponentDigits, readDigits_append hds hdigit,
        Option.map_some]

/-- What is read as the digits of an exponent makes an exponent after its letter. -/
theorem isExponent_of_readExponentDigits {e : Char} {x : Int} (he : e = 'e' ∨ e = 'E')
    (h : readExponentDigits cs = some (x, rest)) :
    ∃ t, IsExponent (e :: t) (some x) ∧ cs = t ++ rest := by
  unfold readExponentDigits at h
  split at h
  all_goals
    obtain ⟨⟨ds, more⟩, hread, hpair⟩ := Option.map_eq_some_iff.1 h
    obtain ⟨rfl, rfl⟩ := Prod.mk.inj hpair
    obtain ⟨hds, rfl⟩ := isDigits_of_readDigits hread
  case h_1 => exact ⟨_, .minus he hds, rfl⟩
  case h_2 => exact ⟨_, .plus he hds, rfl⟩
  case h_3 => exact ⟨_, .unsigned he hds, rfl⟩

/-- What is read as an exponent is an exponent. -/
theorem isExponent_of_readExponent {e : Option Int} (h : readExponent cs = some (e, rest)) :
    ∃ t, IsExponent t e ∧ cs = t ++ rest := by
  unfold readExponent at h
  split at h
  case h_3 =>
    obtain ⟨rfl, rfl⟩ : none = e ∧ cs = rest := by simpa using h
    exact ⟨[], .absent, rfl⟩
  all_goals
    obtain ⟨⟨x, more⟩, hread, hpair⟩ := Option.map_eq_some_iff.1 h
    obtain ⟨rfl, rfl⟩ := Prod.mk.inj hpair
  case h_1 =>
    obtain ⟨t, ht, rfl⟩ := isExponent_of_readExponentDigits (.inl rfl) hread
    exact ⟨_, ht, rfl⟩
  case h_2 =>
    obtain ⟨t, ht, rfl⟩ := isExponent_of_readExponentDigits (.inr rfl) hread
    exact ⟨_, ht, rfl⟩

/-- What follows a fraction in a number is no digit and no point. -/
theorem IsExponent.head_append {e : Option Int} (h : IsExponent cs e) (hrest : Stops rest) :
    ∀ c ∈ (cs ++ rest).head?, c.isDigit = false ∧ c ≠ '.' := by
  have hletter : ∀ e : Char, e = 'e' ∨ e = 'E' → e.isDigit = false ∧ e ≠ '.' := by
    rintro e (rfl | rfl) <;> decide
  intro c hc
  cases h with
  | absent => exact ⟨(hrest c hc).1, (hrest c hc).2.1⟩
  | unsigned he hds => exact Option.some.inj hc ▸ hletter _ he
  | plus he hds => exact Option.some.inj hc ▸ hletter _ he
  | minus he hds => exact Option.some.inj hc ▸ hletter _ he

/-- What follows the whole digits in a number is no digit. -/
theorem head_fractionChars_append (hrest : ∀ c ∈ rest.head?, c.isDigit = false ∧ c ≠ '.') :
    ∀ c ∈ (Numeral.fractionChars ds ++ rest).head?, c.isDigit = false := by
  intro c hc
  unfold Numeral.fractionChars at hc
  split at hc
  · exact (hrest c hc).1
  · obtain rfl : '.' = c := Option.some.inj hc
    decide

/-- Whole digits are digits. -/
theorem IsWhole.isDigits (h : IsWhole cs) : IsDigits cs := by
  rcases h with rfl | ⟨hds, -⟩
  · exact ⟨List.cons_ne_nil _ _, fun c hc => List.mem_singleton.1 hc ▸ by decide⟩
  · exact hds

/-- The first of some whole digits is a digit. -/
theorem IsWhole.exists_digit (h : IsWhole cs) : ∃ d ds, cs = d :: ds ∧ d.isDigit = true := by
  obtain ⟨d, ds, rfl⟩ := List.exists_cons_of_ne_nil h.isDigits.1
  exact ⟨d, ds, rfl, h.isDigits.2 d List.mem_cons_self⟩

/-- A minus sign in front of whole digits is read. -/
theorem readMinus_append {negative : Bool} (h : IsWhole cs) (rest : List Char) :
    readMinus ((if negative then ['-'] else []) ++ (cs ++ rest)) = (negative, cs ++ rest) := by
  cases negative with
  | true => rfl
  | false =>
    obtain ⟨d, ds, rfl, hd⟩ := h.exists_digit
    have hminus : d ≠ '-' := fun heq => absurd (heq ▸ hd) (by decide)
    exact readMinus.eq_2 _ (by simpa using hminus)

/-- What is read as a minus sign stands in front. -/
theorem eq_append_of_readMinus {negative : Bool} (h : readMinus cs = (negative, rest)) :
    cs = (if negative then ['-'] else []) ++ rest := by
  unfold readMinus at h
  split at h
  all_goals
    obtain ⟨rfl, rfl⟩ := Prod.mk.inj h
    rfl

/-- A number is read to the first character that does not continue it. -/
theorem readNumeral_append {x : Numeral} (h : IsNumber cs x) (hrest : Stops rest) :
    readNumeral (cs ++ rest) = some (x, rest) := by
  obtain ⟨hwhole, hfraction, hexponent⟩ := h
  -- Each part of the number ends where the next one begins, from the last part to the first.
  have hhead := hexponent.head_append hrest
  simp only [readNumeral, List.append_assoc, readMinus_append hwhole,
    readWhole_append hwhole (head_fractionChars_append hhead), readFraction_append hfraction hhead,
    readExponent_append hexponent hrest, Option.bind_eq_bind, Option.bind_some]

/-- What is read as a number is a number. -/
theorem isNumber_of_readNumeral {x : Numeral} (h : readNumeral cs = some (x, rest)) :
    ∃ t, IsNumber t x ∧ cs = t ++ rest := by
  cases hminus : readMinus cs with
  | mk negative more =>
  rw [readNumeral, hminus] at h
  obtain ⟨⟨whole, cs₁⟩, hwhole, h⟩ := Option.bind_eq_some_iff.1 h
  obtain ⟨⟨fraction, cs₂⟩, hfraction, h⟩ := Option.bind_eq_some_iff.1 h
  obtain ⟨⟨e, cs₃⟩, hexponent, h⟩ := Option.bind_eq_some_iff.1 h
  obtain ⟨rfl, rfl⟩ := Prod.mk.inj (Option.some.inj h)
  obtain ⟨hwhole, hcs⟩ := isWhole_of_readWhole hwhole
  obtain ⟨hfraction, hcs₁⟩ := isFraction_of_readFraction hfraction
  obtain ⟨exponent, hexponent, hcs₂⟩ := isExponent_of_readExponent hexponent
  refine ⟨_, .intro hwhole hfraction hexponent, ?_⟩
  rw [eq_append_of_readMinus hminus, hcs, hcs₁, hcs₂]
  simp only [List.append_assoc]

/-- A number begins with a minus sign or a digit. -/
theorem IsNumber.exists_head {x : Numeral} (h : IsNumber cs x) :
    ∃ c ds, cs = c :: ds ∧ (c = '-' ∨ c.isDigit = true) := by
  obtain ⟨hwhole, -, -⟩ := h
  obtain ⟨d, ds, rfl, hd⟩ := hwhole.exists_digit
  rename_i negative _ _ _
  cases negative with
  | true => exact ⟨_, _, rfl, .inl rfl⟩
  | false => exact ⟨_, _, rfl, .inr hd⟩

/-! ## Strings -/

/-- The letters that escape a character do not include that of a code. -/
theorem ne_of_letterEscape? {e : Char} (h : letterEscape? e = some c) : e ≠ 'u' := by
  rintro rfl
  have hnone : letterEscape? 'u' = none := by decide
  rw [hnone] at h
  cases h

/-- The pieces of a string are read to the closing quote. -/
theorem readPieces_append {ps : List StringPiece} (h : IsPieces cs ps) (rest : List Char) :
    readPieces (cs ++ '"' :: rest) = some (ps, rest) := by
  induction h with
  | nil => rfl
  | char hc h ih =>
    obtain ⟨hquote, hslash, hcontrol⟩ := hc
    rw [List.cons_append, readPieces.eq_5 _ _ hquote (fun _ _ _ _ _ hc => absurd hc hslash)
      (fun _ _ hc => absurd hc hslash), ih, if_neg (by simp [hslash, hcontrol])]
    rfl
  | escape he h ih =>
    rw [List.cons_append, List.cons_append,
      readPieces.eq_4 _ _ (fun _ _ _ _ _ hu => absurd hu (ne_of_letterEscape? he)), he, ih]
    rfl
  | code hn h ih =>
    simp only [List.cons_append, readPieces, hn, ih, Option.bind_eq_bind, Option.bind_some]

/-- What is read as pieces of a string are pieces, and the closing quote stands behind them. -/
theorem isPieces_of_readPieces {ps : List StringPiece} (h : readPieces cs = some (ps, rest)) :
    ∃ t, IsPieces t ps ∧ cs = t ++ '"' :: rest := by
  induction cs using readPieces.induct generalizing ps with
  | case1 => cases h
  | case2 more =>
    obtain ⟨rfl, rfl⟩ : [] = ps ∧ more = rest := by simpa [readPieces] using h
    exact ⟨[], .nil, rfl⟩
  | case3 a b c d more ih =>
    rw [readPieces] at h
    obtain ⟨n, hn, h⟩ := Option.bind_eq_some_iff.1 h
    obtain ⟨⟨ps, more⟩, hread, h⟩ := Option.bind_eq_some_iff.1 h
    obtain ⟨rfl, rfl⟩ := Prod.mk.inj (Option.some.inj h)
    obtain ⟨t, ht, rfl⟩ := ih hread
    exact ⟨_, .code hn ht, rfl⟩
  | case4 e more hu ih =>
    rw [readPieces.eq_4 _ _ hu] at h
    obtain ⟨c, hc, h⟩ := Option.bind_eq_some_iff.1 h
    obtain ⟨⟨ps, more⟩, hread, h⟩ := Option.bind_eq_some_iff.1 h
    obtain ⟨rfl, rfl⟩ := Prod.mk.inj (Option.some.inj h)
    obtain ⟨t, ht, rfl⟩ := ih hread
    exact ⟨_, .escape hc ht, rfl⟩
  | case5 c more hquote hcode hescape hc =>
    rw [readPieces.eq_5 _ _ hquote hcode hescape, if_pos hc] at h
    cases h
  | case6 c more hquote hcode hescape hc ih =>
    rw [readPieces.eq_5 _ _ hquote hcode hescape, if_neg hc] at h
    obtain ⟨⟨ps, more⟩, hread, h⟩ := Option.map_eq_some_iff.1 h
    obtain ⟨rfl, rfl⟩ := Prod.mk.inj h
    obtain ⟨t, ht, rfl⟩ := ih hread
    obtain ⟨hslash, hcontrol⟩ := not_or.1 hc
    exact ⟨_, .char ⟨hquote, hslash, Nat.le_of_not_lt hcontrol⟩ ht, rfl⟩

/-- A string begins with its quote, and the rest of it is read after that. -/
theorem IsString.exists_readText {s : Option String} (h : IsString cs s) :
    ∃ t, cs = '"' :: t ∧ ∀ rest, readText (t ++ rest) = some (s, rest) := by
  obtain ⟨hps⟩ := h
  refine ⟨_, rfl, fun rest => ?_⟩
  rw [readText, List.append_assoc, List.singleton_append, readPieces_append hps]
  rfl

/-- What is read as a text makes a string after its quote. -/
theorem isString_of_readText {s : Option String} (h : readText cs = some (s, rest)) :
    ∃ t, IsString ('"' :: t) s ∧ cs = t ++ rest := by
  obtain ⟨⟨ps, more⟩, hread, hpair⟩ := Option.map_eq_some_iff.1 h
  obtain ⟨rfl, rfl⟩ := Prod.mk.inj hpair
  obtain ⟨t, ht, rfl⟩ := isPieces_of_readPieces hread
  exact ⟨_, .intro ht, by simp⟩

end MetricLayer.Json
