import MetricLayer.Proofs.Json.Lexical

/-!
# Reading by the grammar

The reader of JSON reads the texts of the grammar and no others: `Json.parse?_eq_some_iff`. A text
is read part by part, by structural recursion on its derivation; what is read is a text, by
induction on the number of calls. Twice as many calls as characters are enough, since each bracket
takes two of them.
-/

namespace MetricLayer.Json

variable {cs b rest : List Char} {c : Char}

/-! ## What stands around values -/

/-- At the end of the characters no number is continued. -/
theorem stops_nil : Stops [] := fun _ hc => absurd hc (by simp)

/-- A comma or a closing mark continues no number. -/
theorem stops_cons (hc : c = ',' ∨ c = ']' ∨ c = '\x7d') (cs : List Char) : Stops (c :: cs) := by
  intro d hd
  obtain rfl : c = d := Option.some.inj hd
  rcases hc with rfl | rfl | rfl <;> decide

/-- Blanks continue no number. -/
theorem Stops.blanks_append (hrest : Stops rest) (hb : IsBlanks b) : Stops (b ++ rest) := by
  cases b with
  | nil => exact hrest
  | cons c b =>
    intro d hd
    obtain rfl : c = d := Option.some.inj hd
    rcases hb c List.mem_cons_self with rfl | rfl | rfl | rfl <;> decide

/-- A value begins with a character that is no blank and closes no array. -/
theorem IsValue.exists_head {v : Json} (h : IsValue cs v) :
    ∃ c ds, cs = c :: ds ∧ isJsonBlank c = false ∧ c ≠ ']' := by
  cases h with
  | nullWord => exact ⟨_, _, rfl, by decide, by decide⟩
  | trueWord => exact ⟨_, _, rfl, by decide, by decide⟩
  | falseWord => exact ⟨_, _, rfl, by decide, by decide⟩
  | number h =>
    obtain ⟨c, ds, rfl, rfl | hc⟩ := h.exists_head
    · exact ⟨_, _, rfl, by decide, by decide⟩
    · refine ⟨_, _, rfl, ?_, fun heq => absurd (heq ▸ hc) (by decide)⟩
      rw [Bool.eq_false_iff]
      intro hblank
      rcases isJsonBlank_iff.1 hblank with rfl | rfl | rfl | rfl <;> exact absurd hc (by decide)
  | string h =>
    obtain ⟨ds, rfl, -⟩ := h.exists_readText
    exact ⟨_, _, rfl, by decide, by decide⟩
  | emptyArray hb => exact ⟨_, _, rfl, by decide, by decide⟩
  | array h => exact ⟨_, _, rfl, by decide, by decide⟩
  | emptyObject hb => exact ⟨_, _, rfl, by decide, by decide⟩
  | object h => exact ⟨_, _, rfl, by decide, by decide⟩

/-- What begins with a value does not close an array. -/
theorem IsElement.exists_head {v : Json} (h : IsElement cs v) (rest : List Char) :
    ∃ c ds, skipBlanks (cs ++ rest) = c :: ds ∧ c ≠ ']' := by
  obtain @⟨b, _, b', _, hb, hv, -⟩ := h
  obtain ⟨c, ds, rfl, hblank, hc⟩ := hv.exists_head
  refine ⟨c, ds ++ (b' ++ rest), ?_, hc⟩
  rw [List.append_assoc, skipBlanks_append hb, List.append_assoc]
  exact skipBlanks_cons hblank _

/-- The items of an array do not close it. -/
theorem IsElements.exists_head {vs : List Json} (h : IsElements cs vs) (rest : List Char) :
    ∃ c ds, skipBlanks (cs ++ rest) = c :: ds ∧ c ≠ ']' := by
  cases h with
  | last h => exact h.exists_head rest
  | cons h hs =>
    rw [List.append_assoc]
    exact h.exists_head _

/-- A key begins with its quote, and the rest of it is read after that. -/
theorem IsKey.exists_readText {k : Option String} (h : IsKey cs k) (rest : List Char) :
    ∃ ds b, skipBlanks (cs ++ rest) = '"' :: ds ∧ IsBlanks b ∧
      readText ds = some (k, b ++ rest) := by
  obtain ⟨hb, hk, hb'⟩ := h
  obtain ⟨t, rfl, hread⟩ := hk.exists_readText
  refine ⟨t ++ (_ ++ rest), _, ?_, hb', hread _⟩
  rw [List.append_assoc, skipBlanks_append hb, List.append_assoc]
  exact skipBlanks_cons (by decide) _

/-- The entries of an object begin with a quote. -/
theorem IsMembers.exists_head {es : List (Option String × Json)} (h : IsMembers cs es)
    (rest : List Char) : ∃ ds, skipBlanks (cs ++ rest) = '"' :: ds := by
  cases h with
  | last hk h =>
    rw [List.append_assoc]
    obtain ⟨ds, -, hds, -⟩ := hk.exists_readText _
    exact ⟨ds, hds⟩
  | cons hk h hs =>
    rw [List.append_assoc]
    obtain ⟨ds, -, hds, -⟩ := hk.exists_readText _
    exact ⟨ds, hds⟩

/-! ## Values -/

/-- Blanks in front of a value are skipped. -/
theorem readValue_blanks_append (n : Nat) (hb : IsBlanks b) (cs : List Char) :
    readValue n (b ++ cs) = readValue n cs := by
  cases n with
  | zero => rfl
  | succ n =>
    unfold readValue
    rw [skipBlanks_append hb]

/-- What begins like a number is read as one. -/
theorem readValue_number {n : Nat} (hc : c = '-' ∨ c.isDigit = true) (cs : List Char) :
    readValue (n + 1) (c :: cs) =
      (readNumeral (c :: cs)).map fun (x, rest) => (.number x, rest) := by
  have hne : ∀ d : Char, d ≠ '-' → d.isDigit = false → c ≠ d := by
    rintro d hminus hdigit rfl
    simp [hminus, hdigit] at hc
  have hblank : isJsonBlank c = false := by
    simp [isJsonBlank, hne]
  unfold readValue
  rw [skipBlanks_cons hblank]
  split
  case h_7 => rfl
  -- Every other branch begins with a character that no number begins with.
  all_goals
    rename_i heq
    exact absurd (List.cons.inj heq).1 (hne _ (by decide) (by decide))

/-- An array that is not closed at once is read item by item. -/
theorem readValue_array {n : Nat} (h : ∃ c ds, skipBlanks cs = c :: ds ∧ c ≠ ']') :
    readValue (n + 1) ('[' :: cs) = (readItems n cs).map fun (vs, rest) => (.array vs, rest) := by
  obtain ⟨c, ds, hcs, hc⟩ := h
  simp only [readValue, skipBlanks_cons (show isJsonBlank '[' = false by decide), hcs]
  split
  case h_1 heq => exact absurd (List.cons.inj heq).1 hc
  case h_2 => rfl

/-- An object that is not closed at once is read entry by entry. -/
theorem readValue_object {n : Nat} (h : ∃ ds, skipBlanks cs = '"' :: ds) :
    readValue (n + 1) ('\x7b' :: cs) =
      (readEntries n cs).map fun (es, rest) => (ofEntries es, rest) := by
  obtain ⟨ds, hcs⟩ := h
  simp only [readValue, skipBlanks_cons (show isJsonBlank '\x7b' = false by decide), hcs]
  split
  case h_1 heq => exact absurd (List.cons.inj heq).1 (by decide)
  case h_2 => rfl

-- The recursion is on the derivation. A bracket takes two calls, that of its value and that of its
-- list, and each item takes one more, so that no part runs out of calls before its characters.
mutual

/-- A value is read in front of what does not continue a number. -/
theorem IsValue.readValue_append : ∀ {cs : List Char} {v : Json}, IsValue cs v →
    ∀ {n : Nat} {rest : List Char}, 2 * cs.length ≤ n + 2 → Stops rest →
      readValue (n + 1) (cs ++ rest) = some (v, rest)
  | _, _, .nullWord, _, _, _, _ => rfl
  | _, _, .trueWord, _, _, _, _ => rfl
  | _, _, .falseWord, _, _, _, _ => rfl
  | _, _, .number h, _, _, _, hrest => by
    have hread := readNumeral_append h hrest
    obtain ⟨c, ds, rfl, hc⟩ := h.exists_head
    rw [List.cons_append] at hread ⊢
    rw [readValue_number hc, hread]
    rfl
  | _, _, .string h, _, rest, _, _ => by
    obtain ⟨t, rfl, hread⟩ := h.exists_readText
    rw [List.cons_append]
    simp only [readValue, skipBlanks_cons (show isJsonBlank '"' = false by decide), hread,
      Option.map_some]
  | _, _, .emptyArray hb, _, rest, _, _ => by
    have hclose := skipBlanks_cons (show isJsonBlank ']' = false by decide) rest
    rw [List.cons_append, List.append_assoc]
    simp only [readValue, skipBlanks_cons (show isJsonBlank '[' = false by decide),
      skipBlanks_append hb, List.singleton_append, hclose]
  | _, _, @IsValue.array cs _ h, n, rest, hn, _ => by
    have hlength : 2 * cs.length ≤ n := by
      simp only [List.length_cons, List.length_append, List.length_nil] at hn
      omega
    rw [List.cons_append, List.append_assoc, List.singleton_append,
      readValue_array (h.exists_head _), h.readItems_append hlength rest]
    rfl
  | _, _, .emptyObject hb, _, rest, _, _ => by
    have hclose := skipBlanks_cons (show isJsonBlank '\x7d' = false by decide) rest
    rw [List.cons_append, List.append_assoc]
    simp only [readValue, skipBlanks_cons (show isJsonBlank '\x7b' = false by decide),
      skipBlanks_append hb, List.singleton_append, hclose]
  | _, _, @IsValue.object cs _ h, n, rest, hn, _ => by
    have hlength : 2 * cs.length ≤ n := by
      simp only [List.length_cons, List.length_append, List.length_nil] at hn
      omega
    rw [List.cons_append, List.append_assoc, List.singleton_append,
      readValue_object (h.exists_head _), h.readEntries_append hlength rest]
    rfl

/-- A value with blanks around it is read, and no more than blanks are left of it. -/
theorem IsElement.readValue_append : ∀ {cs : List Char} {v : Json}, IsElement cs v →
    ∀ {n : Nat} {rest : List Char}, 2 * cs.length ≤ n + 1 → Stops rest →
      ∃ b, IsBlanks b ∧ readValue n (cs ++ rest) = some (v, b ++ rest)
  | _, _, @IsElement.intro b cs b' _ hb h hb', n, rest, hn, hrest => by
    obtain ⟨c, ds, hcs, -, -⟩ := h.exists_head
    have hpos : 0 < cs.length := by
      rw [hcs]
      exact Nat.succ_pos _
    simp only [List.length_append] at hn
    obtain ⟨n, rfl⟩ : ∃ m, n = m + 1 := ⟨n - 1, by omega⟩
    -- The blanks behind the value are left to the reader of the mark that follows.
    refine ⟨b', hb', ?_⟩
    rw [List.append_assoc, readValue_blanks_append _ hb, List.append_assoc]
    exact h.readValue_append (by omega) (hrest.blanks_append hb')

/-- The items of an array are read to its closing bracket. -/
theorem IsElements.readItems_append : ∀ {cs : List Char} {vs : List Json}, IsElements cs vs →
    ∀ {n : Nat}, 2 * cs.length ≤ n → ∀ rest : List Char,
      readItems n (cs ++ ']' :: rest) = some (vs, rest)
  | _, _, @IsElements.last cs _ h, 0, hn, _ => by
    obtain ⟨c, ds, hcs, -⟩ := h.exists_head []
    obtain rfl : cs = [] := List.eq_nil_of_length_eq_zero (by omega)
    cases hcs
  | _, _, .last h, n + 1, hn, rest => by
    have hclose := skipBlanks_cons (show isJsonBlank ']' = false by decide) rest
    obtain ⟨b, hb, hread⟩ :=
      h.readValue_append (n := n) (by omega) (stops_cons (.inr (.inl rfl)) rest)
    simp only [readItems, hread, Option.bind_eq_bind, Option.bind_some, skipBlanks_append hb,
      hclose]
  | _, _, .cons _ _, 0, hn, _ => by
    simp only [List.length_append, List.length_cons] at hn
    omega
  | _, _, @IsElements.cons _ ds _ _ h hs, n + 1, hn, rest => by
    have hcomma := skipBlanks_cons (show isJsonBlank ',' = false by decide) (ds ++ ']' :: rest)
    simp only [List.length_append, List.length_cons] at hn
    obtain ⟨b, hb, hread⟩ :=
      h.readValue_append (n := n) (by omega) (stops_cons (.inl rfl) (ds ++ ']' :: rest))
    rw [List.append_assoc, List.cons_append]
    simp only [readItems, hread, Option.bind_eq_bind, Option.bind_some, skipBlanks_append hb,
      hcomma, hs.readItems_append (show 2 * ds.length ≤ n by omega) rest]

/-- The entries of an object are read to its closing brace. -/
theorem IsMembers.readEntries_append : ∀ {cs : List Char} {es : List (Option String × Json)},
    IsMembers cs es → ∀ {n : Nat}, 2 * cs.length ≤ n → ∀ rest : List Char,
      readEntries n (cs ++ '\x7d' :: rest) = some (es, rest)
  | _, _, .last _ _, 0, hn, _ => by
    simp only [List.length_append, List.length_cons] at hn
    omega
  | _, _, @IsMembers.last _ cs _ _ hk h, n + 1, hn, rest => by
    have hcolon := skipBlanks_cons (show isJsonBlank ':' = false by decide) (cs ++ '\x7d' :: rest)
    have hclose := skipBlanks_cons (show isJsonBlank '\x7d' = false by decide) rest
    simp only [List.length_append, List.length_cons] at hn
    obtain ⟨ds, b, hks, hb, hkey⟩ := hk.exists_readText (':' :: (cs ++ '\x7d' :: rest))
    obtain ⟨b', hb', hread⟩ :=
      h.readValue_append (n := n) (by omega) (stops_cons (.inr (.inr rfl)) rest)
    rw [List.append_assoc, List.cons_append]
    simp only [readEntries, hks, hkey, Option.bind_eq_bind, Option.bind_some, skipBlanks_append hb,
      hcolon, hread, skipBlanks_append hb', hclose]
  | _, _, .cons _ _ _, 0, hn, _ => by
    simp only [List.length_append, List.length_cons] at hn
    omega
  | _, _, @IsMembers.cons _ cs ds _ _ _ hk h hs, n + 1, hn, rest => by
    have hcolon := skipBlanks_cons (show isJsonBlank ':' = false by decide)
      (cs ++ ',' :: (ds ++ '\x7d' :: rest))
    have hcomma := skipBlanks_cons (show isJsonBlank ',' = false by decide) (ds ++ '\x7d' :: rest)
    simp only [List.length_append, List.length_cons] at hn
    obtain ⟨_, b, hks, hb, hkey⟩ :=
      hk.exists_readText (':' :: (cs ++ ',' :: (ds ++ '\x7d' :: rest)))
    obtain ⟨b', hb', hread⟩ :=
      h.readValue_append (n := n) (by omega) (stops_cons (.inl rfl) (ds ++ '\x7d' :: rest))
    rw [List.append_assoc, List.cons_append, List.append_assoc, List.cons_append]
    simp only [readEntries, hks, hkey, Option.bind_eq_bind, Option.bind_some, skipBlanks_append hb,
      hcolon, hread, skipBlanks_append hb', hcomma,
      hs.readEntries_append (show 2 * ds.length ≤ n by omega) rest]

end

/-! ## What is read is a text of the grammar -/

/-- What is read as a value in `n` calls is a value after blanks. -/
def ReadsOnlyValues (n : Nat) : Prop :=
  ∀ {cs rest : List Char} {v : Json}, readValue n cs = some (v, rest) →
    ∃ b t, IsBlanks b ∧ IsValue t v ∧ cs = b ++ (t ++ rest)

/-- What is read as items in `n` calls are items, with a closing bracket behind them. -/
def ReadsOnlyItems (n : Nat) : Prop :=
  ∀ {cs rest : List Char} {vs : List Json}, readItems n cs = some (vs, rest) →
    ∃ t, IsElements t vs ∧ cs = t ++ ']' :: rest

/-- What is read as entries in `n` calls are entries, with a closing brace behind them. -/
def ReadsOnlyEntries (n : Nat) : Prop :=
  ∀ {cs rest : List Char} {es : List (Option String × Json)}, readEntries n cs = some (es, rest) →
    ∃ t, IsMembers t es ∧ cs = t ++ '\x7d' :: rest

/-- One more call reads a value of what fewer calls read. -/
theorem readsOnlyValues_succ {n : Nat} (hitems : ReadsOnlyItems n) (hentries : ReadsOnlyEntries n) :
    ReadsOnlyValues (n + 1) := by
  intro cs rest v h
  obtain ⟨b, hb, hcs⟩ := exists_blanks cs
  unfold readValue at h
  rw [hcs]
  split at h
  case h_1 heq =>
    obtain ⟨rfl, rfl⟩ := Prod.mk.inj (Option.some.inj h)
    exact ⟨b, _, hb, .nullWord, by rw [heq]; rfl⟩
  case h_2 heq =>
    obtain ⟨rfl, rfl⟩ := Prod.mk.inj (Option.some.inj h)
    exact ⟨b, _, hb, .trueWord, by rw [heq]; rfl⟩
  case h_3 heq =>
    obtain ⟨rfl, rfl⟩ := Prod.mk.inj (Option.some.inj h)
    exact ⟨b, _, hb, .falseWord, by rw [heq]; rfl⟩
  case h_4 heq =>
    obtain ⟨⟨s, more⟩, hread, hpair⟩ := Option.map_eq_some_iff.1 h
    obtain ⟨rfl, rfl⟩ := Prod.mk.inj hpair
    obtain ⟨t, ht, rfl⟩ := isString_of_readText hread
    exact ⟨b, _, hb, .string ht, by rw [heq]; rfl⟩
  case h_5 more heq =>
    split at h
    case h_1 hclose =>
      obtain ⟨rfl, rfl⟩ := Prod.mk.inj (Option.some.inj h)
      obtain ⟨b', hb', hmore⟩ := exists_blanks more
      exact ⟨b, _, hb, .emptyArray hb', by rw [heq, hmore, hclose]; simp⟩
    case h_2 =>
      obtain ⟨⟨vs, more⟩, hread, hpair⟩ := Option.map_eq_some_iff.1 h
      obtain ⟨rfl, rfl⟩ := Prod.mk.inj hpair
      obtain ⟨t, ht, rfl⟩ := hitems hread
      exact ⟨b, _, hb, .array ht, by rw [heq]; simp⟩
  case h_6 more heq =>
    split at h
    case h_1 hclose =>
      obtain ⟨rfl, rfl⟩ := Prod.mk.inj (Option.some.inj h)
      obtain ⟨b', hb', hmore⟩ := exists_blanks more
      exact ⟨b, _, hb, .emptyObject hb', by rw [heq, hmore, hclose]; simp⟩
    case h_2 =>
      obtain ⟨⟨es, more⟩, hread, hpair⟩ := Option.map_eq_some_iff.1 h
      obtain ⟨rfl, rfl⟩ := Prod.mk.inj hpair
      obtain ⟨t, ht, rfl⟩ := hentries hread
      exact ⟨b, _, hb, .object ht, by rw [heq]; simp⟩
  case h_7 =>
    obtain ⟨⟨x, more⟩, hread, hpair⟩ := Option.map_eq_some_iff.1 h
    obtain ⟨rfl, rfl⟩ := Prod.mk.inj hpair
    obtain ⟨t, ht, heq⟩ := isNumber_of_readNumeral hread
    exact ⟨b, t, hb, .number ht, by rw [heq]⟩

/-- One more call reads items of what fewer calls read. -/
theorem readsOnlyItems_succ {n : Nat} (hvalues : ReadsOnlyValues n) (hitems : ReadsOnlyItems n) :
    ReadsOnlyItems (n + 1) := by
  intro cs rest vs h
  obtain ⟨⟨v, more⟩, hread, hmark⟩ := Option.bind_eq_some_iff.1 h
  obtain ⟨b, t, hb, ht, rfl⟩ := hvalues hread
  -- The blanks before the mark belong to the item.
  obtain ⟨b', hb', hmore⟩ := exists_blanks more
  dsimp only at hmark
  split at hmark
  case h_1 hclose =>
    obtain ⟨rfl, rfl⟩ := Prod.mk.inj (Option.some.inj hmark)
    exact ⟨_, .last (.intro hb ht hb'), by rw [hmore, hclose]; simp⟩
  case h_2 hcomma =>
    obtain ⟨⟨vs, more⟩, hread, hlist⟩ := Option.bind_eq_some_iff.1 hmark
    obtain ⟨rfl, rfl⟩ := Prod.mk.inj (Option.some.inj hlist)
    obtain ⟨ts, hts, rfl⟩ := hitems hread
    exact ⟨_, .cons (.intro hb ht hb') hts, by rw [hmore, hcomma]; simp⟩
  case h_3 => cases hmark

/-- One more call reads entries of what fewer calls read. -/
theorem readsOnlyEntries_succ {n : Nat} (hvalues : ReadsOnlyValues n)
    (hentries : ReadsOnlyEntries n) : ReadsOnlyEntries (n + 1) := by
  intro cs rest es h
  obtain ⟨a, ha, hcs⟩ := exists_blanks cs
  unfold readEntries at h
  rw [hcs]
  split at h
  case h_2 => cases h
  case h_1 hquote =>
  obtain ⟨⟨k, more⟩, hkey, hcolon⟩ := Option.bind_eq_some_iff.1 h
  obtain ⟨ks, hks, rfl⟩ := isString_of_readText hkey
  obtain ⟨a', ha', hmore⟩ := exists_blanks more
  dsimp only at hcolon
  split at hcolon
  case h_2 => cases hcolon
  case h_1 heq =>
  obtain ⟨⟨v, left⟩, hread, hmark⟩ := Option.bind_eq_some_iff.1 hcolon
  obtain ⟨b, t, hb, ht, rfl⟩ := hvalues hread
  obtain ⟨b', hb', hleft⟩ := exists_blanks left
  rw [hquote, hmore, heq]
  dsimp only at hmark
  split at hmark
  case h_1 hclose =>
    obtain ⟨rfl, rfl⟩ := Prod.mk.inj (Option.some.inj hmark)
    exact ⟨_, .last (.intro ha hks ha') (.intro hb ht hb'), by rw [hleft, hclose]; simp⟩
  case h_2 hcomma =>
    obtain ⟨⟨es, left⟩, hread, hlist⟩ := Option.bind_eq_some_iff.1 hmark
    obtain ⟨rfl, rfl⟩ := Prod.mk.inj (Option.some.inj hlist)
    obtain ⟨ts, hts, rfl⟩ := hentries hread
    exact ⟨_, .cons (.intro ha hks ha') (.intro hb ht hb') hts, by rw [hleft, hcomma]; simp⟩
  case h_3 => cases hmark

/-- Any number of calls reads texts of the grammar only. -/
theorem readsOnly (n : Nat) : ReadsOnlyValues n ∧ ReadsOnlyItems n ∧ ReadsOnlyEntries n := by
  induction n with
  | zero =>
    unfold ReadsOnlyValues ReadsOnlyItems ReadsOnlyEntries
    simp [readValue, readItems, readEntries]
  | succ n ih =>
    obtain ⟨hvalues, hitems, hentries⟩ := ih
    exact ⟨readsOnlyValues_succ hitems hentries, readsOnlyItems_succ hvalues hitems,
      readsOnlyEntries_succ hvalues hentries⟩

/-- A text is read as a value just if it is one of that value by the grammar. -/
theorem parse?_eq_some_iff {s : String} {v : Json} : parse? s = some v ↔ IsText s v := by
  unfold parse? parseChars? IsText
  constructor
  · intro h
    obtain ⟨⟨v, rest⟩, hread, h⟩ := Option.bind_eq_some_iff.1 h
    obtain ⟨b, t, hb, ht, hs⟩ := (readsOnly _).1 hread
    simp only [Option.ite_none_right_eq_some, List.isEmpty_iff, Option.some.injEq] at h
    obtain ⟨hrest, rfl⟩ := h
    rw [hs]
    exact .intro hb ht (isBlanks_of_skipBlanks_eq_nil hrest)
  · intro h
    obtain ⟨b, hb, hread⟩ :=
      h.readValue_append (n := 2 * s.toList.length + 2) (by omega) stops_nil
    rw [List.append_nil, List.append_nil] at hread
    have hrest : skipBlanks b = [] := by
      rw [← List.append_nil b, skipBlanks_append hb]
      rfl
    simp [hread, hrest]

end MetricLayer.Json
