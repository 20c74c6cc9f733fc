import Mathlib.Data.List.Find
import Mathlib.Data.List.TakeDrop
import Mathlib.Data.List.TakeWhile
import MetricLayer.Proofs.Items
import MetricLayer.Sql.Lexeme

/-!
# Lexical elements in front of other text

Text that is cut into elements on its own is cut into the same elements in front of other text, if
that begins with a breaker: a blank, a parenthesis or a comma (`Lexeme.scanChars?_append`). The one
exception is a text that ends within a line comment, since that takes in the rest of the line.

Each reader of an element has a lemma that says two things: what it leaves is an end of what it
read from, and it reads the same in front of a breaker. The first makes the number of steps of
`scanFrom` immaterial (`Lexeme.scanChars?_cons`), the second is the step of the main result.
-/

namespace MetricLayer.Lexeme

/-! ## Breakers -/

/-- The characters that end every element before them. -/
def breakers : List Char := [' ', '\n', '(', ')', ',']

/-- What is checked of all breakers holds of each. -/
theorem of_mem_breakers {p : Char → Prop} [DecidablePred p] (h : breakers.all fun c => p c) :
    ∀ c ∈ breakers, p c := by
  simpa [List.all_eq_true] using h

/-- The characters begin with a breaker, if there are any. -/
def Breaks (cs : List Char) : Prop :=
  ∀ c ∈ cs.head?, c ∈ breakers

variable {cs more rest : List Char} {c q : Char}

/-- What no breaker does, text that begins with one does not. -/
theorem Breaks.head_eq_false (hmore : Breaks more) {p : Char → Bool}
    (hp : ∀ c ∈ breakers, p c = false) : ∀ c ∈ more.head?, p c = false :=
  fun c hc => hp c (hmore c hc)

/-- A character that is no breaker does not come first in text that begins with one. -/
theorem Breaks.head?_ne (hmore : Breaks more) (hc : c ∉ breakers) : more.head? ≠ some c :=
  fun h => hc (hmore c h)

/-- No characters begin with a breaker, as far as there are any. -/
theorem breaks_nil : Breaks [] := fun _ h => absurd h (by simp)

/-- A character that is no breaker is the first one just if it was so before. -/
theorem head?_append_eq_iff (hmore : Breaks more) (hc : c ∉ breakers) :
    (cs ++ more).head? = some c ↔ cs.head? = some c := by
  cases cs with
  | nil =>
    refine iff_of_false (fun h => hc (hmore c h)) (by simp)
  | cons d ds => simp

/-- The characters after the first are an end of all. -/
theorem tail_append_of_head? {d : Char} (h : cs.head? = some d) :
    (cs ++ more).tail = cs.tail ++ more := by
  obtain ⟨ds, rfl⟩ := List.head?_eq_some_iff.1 h
  rfl

/-! ## Runs of characters -/

/-- What follows a run is an end of the characters. -/
theorem span_snd_suffix (p : Char → Bool) (cs : List Char) : (cs.span p).2 <:+ cs := by
  rw [List.span_eq_takeWhile_dropWhile]
  exact List.dropWhile_suffix p

/-! ## Comments and quoted texts -/

/-- What follows a line comment that ends is the same in front of other text. -/
theorem skipLine_append (h : '\n' ∈ cs) : skipLine (cs ++ more) = skipLine cs ++ more := by
  unfold skipLine
  induction cs with
  | nil => exact absurd h List.not_mem_nil
  | cons c cs ih =>
    by_cases hc : c = '\n'
    · simp [hc]
    · have hmem : '\n' ∈ cs := (List.mem_cons.1 h).resolve_left fun heq => hc heq.symm
      simpa [hc] using ih hmem

/-- A block comment that is closed ends where it did. -/
theorem skipBlock?_append (more : List Char) {depth : Nat} {previous : Char}
    (h : skipBlock? depth previous cs = some rest) :
    rest <:+ cs ∧ skipBlock? depth previous (cs ++ more) = some (rest ++ more) := by
  induction cs generalizing depth previous with
  | nil => cases h
  | cons c cs ih =>
    rw [List.cons_append]
    unfold skipBlock? at h ⊢
    split
    case isTrue hopen =>
      rw [if_pos hopen] at h
      exact ⟨(ih h).1.trans (List.suffix_cons c cs), (ih h).2⟩
    case isFalse hopen =>
      rw [if_neg hopen] at h
      split
      case isTrue hclose =>
        rw [if_pos hclose] at h
        cases depth with
        | zero =>
          obtain rfl := Option.some.inj h
          exact ⟨List.suffix_cons c cs, rfl⟩
        | succ d => exact ⟨(ih h).1.trans (List.suffix_cons c cs), (ih h).2⟩
      case isFalse hclose =>
        rw [if_neg hclose] at h
        exact ⟨(ih h).1.trans (List.suffix_cons c cs), (ih h).2⟩

/-- A quoted text ends where it did, in front of text that does not begin with its quote. -/
theorem readQuotedBody_append {body : List Char} (hq : more.head? ≠ some q)
    (h : Text.readQuotedBody q cs = some (body, rest)) :
    rest <:+ cs ∧ Text.readQuotedBody q (cs ++ more) = some (body, rest ++ more) := by
  induction cs using Text.readQuotedBody.induct q generalizing body rest with
  | case1 => cases h
  | case2 =>
    obtain ⟨rfl, rfl⟩ := Prod.mk.inj (Option.some.inj ((if_pos rfl).symm.trans h))
    refine ⟨List.nil_suffix, ?_⟩
    cases more with
    | nil => simp [Text.readQuotedBody]
    | cons m ms =>
      have hm : m ≠ q := fun heq => hq (congrArg some heq)
      simp [Text.readQuotedBody, hm]
  | case3 c hc => simp [Text.readQuotedBody, hc] at h
  | case4 cs ih =>
    simp only [Text.readQuotedBody, if_true, Option.map_eq_some_iff, Prod.mk.injEq] at h
    obtain ⟨⟨body, rest⟩, h, rfl, rfl⟩ := h
    obtain ⟨hsuffix, happend⟩ := ih h
    exact ⟨hsuffix.trans (List.suffix_append [_, _] _), by simp [Text.readQuotedBody, happend]⟩
  | case5 d cs hd =>
    simp only [Text.readQuotedBody, if_true, if_neg hd, Option.some.injEq, Prod.mk.injEq] at h
    obtain ⟨rfl, rfl⟩ := h
    exact ⟨List.suffix_cons _ _, by simp [Text.readQuotedBody, hd]⟩
  | case6 c d cs hc ih =>
    simp only [Text.readQuotedBody, if_neg hc, Option.map_eq_some_iff, Prod.mk.injEq] at h
    obtain ⟨⟨body, rest⟩, h, rfl, rfl⟩ := h
    obtain ⟨hsuffix, happend⟩ := ih h
    rw [List.cons_append] at happend
    exact ⟨hsuffix.trans (List.suffix_cons _ _), by simp [Text.readQuotedBody, hc, happend]⟩

/-- A quote that is not doubled ends a text with escapes. -/
theorem readEscapedBody_quote (h : cs.head? ≠ some '\'') :
    readEscapedBody ('\'' :: cs) = some ([], cs) := by
  cases cs with
  | nil => rfl
  | cons d ds =>
    have hd : d ≠ '\'' := fun heq => h (congrArg some heq)
    simp [readEscapedBody, hd]

/-- A character that is no quote and no backslash stands for itself. -/
theorem readEscapedBody_other (hq : c ≠ '\'') (hslash : c ≠ '\\') :
    readEscapedBody (c :: cs) =
      (readEscapedBody cs).map fun (body, rest) => (c :: body, rest) := by
  simp [readEscapedBody, hq, hslash]

/-- A text with escapes ends where it did, in front of text that does not begin with its quote. -/
theorem readEscapedBody_append {body : List Char} (hq : more.head? ≠ some '\'')
    (h : readEscapedBody cs = some (body, rest)) :
    rest <:+ cs ∧ readEscapedBody (cs ++ more) = some (body, rest ++ more) := by
  induction cs using readEscapedBody.induct generalizing body rest with
  | case1 => cases h
  | case2 c cs ih =>
    simp only [readEscapedBody, Option.map_eq_some_iff, Prod.mk.injEq] at h
    obtain ⟨⟨body, rest⟩, h, rfl, rfl⟩ := h
    obtain ⟨hsuffix, happend⟩ := ih h
    exact ⟨hsuffix.trans (List.suffix_append [_, _] _), by simp [readEscapedBody, happend]⟩
  | case3 cs ih =>
    simp only [readEscapedBody, Option.map_eq_some_iff, Prod.mk.injEq] at h
    obtain ⟨⟨body, rest⟩, h, rfl, rfl⟩ := h
    obtain ⟨hsuffix, happend⟩ := ih h
    exact ⟨hsuffix.trans (List.suffix_append [_, _] _), by simp [readEscapedBody, happend]⟩
  | case4 cs _ hcs =>
    have hhead : cs.head? ≠ some '\'' := by
      rintro hd
      obtain ⟨ds, rfl⟩ := List.head?_eq_some_iff.1 hd
      exact hcs ds rfl rfl
    rw [readEscapedBody_quote hhead] at h
    obtain ⟨rfl, rfl⟩ := Prod.mk.inj (Option.some.inj h)
    refine ⟨List.suffix_cons _ _, readEscapedBody_quote ?_⟩
    cases cs with
    | nil => exact hq
    | cons d ds => exact hhead
  | case5 c cs hslash _ hc ih =>
    by_cases hc' : c = '\\'
    -- A backslash at the end leaves the text open.
    · cases cs with
      | nil =>
        rw [hc'] at h
        cases h
      | cons d ds => exact absurd rfl (hslash d ds hc')
    · rw [readEscapedBody_other hc hc', Option.map_eq_some_iff] at h
      obtain ⟨⟨body, rest⟩, h, ⟨⟩⟩ := h
      obtain ⟨hsuffix, happend⟩ := ih h
      refine ⟨hsuffix.trans (List.suffix_cons _ _), ?_⟩
      rw [List.cons_append, readEscapedBody_other hc hc', happend]
      rfl

/-! ## Numbers, operators and words -/

/-- An exponent ends where it did. -/
theorem splitExponent_append (cs : List Char) (hmore : Breaks more) :
    (splitExponent cs).2 <:+ cs ∧
      splitExponent (cs ++ more) = ((splitExponent cs).1, (splitExponent cs).2 ++ more) := by
  have hletter : ∀ c ∈ breakers, ¬(c = 'e' ∨ c = 'E') := of_mem_breakers (by decide)
  have hsign : ∀ c ∈ breakers, ¬(c = '+' ∨ c = '-') := of_mem_breakers (by decide)
  have hdigit : ∀ c ∈ breakers, c.isDigit = false := of_mem_breakers (by decide)
  cases cs with
  | nil =>
    cases more with
    | nil => exact ⟨List.suffix_refl _, rfl⟩
    | cons m ms => simp [splitExponent, hletter m (hmore m rfl)]
  | cons e cs =>
    by_cases he : e = 'e' ∨ e = 'E'
    · cases cs with
      | nil =>
        cases more with
        | nil => simp [splitExponent, he]
        | cons m ms =>
          have hm := hmore m rfl
          simp [splitExponent, he, hsign m hm, hdigit m hm, List.span_eq_takeWhile_dropWhile]
      | cons s cs =>
        by_cases hs : s = '+' ∨ s = '-'
        · have hspan := span_append cs (hmore.head_eq_false hdigit)
          have hrest := span_snd_suffix Char.isDigit cs
          simp only [splitExponent, if_pos he, if_pos hs, List.cons_append, hspan]
          split
          · exact ⟨List.suffix_refl _, rfl⟩
          · exact ⟨hrest.trans (List.suffix_append [_, _] _), rfl⟩
        · have hspan := span_append (s :: cs) (hmore.head_eq_false hdigit)
          have hrest := span_snd_suffix Char.isDigit (s :: cs)
          rw [List.cons_append] at hspan
          simp only [splitExponent, if_pos he, if_neg hs, List.cons_append, hspan]
          split
          · exact ⟨List.suffix_refl _, rfl⟩
          · exact ⟨hrest.trans (List.suffix_cons _ _), rfl⟩
    · simp [splitExponent, he]

/-- Splits off the character `c`, if it comes first. -/
def splitMark (c : Char) : List Char → List Char × List Char
  | d :: cs => if d = c then ([c], cs) else ([], d :: cs)
  | [] => ([], [])

/-- A mark that may stand before the rest ends where it did. -/
theorem splitMark_append (cs : List Char) (hc : c ∉ breakers) (hmore : Breaks more) :
    (splitMark c cs).2 <:+ cs ∧
      splitMark c (cs ++ more) = ((splitMark c cs).1, (splitMark c cs).2 ++ more) := by
  cases cs with
  | nil =>
    cases more with
    | nil => exact ⟨List.suffix_refl _, rfl⟩
    | cons m ms =>
      have hm : m ≠ c := fun heq => hc (heq ▸ hmore m rfl)
      simp [splitMark, hm]
  | cons d ds =>
    by_cases hd : d = c
    · simp [splitMark, hd]
    · simp [splitMark, hd]

/-- A point is split off, if it comes first. -/
theorem splitMark_point (cs : List Char) :
    splitMark '.' cs = match cs with
      | '.' :: rest' => (['.'], rest')
      | _ => ([], cs) := by
  cases cs with
  | nil => rfl
  | cons d ds => by_cases hd : d = '.' <;> simp [splitMark, hd]

/-- The suffix of a long number is split off, if it comes first. -/
theorem splitMark_long (cs : List Char) :
    splitMark 'L' cs = match cs with
      | 'L' :: rest' => (['L'], rest')
      | _ => ([], cs) := by
  cases cs with
  | nil => rfl
  | cons d ds => by_cases hd : d = 'L' <;> simp [splitMark, hd]

/-- The parts of a number, one after the other. -/
theorem splitNumber_eq (cs : List Char) :
    splitNumber cs =
      let whole := cs.span Char.isDigit
      let point := splitMark '.' whole.2
      let fraction := point.2.span Char.isDigit
      let exponent := splitExponent fraction.2
      let long := splitMark 'L' exponent.2
      (whole.1 ++ (point.1 ++ (fraction.1 ++ (exponent.1 ++ long.1))), long.2) := by
  dsimp only
  rw [splitMark_point, splitMark_long]
  rfl

/-- A number ends where it did. -/
theorem splitNumber_append (cs : List Char) (hmore : Breaks more) :
    (splitNumber cs).2 <:+ cs ∧
      splitNumber (cs ++ more) = ((splitNumber cs).1, (splitNumber cs).2 ++ more) := by
  have hdigits := fun cs => span_append cs (hmore.head_eq_false (p := Char.isDigit) (of_mem_breakers (by decide)))
  have hpoint := fun cs => splitMark_append (c := '.') cs (by decide) hmore
  have hlong := fun cs => splitMark_append (c := 'L') cs (by decide) hmore
  have hexponent := fun cs => splitExponent_append cs hmore
  simp only [splitNumber_eq, hdigits, hpoint, hlong, hexponent, and_true]
  refine (hlong _).1.trans ((hexponent _).1.trans ?_)
  exact (span_snd_suffix _ _).trans ((hpoint _).1.trans (span_snd_suffix _ _))

/-- A number that begins with a digit or a point takes in its first character. -/
theorem splitNumber_suffix_of_start (cs : List Char) (hc : c.isDigit ∨ c = '.') :
    (splitNumber (c :: cs)).2 <:+ cs := by
  have hpoint := fun cs => (splitMark_append (c := '.') cs (by decide) breaks_nil).1
  have hlong := fun cs => (splitMark_append (c := 'L') cs (by decide) breaks_nil).1
  have hexponent := fun cs => (splitExponent_append cs breaks_nil).1
  rw [splitNumber_eq]
  refine (hlong _).trans ((hexponent _).trans ((span_snd_suffix _ _).trans ?_))
  rw [List.span_eq_takeWhile_dropWhile]
  by_cases hdigit : c.isDigit
  · rw [List.dropWhile_cons_of_pos hdigit]
    exact (hpoint _).trans (List.dropWhile_suffix _)
  · obtain rfl := hc.resolve_left hdigit
    rw [List.dropWhile_cons_of_neg hdigit]
    exact List.suffix_refl _

/-- Characters without breakers are a beginning of a text just if they are so without what follows
it from a breaker on. -/
theorem isPrefixOf_append (cs : List Char) (hmore : Breaks more) {o : List Char} (ho : ∀ c ∈ o, c ∉ breakers) :
    o.isPrefixOf (cs ++ more) = o.isPrefixOf cs := by
  induction o generalizing cs with
  | nil => simp
  | cons x o ih =>
    have hx := ho x List.mem_cons_self
    cases cs with
    | nil =>
      cases more with
      | nil => rfl
      | cons m ms =>
        have hm : x ≠ m := fun heq => hx (heq ▸ hmore m rfl)
        simp [List.isPrefixOf, hm]
    | cons d ds =>
      have hrest := ih ds fun c hc => ho c (List.mem_cons_of_mem x hc)
      simp [List.isPrefixOf, hrest]

/-- No operator has a breaker in it. -/
theorem not_mem_breakers_of_operator : ∀ o ∈ operators, ∀ c ∈ o, c ∉ breakers := by
  have hall : ∀ o ∈ operators, o.all (· ∉ breakers) := by decide
  simpa only [List.all_eq_true, decide_eq_true_eq] using hall

/-- An operator ends where it did. -/
theorem splitOperator_append (hmore : Breaks more) :
    (splitOperator c cs).2 <:+ cs ∧
      splitOperator c (cs ++ more) = ((splitOperator c cs).1, (splitOperator c cs).2 ++ more) := by
  have hfind : operators.find? (fun o => o.isPrefixOf (c :: (cs ++ more))) =
      operators.find? fun o => o.isPrefixOf (c :: cs) := by
    refine List.find?_congr fun o ho => ?_
    exact isPrefixOf_append (c :: cs) hmore (not_mem_breakers_of_operator o ho)
  unfold splitOperator
  rw [hfind]
  split
  case h_1 o ho =>
    have hpos : o ≠ [] := fun hnil => by
      have hmem := List.mem_of_find?_eq_some ho
      rw [hnil] at hmem
      exact absurd hmem (by decide)
    have hprefix : o.isPrefixOf (c :: cs) = true := by simpa using List.find?_some ho
    obtain ⟨ds, hds⟩ := List.isPrefixOf_iff_prefix.1 hprefix
    obtain ⟨x, o', rfl⟩ := List.exists_cons_of_ne_nil hpos
    obtain ⟨rfl, rfl⟩ := List.cons.inj hds
    simp
  case h_2 => exact ⟨List.suffix_refl _, rfl⟩

/-- A word ends where it did. -/
theorem readWord_append (c : Char) (cs : List Char) (hmore : Breaks more) :
    (readWord c cs).2 <:+ cs ∧
      readWord c (cs ++ more) = ((readWord c cs).1, (readWord c cs).2 ++ more) := by
  have hspan := span_append cs (hmore.head_eq_false (p := isWordPart) (of_mem_breakers (by decide +kernel)))
  refine ⟨span_snd_suffix _ _, ?_⟩
  unfold readWord
  rw [hspan]

/-- A placeholder after a dollar ends where it did. -/
theorem readDollar_append (hmore : Breaks more) :
    (readDollar cs).2 <:+ cs ∧
      readDollar (cs ++ more) = ((readDollar cs).1, (readDollar cs).2 ++ more) := by
  have hspan := span_append cs
    (hmore.head_eq_false (p := fun c => Text.isAlphanumeric c || c == '_')
      (of_mem_breakers (by decide +kernel)))
  refine ⟨span_snd_suffix _ _, ?_⟩
  unfold readDollar
  rw [hspan]

/-- The letter of a mark begins a word if no quote follows. -/
theorem readMarked_of_head? (h : cs.head? ≠ some '\'') :
    readMarked c cs = some (readWord c cs) := by
  cases cs with
  | nil => rfl
  | cons d ds =>
    have hd : d ≠ '\'' := fun heq => h (congrArg some heq)
    simp [readMarked, hd]

/-- A literal with a mark, or a word, ends where it did. -/
theorem readMarked_append (hmore : Breaks more) {l : Lexeme}
    (h : readMarked c cs = some (l, rest)) :
    rest <:+ cs ∧ readMarked c (cs ++ more) = some (l, rest ++ more) := by
  have hquote : more.head? ≠ some '\'' := hmore.head?_ne (by decide)
  have hword := readWord_append c cs hmore
  by_cases hcs : cs.head? = some '\''
  · obtain ⟨ds, rfl⟩ := List.head?_eq_some_iff.1 hcs
    simp only [readMarked, Option.map_eq_some_iff] at h
    obtain ⟨⟨body, rest⟩, hbody, ⟨⟩⟩ := h
    simp only [readMarked, List.cons_append]
    split at hbody
    case isTrue hraw =>
      obtain ⟨hsuffix, happend⟩ := readQuotedBody_append hquote hbody
      rw [if_pos hraw, happend]
      exact ⟨hsuffix.trans (List.suffix_cons _ _), rfl⟩
    case isFalse hraw =>
      obtain ⟨hsuffix, happend⟩ := readEscapedBody_append hquote hbody
      rw [if_neg hraw, happend]
      exact ⟨hsuffix.trans (List.suffix_cons _ _), rfl⟩
  · have hcs' : (cs ++ more).head? ≠ some '\'' :=
      mt (head?_append_eq_iff hmore (by decide)).1 hcs
    rw [readMarked_of_head? hcs] at h
    obtain ⟨rfl, rfl⟩ := Prod.mk.inj (Option.some.inj h)
    rw [readMarked_of_head? hcs', hword.2]
    exact ⟨hword.1, rfl⟩

/-! ## Elements -/

/-- What `x` reads of `cs`, `y` reads too, with `more` behind what is left. -/
def Extends {α : Type} (cs more : List Char) (x y : Option (α × List Char)) : Prop :=
  ∀ a rest, x = some (a, rest) → rest <:+ cs ∧ y = some (a, rest ++ more)

namespace Extends

variable {α β : Type} {x y x' y' : Option (α × List Char)}

/-- Readers that distinguish the same cases may be looked at case by case. -/
theorem ite {P : Prop} [Decidable P] (ht : P → Extends cs more x y)
    (hf : ¬P → Extends cs more x' y') :
    Extends cs more (if P then x else x') (if P then y else y') := by
  split
  case isTrue h => exact ht h
  case isFalse h => exact hf h

/-- A reader may leave everything. -/
theorem leave (a : α) : Extends cs more (some (a, cs)) (some (a, cs ++ more)) := by
  rintro a rest ⟨⟩
  exact ⟨List.suffix_refl _, rfl⟩

/-- A reader may cut the text in two. -/
theorem cut {b c : β × List Char} (f : β → α)
    (h : b.2 <:+ cs ∧ c = (b.1, b.2 ++ more)) :
    Extends cs more (some (f b.1, b.2)) (some (f c.1, c.2)) := by
  rintro a rest ⟨⟩
  obtain ⟨hsuffix, rfl⟩ := h
  exact ⟨hsuffix, rfl⟩

/-- A reader may make something else of what is read. -/
theorem map {x y : Option (β × List Char)} (f : β → α) (h : Extends cs more x y) :
    Extends cs more (x.map fun p => (f p.1, p.2)) (y.map fun p => (f p.1, p.2)) := by
  intro a rest hx
  obtain ⟨⟨b, rest⟩, hb, ⟨⟩⟩ := Option.map_eq_some_iff.1 hx
  obtain ⟨hsuffix, hy⟩ := h b rest hb
  exact ⟨hsuffix, by rw [hy]; rfl⟩

end Extends

/-- An element, or what is skipped, ends where it did, unless it is a line comment that does not
end. -/
theorem readNext_extends (hmore : Breaks more)
    (hopen : ¬(c = '-' ∧ cs.head? = some '-' ∧ '\n' ∉ cs)) :
    Extends cs more (readNext c cs) (readNext c (cs ++ more)) := by
  have hhead : ∀ x, x ∉ breakers → ((cs ++ more).head? = some x ↔ cs.head? = some x) :=
    fun x hx => head?_append_eq_iff hmore hx
  have hdigits : ∀ d ∈ breakers, d.isDigit = false := of_mem_breakers (by decide)
  have hdigit : (cs ++ more).head?.any Char.isDigit = cs.head?.any Char.isDigit := by
    cases cs with
    | nil =>
      cases more with
      | nil => rfl
      | cons m ms => simpa using hmore.head_eq_false hdigits m rfl
    | cons d ds => rfl
  unfold readNext
  simp only [hhead '-' (by decide), hhead '*' (by decide), hhead 'x' (by decide), hdigit]
  -- The cases are those of the reader, in its order.
  refine .ite (fun h => ?line) fun _ => .ite (fun h => ?block) fun _ => .ite (fun _ => ?string)
    fun _ => .ite (fun h => ?name) fun _ => .ite (fun h => ?hex) fun _ => .ite (fun h => ?number)
    fun _ => .ite (fun _ => .leave _) fun _ => .ite (fun _ => .leave _) fun _ =>
    .ite (fun _ => .leave _) fun _ => .ite (fun _ => .leave _) fun _ => .ite (fun _ => .leave _)
    fun _ => .ite (fun _ => ?dollar) fun _ => .ite (fun _ => ?question) fun _ =>
    .ite (fun _ => ?marked) fun _ => .ite (fun _ => ?word) fun _ => .ite (fun _ => .leave _)
    fun _ => ?operator
  case line =>
    have hbreak : '\n' ∈ cs := by
      by_contra hno
      exact hopen ⟨h.1, h.2, hno⟩
    rw [skipLine_append hbreak]
    rintro l rest ⟨⟩
    exact ⟨List.dropWhile_suffix _, rfl⟩
  case block =>
    intro l rest hl
    obtain ⟨rest, hrest, ⟨⟩⟩ := Option.map_eq_some_iff.1 hl
    obtain ⟨hsuffix, happend⟩ := skipBlock?_append more hrest
    rw [tail_append_of_head? h.2, happend]
    exact ⟨hsuffix.trans (List.tail_suffix cs), rfl⟩
  case string =>
    have hquote : more.head? ≠ some '\'' := hmore.head?_ne (by decide)
    exact .map (fun body => some (string "" (String.ofList body)))
      fun _ _ hbody => readQuotedBody_append hquote hbody
  case name =>
    have hc : c ∉ breakers := by
      have htick : ∀ d ∈ breakers, d.toNat ≠ 0x60 := of_mem_breakers (by decide)
      rcases h with rfl | h
      · decide
      · exact fun hmem => htick c hmem h
    exact .map (fun body => some (quotedName c (String.ofList body)))
      fun _ _ hbody => readQuotedBody_append (hmore.head?_ne hc) hbody
  case hex =>
    have hspan := span_append cs.tail (hmore.head_eq_false (p := isHexDigit) (of_mem_breakers (by decide)))
    rw [tail_append_of_head? h.2]
    exact .cut (fun ds => some (number (String.ofList ('0' :: 'x' :: ds))))
      ⟨(span_snd_suffix _ _).trans (List.tail_suffix cs), hspan⟩
  case number =>
    have hrest := splitNumber_suffix_of_start cs (h.imp_right And.left)
    have hnumber := (splitNumber_append (c :: cs) hmore).2
    exact .cut (fun text => some (number (String.ofList text))) ⟨hrest, hnumber⟩
  case dollar => exact .cut some (readDollar_append hmore)
  case question =>
    exact .cut (fun ds => some (placeholder (String.ofList ('?' :: ds))))
      ⟨span_snd_suffix _ _, span_append cs (hmore.head_eq_false hdigits)⟩
  case marked => exact .map some fun _ _ hl => readMarked_append hmore hl
  case word => exact .cut some (readWord_append c cs hmore)
  case operator =>
    exact .cut (fun text => some (operator (String.ofList text))) (splitOperator_append hmore)

/-- What an element leaves is an end of the characters after its first. -/
theorem readNext_suffix {l : Option Lexeme} (h : readNext c cs = some (l, rest)) : rest <:+ cs := by
  by_cases hopen : c = '-' ∧ cs.head? = some '-' ∧ '\n' ∉ cs
  · rw [readNext, if_pos ⟨hopen.1, hopen.2.1⟩] at h
    obtain ⟨-, rfl⟩ := Prod.mk.inj (Option.some.inj h)
    exact List.dropWhile_suffix _
  · exact (readNext_extends breaks_nil hopen l rest h).1

/-! ## Texts -/

/-- The number of steps does not matter if there are enough of them. -/
theorem scanFrom_congr {n m : Nat} (hn : cs.length ≤ n) (hm : cs.length ≤ m) :
    scanFrom n cs = scanFrom m cs := by
  induction n generalizing cs m with
  | zero =>
    obtain rfl := List.length_eq_zero_iff.1 (Nat.le_zero.1 hn)
    cases m <;> rfl
  | succ n ih =>
    cases cs with
    | nil => cases m <;> rfl
    | cons c cs =>
      cases m with
      | zero => exact absurd hm (by simp)
      | succ m =>
        unfold scanFrom
        cases hread : readNext c cs with
        | none => rfl
        | some p =>
          obtain ⟨l, rest⟩ := p
          have hle : rest.length ≤ cs.length := (readNext_suffix hread).length_le
          have hrest := ih (hle.trans (Nat.le_of_succ_le_succ hn)) (hle.trans (Nat.le_of_succ_le_succ hm))
          simp only [Option.bind_eq_bind, Option.bind_some, hrest]

/-- The elements of a text are the first one and those of what it leaves. -/
theorem scanChars?_cons (c : Char) (cs : List Char) :
    scanChars? (c :: cs) =
      (readNext c cs).bind fun p => (scanChars? p.2).map (p.1.toList ++ ·) := by
  unfold scanChars?
  rw [List.length_cons, scanFrom]
  cases hread : readNext c cs with
  | none => rfl
  | some p =>
    obtain ⟨l, rest⟩ := p
    have hle : rest.length ≤ cs.length := (readNext_suffix hread).length_le
    rw [Option.bind_some, ← scanFrom_congr hle le_rfl]
    simp only [Option.bind_eq_bind, Option.bind_some]
    cases scanFrom cs.length rest with
    | none => rfl
    | some ls => cases l <;> rfl

/-- Reading comes within `n` steps to a line comment that does not end. -/
def opensComment : Nat → List Char → Bool
  | 0, _ => false
  | _ + 1, [] => false
  | n + 1, c :: cs =>
    if c = '-' ∧ cs.head? = some '-' ∧ '\n' ∉ cs then true
    else
      match readNext c cs with
      | some (_, rest) => opensComment n rest
      | none => false

/-- The text ends within a line comment. -/
def endsInComment (s : String) : Bool :=
  opensComment s.length s.toList

/-- A text without a hyphen does not end within a line comment. -/
theorem opensComment_eq_false {n : Nat} (h : '-' ∉ cs) : opensComment n cs = false := by
  -- On the steps of the scan: what a step leaves is an end of the text, without a hyphen too.
  induction n generalizing cs with
  | zero => rfl
  | succ n ih =>
    cases cs with
    | nil => rfl
    | cons c cs =>
      have hc : ¬(c = '-' ∧ cs.head? = some '-' ∧ '\n' ∉ cs) :=
        fun hopen => h (hopen.1 ▸ List.mem_cons_self)
      rw [opensComment, if_neg hc]
      split
      case h_1 l rest hread =>
        exact ih fun hmem => h (List.mem_cons_of_mem c ((readNext_suffix hread).mem hmem))
      case h_2 => rfl

/-- A line comment is skipped, up to the line break behind it or to the end. -/
theorem scanChars?_lineComment {line : List Char} (hline : '\n' ∉ line)
    (hmore : ∀ c ∈ more.head?, c = '\n') :
    scanChars? ('-' :: '-' :: (line ++ more)) = scanChars? more := by
  have hkept : ∀ c ∈ '-' :: line, (c != '\n') = true := by
    intro c hc
    refine bne_iff_ne.2 ?_
    rintro rfl
    exact hline ((List.mem_cons.1 hc).resolve_left (by decide))
  have hend : ∀ c ∈ more.head?, (c != '\n') = false := by
    intro c hc
    rw [hmore c hc]
    rfl
  have hskip : skipLine ('-' :: (line ++ more)) = more := (run_append hkept hend).2
  have hread : readNext '-' ('-' :: (line ++ more)) = some (none, more) := by
    rw [readNext, if_pos ⟨rfl, rfl⟩, hskip]
  rw [scanChars?_cons, hread, Option.bind_some]
  simp

/-- A text has the same elements in front of a breaker, if it does not end within a line comment or
the breaker is the line break that ends this. -/
theorem scanChars?_append {n : Nat} {ls : List Lexeme} (hn : cs.length ≤ n) (hmore : Breaks more)
    (hcomment : opensComment n cs = false ∨ more.head? = some '\n')
    (hls : scanChars? cs = some ls) :
    scanChars? (cs ++ more) = (scanChars? more).map (ls ++ ·) := by
  induction n generalizing cs ls with
  | zero =>
    obtain rfl := List.length_eq_zero_iff.1 (Nat.le_zero.1 hn)
    obtain rfl : [] = ls := Option.some.inj hls
    simp
  | succ n ih =>
    cases cs with
    | nil =>
      obtain rfl : [] = ls := Option.some.inj hls
      simp
    | cons c cs =>
      rw [opensComment] at hcomment
      split at hcomment
      case isTrue hopen =>
        -- All that is left is a line comment without an end, so what follows has to give it one.
        obtain ⟨rfl, hhead, hbreak⟩ := hopen
        obtain ⟨line, rfl⟩ := List.head?_eq_some_iff.1 hhead
        have hline : '\n' ∉ line := fun hmem => hbreak (List.mem_cons_of_mem _ hmem)
        have hend : scanChars? ('-' :: '-' :: (line ++ [])) = scanChars? [] :=
          scanChars?_lineComment hline (by simp)
        rw [List.append_nil, hls] at hend
        obtain rfl : ls = [] := Option.some.inj hend
        have hmore' : more.head? = some '\n' := hcomment.resolve_left (by decide)
        rw [List.cons_append, List.cons_append, scanChars?_lineComment hline (by simp [hmore'])]
        simp
      case isFalse hopen =>
        rw [scanChars?_cons] at hls
        obtain ⟨⟨l, rest⟩, hread, hrest⟩ := Option.bind_eq_some_iff.1 hls
        obtain ⟨ms, hms, rfl⟩ := Option.map_eq_some_iff.1 hrest
        rw [hread] at hcomment
        obtain ⟨hsuffix, happend⟩ := readNext_extends hmore hopen l rest hread
        have hle : rest.length ≤ n := hsuffix.length_le.trans (Nat.le_of_succ_le_succ hn)
        rw [List.cons_append, scanChars?_cons, happend, Option.bind_some, ih hle hcomment hms,
          Option.map_map]
        congr 1
        funext ns
        simp

/-- The elements of the characters are seen in front of every text that begins with a breaker. -/
def Scans (cs : List Char) (ls : List Lexeme) : Prop :=
  ∀ more, Breaks more → scanChars? (cs ++ more) = (scanChars? more).map (ls ++ ·)

/-- A text has the elements that are seen. -/
theorem Scans.scanChars?_eq {ls : List Lexeme} (h : Scans cs ls) : scanChars? cs = some ls := by
  have hnil := h [] breaks_nil
  rw [List.append_nil] at hnil
  rw [hnil]
  exact congrArg some (List.append_nil ls)

/-- The elements that are seen are the first ones of a longer text. -/
theorem Scans.isPrefix {ls ms : List Lexeme} (h : Scans cs ls) (hmore : Breaks more)
    (hms : scanChars? (cs ++ more) = some ms) : ls <+: ms := by
  rw [h more hmore] at hms
  obtain ⟨ns, -, rfl⟩ := Option.map_eq_some_iff.1 hms
  exact List.prefix_append ls ns

/-- The elements of a text are seen, if it does not end within a line comment. -/
theorem scans_of_scan? {s : String} {ls : List Lexeme} (h : scan? s = some ls)
    (hcomment : endsInComment s = false) : Scans s.toList ls :=
  fun _ hmore => scanChars?_append (String.length_toList ▸ le_rfl) hmore (.inl hcomment) h

/-- The element that a breaker is, if it is one. -/
def ofBreaker : Char → List Lexeme
  | '(' => [lparen]
  | ')' => [rparen]
  | ',' => [comma]
  | _ => []

/-- A breaker is read alone. -/
theorem readNext_breaker (hc : c ∈ breakers) (cs : List Char) :
    readNext c cs = some ((ofBreaker c).head?, cs) := by
  have hspace : isWordStart ' ' = false := by decide +kernel
  have hnewline : isWordStart '\n' = false := by decide +kernel
  have hblank : Text.isBlank ' ' = true ∧ Text.isBlank '\n' = true := by decide
  have hlower : Char.toLower ' ' = ' ' ∧ Char.toLower '\n' = '\n' := by decide
  simp only [breakers, List.mem_cons, List.not_mem_nil, or_false] at hc
  rcases hc with rfl | rfl | rfl | rfl | rfl
  · simp [readNext, ofBreaker, hspace, hblank, hlower, Char.isDigit]
  · simp [readNext, ofBreaker, hnewline, hblank, hlower, Char.isDigit]
  · simp [readNext, ofBreaker, Char.isDigit]
  · simp [readNext, ofBreaker, Char.isDigit]
  · simp [readNext, ofBreaker, Char.isDigit]

/-- A breaker is no part of what follows it. -/
theorem scanChars?_breaker (hc : c ∈ breakers) (cs : List Char) :
    scanChars? (c :: cs) = (scanChars? cs).map (ofBreaker c ++ ·) := by
  have hlexemes : ∀ b ∈ breakers, (ofBreaker b).head?.toList = ofBreaker b :=
    of_mem_breakers (by decide)
  rw [scanChars?_cons, readNext_breaker hc, Option.bind_some, hlexemes c hc]

/-- Texts with a breaker between them are scanned apart. -/
theorem Scans.append {ds : List Char} {ls ms : List Lexeme} (hcs : Scans cs ls) (hc : c ∈ breakers)
    (hds : Scans ds ms) : Scans (cs ++ c :: ds) (ls ++ (ofBreaker c ++ ms)) := by
  intro more hmore
  have hbreaks : Breaks (c :: (ds ++ more)) := by
    rintro b ⟨⟩
    exact hc
  calc
    scanChars? (cs ++ c :: ds ++ more) = scanChars? (cs ++ c :: (ds ++ more)) := by simp
    _ = (scanChars? (c :: (ds ++ more))).map (ls ++ ·) := hcs _ hbreaks
    _ = ((scanChars? (ds ++ more)).map (ofBreaker c ++ ·)).map (ls ++ ·) := by
      rw [scanChars?_breaker hc]
    _ = (((scanChars? more).map (ms ++ ·)).map (ofBreaker c ++ ·)).map (ls ++ ·) := by
      rw [hds more hmore]
    _ = (scanChars? more).map ((ls ++ (ofBreaker c ++ ms)) ++ ·) := by
      simp [Option.map_map, Function.comp_def]

/-- No text has no elements. -/
theorem scans_nil : Scans [] [] := by
  intro more _
  simp

/-- A breaker may come first. -/
theorem Scans.cons {ls : List Lexeme} (hc : c ∈ breakers) (hcs : Scans cs ls) :
    Scans (c :: cs) (ofBreaker c ++ ls) :=
  scans_nil.append hc hcs

end MetricLayer.Lexeme
