import MetricLayer.Proofs.Sql.Term.Shape

/-!
# Elements behind an operand

What a query writes behind an operand begins with a separator: a parenthesis or a comma, or the
operator of a condition. The readers of keywords, names and types read the same in front of a
separator as at the end. A type may take in a closing parenthesis and a comma, but then a separator
or a string literal comes next, which is no part of it; `Local` says so.
-/

namespace MetricLayer.Term

/-- The words that a query writes behind an operand. -/
def separatorWords : List String := ["AND", "AS", "BETWEEN", "ILIKE", "IN", "LIKE"]

/-- The operators that a query writes behind an operand. -/
def separatorMarks : List String := ["=", "<>", "<", ">", "<=", ">="]

/-- The elements that a query writes behind an operand. -/
def separators : List Lexeme :=
  .rparen :: .comma :: (separatorMarks.map .operator ++ separatorWords.map .word)

/-- The elements can follow an operand in a query. -/
structure Follows (more : List Lexeme) : Prop where
  /-- They begin with a separator, if there are any. -/
  head : ∀ l ∈ more.head?, l ∈ separators
  /-- The first of them is not the beginning of a qualified name. -/
  period : ∀ l rest, more ≠ l :: .period :: rest
  /-- A separator comes after a closing parenthesis, if anything does. -/
  rparen : ∀ rest, more = .rparen :: rest → ∀ l ∈ rest.head?, l ∈ separators
  /-- A string literal comes after a comma. -/
  comma : ∀ rest, more = .comma :: rest → ∃ k s, rest.head? = some (.string k s)

variable {more ls rest : List Lexeme} {l : Lexeme} {k : String}

/-! ## Separators -/

/-- A number is no separator. -/
theorem number_notMem_separators (n : String) : .number n ∉ separators := by
  simp [separators, separatorMarks, separatorWords]

/-- A string literal is no separator. -/
theorem string_notMem_separators (k s : String) : .string k s ∉ separators := by
  simp [separators, separatorMarks, separatorWords]

/-- A separator is no other keyword than the words of a query. -/
theorem isKeyword_of_mem_separators (h : l ∈ separators) (hk : k ∉ separatorWords) :
    l.isKeyword k = false := by
  have hchars : ∀ w ∈ separatorWords, Text.isKeywordText w = true := by decide
  cases l with
  | word w =>
    have hw : w ∈ separatorWords := by simpa [separators] using h
    have hne : w ≠ k := fun heq => hk (heq ▸ hw)
    simpa [Lexeme.isKeyword, Text.uppercase_eq_self (hchars w hw)] using hne
  | _ => rfl

/-- What is no separator does not come first. -/
theorem Follows.head?_ne (hmore : Follows more) (hl : l ∉ separators) : more.head? ≠ some l :=
  fun h => hl (hmore.head l h)

/-- What is no separator comes first only if it did so before. -/
theorem not_cons_append (hmore : Follows more) (hl : l ∉ separators)
    (h : ∀ rest, ls = l :: rest → False) : ∀ rest, ls ++ more = l :: rest → False := by
  intro rest heq
  cases ls with
  | nil =>
    rw [List.nil_append] at heq
    exact hmore.head?_ne hl (by rw [heq]; rfl)
  | cons x ls => exact h ls (by rw [(List.cons.inj heq).1])

/-- The first of some elements stays the first. -/
theorem not_cons_append_of_ne_nil (hls : ls ≠ []) (h : ∀ rest, ls = l :: rest → False) :
    ∀ rest, ls ++ more = l :: rest → False := by
  intro rest heq
  cases ls with
  | nil => exact hls rfl
  | cons x ls => exact h ls (by rw [(List.cons.inj heq).1])

/-! ## Keywords -/

/-- A keyword that comes first is the first element. -/
theorem afterKeyword?_eq_some (h : afterKeyword? k ls = some rest) :
    ∃ l, ls = l :: rest ∧ l.isKeyword k = true := by
  cases ls with
  | nil => cases h
  | cons l ls =>
    simp only [afterKeyword?] at h
    split at h
    case isTrue hl => exact ⟨l, by rw [Option.some.inj h], hl⟩
    case isFalse => cases h

/-- A keyword that comes first still does so. -/
theorem afterKeyword?_append_of_some (more : List Lexeme) (h : afterKeyword? k ls = some rest) :
    afterKeyword? k (ls ++ more) = some (rest ++ more) := by
  obtain ⟨l, rfl, hl⟩ := afterKeyword?_eq_some h
  simp [afterKeyword?, hl]

/-- Separators are no other keywords. -/
theorem afterKeyword?_of_separator (h : ∀ l ∈ ls.head?, l ∈ separators) (hk : k ∉ separatorWords) :
    afterKeyword? k ls = none := by
  cases ls with
  | nil => rfl
  | cons l ls => simp [afterKeyword?, isKeyword_of_mem_separators (h l rfl) hk]

/-- What follows a keyword in front of a separator. -/
theorem afterKeyword?_append (hmore : Follows more) (hk : k ∉ separatorWords) (ls : List Lexeme) :
    afterKeyword? k (ls ++ more) = (afterKeyword? k ls).map (· ++ more) := by
  cases ls with
  | nil => exact afterKeyword?_of_separator hmore.head hk
  | cons l ls =>
    simp only [List.cons_append, afterKeyword?]
    split
    · rfl
    · rfl

/-- What follows keywords in front of a separator. -/
theorem afterKeywords?_append (hmore : Follows more) (ks : List String)
    (hks : ∀ k ∈ ks, k ∉ separatorWords) (ls : List Lexeme) :
    afterKeywords? ks (ls ++ more) = (afterKeywords? ks ls).map (· ++ more) := by
  induction ks generalizing ls with
  | nil => rfl
  | cons k ks ih =>
    obtain ⟨hk, hks⟩ := List.forall_mem_cons.1 hks
    rw [afterKeywords?, afterKeywords?, afterKeyword?_append hmore hk]
    cases afterKeyword? k ls with
    | none => rfl
    | some rest => exact ih hks rest

/-! ## Names -/

/-- Without a period a name has no further part. -/
theorem readNameTail_of_head? (h : ls.head? ≠ some .period) : readNameTail ls = some ([], ls) := by
  cases ls with
  | nil => rfl
  | cons l ls =>
    have hl : l ≠ .period := by simpa using h
    cases l <;> first | rfl | exact absurd rfl hl

/-- The parts of a name in front of a separator. -/
theorem readNameTail_append (hmore : Follows more) {parts : List Lexeme}
    (h : readNameTail ls = some (parts, rest)) :
    readNameTail (ls ++ more) = some (parts, rest ++ more) := by
  induction ls using readNameTail.induct generalizing parts rest with
  | case1 l ls hl ih =>
    simp only [readNameTail, hl, if_true, Option.map_eq_some_iff, Prod.mk.injEq] at h
    obtain ⟨⟨ps, ls'⟩, h, rfl, rfl⟩ := h
    simp [readNameTail, hl, ih h]
  | case2 l ls hl => simp [readNameTail, hl] at h
  | case3 => simp [readNameTail] at h
  | case4 ls hpart hperiod =>
    have hhead : ∀ rest, ls = .period :: rest → False := by
      rintro rest rfl
      cases rest with
      | nil => exact hperiod rfl
      | cons l ls => exact hpart l ls rfl
    have happend := not_cons_append hmore (by decide) hhead
    have hne : (ls ++ more).head? ≠ some .period := fun h =>
      (List.head?_eq_some_iff.1 h).elim fun rest heq => happend rest heq
    have hne' : ls.head? ≠ some .period := fun h =>
      (List.head?_eq_some_iff.1 h).elim fun rest heq => hhead rest heq
    rw [readNameTail_of_head? hne'] at h
    obtain ⟨rfl, rfl⟩ := Prod.mk.inj (Option.some.inj h)
    exact readNameTail_of_head? hne

/-- A name with a star in front of a separator. -/
theorem readQualifiedStar_append (hmore : Follows more) (ls : List Lexeme) :
    readQualifiedStar (ls ++ more) = (readQualifiedStar ls).map fun p => (p.1, p.2 ++ more) := by
  fun_induction readQualifiedStar ls with
  | case1 l rest hl => simp [readQualifiedStar, hl]
  | case2 l rest hl => simp [readQualifiedStar, hl]
  | case3 l rest hne hl ih =>
    have hstar := not_cons_append hmore (by decide) hne
    rw [List.cons_append, List.cons_append, readQualifiedStar.eq_2 _ _ hstar, if_pos hl, ih]
    cases readQualifiedStar rest <;> rfl
  | case4 l rest hne hl =>
    have hstar := not_cons_append hmore (by decide) hne
    rw [List.cons_append, List.cons_append, readQualifiedStar.eq_2 _ _ hstar, if_neg hl]
    rfl
  | case5 ls hstar hne =>
    have hnone : ∀ l rest, ls ++ more = l :: .period :: rest → False := by
      intro l rest heq
      match ls with
      | [] => exact hmore.period l rest heq
      | [x] =>
        rw [List.cons_append, List.nil_append] at heq
        refine hmore.head?_ne (l := .period) (by decide) ?_
        rw [(List.cons.inj heq).2]
        rfl
      | x :: y :: ls =>
        rw [List.cons_append, List.cons_append] at heq
        obtain ⟨-, heq⟩ := List.cons.inj heq
        obtain ⟨rfl, -⟩ := List.cons.inj heq
        exact hne x ls rfl
    rw [readQualifiedStar.eq_3 _ (fun l rest => hnone l _) hnone]
    rfl

/-! ## Parts of types -/

/-- A word that may be there, in front of a separator. -/
theorem readOptionalWord_append (hmore : Follows more) (hk : k ∉ separatorWords)
    (ls : List Lexeme) :
    readOptionalWord k (ls ++ more) =
      ((readOptionalWord k ls).1, (readOptionalWord k ls).2 ++ more) := by
  cases ls with
  | nil =>
    cases more with
    | nil => rfl
    | cons m ms =>
      have hm := isKeyword_of_mem_separators (hmore.head m rfl) hk
      simp [readOptionalWord, hm]
  | cons l ls =>
    simp only [List.cons_append, readOptionalWord]
    split
    · rfl
    · rfl

/-- A word on time zones in front of a separator. -/
theorem readZone_append (hmore : Follows more) (ls : List Lexeme) :
    readZone (ls ++ more) = ((readZone ls).1, (readZone ls).2 ++ more) := by
  have hwith := afterKeywords?_append hmore ["WITH", "TIME", "ZONE"] (by decide) ls
  have hwithout := afterKeywords?_append hmore ["WITHOUT", "TIME", "ZONE"] (by decide) ls
  have htake : ∀ ks rest, afterKeywords? ks ls = some rest → ks.length = 3 →
      (ls ++ more).take 3 = ls.take 3 := by
    intro ks rest h hks
    have hlength := (takes_afterKeywords? h).length
    rw [List.take_append_of_le_length (by omega)]
  unfold readZone
  rw [hwith, hwithout]
  cases h₁ : afterKeywords? ["WITH", "TIME", "ZONE"] ls with
  | some rest => simp [htake _ _ h₁ rfl]
  | none =>
    cases h₂ : afterKeywords? ["WITHOUT", "TIME", "ZONE"] ls with
    | some rest => simp [htake _ _ h₂ rfl]
    | none => simp

/-- No array bracket is closed by a separator. -/
theorem not_brackets_append (hmore : Follows more)
    (h₁ : ∀ rest, ls ≠ .operator "[" :: .operator "]" :: rest)
    (h₂ : ∀ n rest, ls ≠ .operator "[" :: .number n :: .operator "]" :: rest) :
    (∀ rest, ls ++ more ≠ .operator "[" :: .operator "]" :: rest) ∧
      ∀ n rest, ls ++ more ≠ .operator "[" :: .number n :: .operator "]" :: rest := by
  have hopen := hmore.head?_ne (l := .operator "[") (by decide)
  have hclose := hmore.head?_ne (l := .operator "]") (by decide)
  have hnumber := fun n => hmore.head?_ne (number_notMem_separators n)
  match ls with
  | [] => grind
  | [x] => grind
  | [x, y] => grind
  | x :: y :: z :: ls => grind

/-- Array brackets in front of a separator. -/
theorem readBrackets_append (hmore : Follows more) (ls : List Lexeme) :
    readBrackets (ls ++ more) = ((readBrackets ls).1, (readBrackets ls).2 ++ more) := by
  induction ls using readBrackets.induct with
  | case1 ls _ _ h ih => simp_all [readBrackets]
  | case2 n ls _ _ h ih => simp_all [readBrackets]
  | case3 ls h₁ h₂ =>
    obtain ⟨h₃, h₄⟩ := not_brackets_append hmore h₁ h₂
    rw [readBrackets.eq_3 ls h₁ h₂, readBrackets.eq_3 _ h₃ h₄]

/-- Modifiers end with their parenthesis. -/
theorem readModifiers_append (more : List Lexeme) {ms : List Lexeme}
    (h : readModifiers ls = some (ms, rest)) :
    readModifiers (ls ++ more) = some (ms, rest ++ more) := by
  fun_induction readModifiers ls generalizing ms rest <;>
    grind [readModifiers, Option.map_eq_some_iff]

/-! ## Types -/

/-- What `y` is in front of other elements, `x` is alone; or else `y` has taken in some of the other
elements, and a separator comes next. -/
def Local (more : List Lexeme) (x y : Option (List Lexeme × List Lexeme)) : Prop :=
  y = x.map (fun p => (p.1, p.2 ++ more)) ∨
    x = none ∧ ∀ p ∈ y, ∀ l ∈ p.2.head?, l ∈ separators

/-- Without a parenthesis there is no size. -/
theorem readSize_of_not (h : ∀ rest, ls = .lparen :: rest → False) :
    readSize ls = some ([], ls) := by
  cases ls with
  | nil => rfl
  | cons l ls =>
    have hl : l ≠ .lparen := fun heq => h ls (by rw [heq])
    cases l <;> first | rfl | exact absurd rfl hl

/-- A size in front of a separator. -/
theorem readSize_local (hmore : Follows more) (ls : List Lexeme) :
    Local more (readSize ls) (readSize (ls ++ more)) := by
  by_cases hopen : ∃ rest, ls = .lparen :: rest
  · obtain ⟨ls, rfl⟩ := hopen
    match ls with
    | [] =>
      refine .inl ?_
      match more with
      | [] => rfl
      | x :: rest =>
        have hnumber := fun n => hmore.head?_ne (number_notMem_separators n)
        cases x <;> first | rfl | exact absurd rfl (hnumber _)
    | [x] =>
      match more with
      | [] => exact .inl (by simp)
      | y :: rest =>
        by_cases hy : y = .rparen
        · subst hy
          have hseparator := hmore.rparen rest rfl
          cases x with
          | number n => exact .inr ⟨rfl, by simpa [readSize] using hseparator⟩
          | _ => exact .inl rfl
        · refine .inl ?_
          cases x with
          | number n => cases y <;> first | rfl | exact absurd rfl hy
          | _ => rfl
    | x :: y :: ls =>
      refine .inl ?_
      cases x with
      | number n => cases y <;> rfl
      | _ => rfl
  · have hne : ∀ rest, ls = .lparen :: rest → False := fun rest heq => hopen ⟨rest, heq⟩
    rw [readSize_of_not hne, readSize_of_not (not_cons_append hmore (by decide) hne)]
    exact .inl rfl

/-- The elements begin with two numbers between parentheses. -/
def HasScale (ls : List Lexeme) : Prop :=
  ∃ n m rest, ls = .lparen :: .number n :: .comma :: .number m :: .rparen :: rest

/-- Without places there is at most a size. -/
theorem readScale_of_not (h : ¬ HasScale ls) : readScale ls = readSize ls :=
  readScale.eq_2 ls fun n m rest hls => h ⟨n, m, rest, hls⟩

/-- A size with places in front of a separator. -/
theorem readScale_local (hmore : Follows more) (ls : List Lexeme) :
    Local more (readScale ls) (readScale (ls ++ more)) := by
  by_cases hscale : HasScale ls
  · obtain ⟨n, m, rest, rfl⟩ := hscale
    exact .inl rfl
  rw [readScale_of_not hscale]
  by_cases happend : HasScale (ls ++ more)
  · obtain ⟨n, m, rest, hls⟩ := happend
    have hnumber := fun n => hmore.head?_ne (number_notMem_separators n)
    -- Only the closing parenthesis can come from what follows.
    match ls with
    | [] =>
      rw [List.nil_append] at hls
      exact absurd (by rw [hls]; rfl) (hmore.head?_ne (l := .lparen) (by decide))
    | [a] =>
      simp only [List.cons_append, List.nil_append, List.cons.injEq] at hls
      exact absurd (by rw [hls.2]; rfl) (hnumber n)
    | [a, b] =>
      simp only [List.cons_append, List.nil_append, List.cons.injEq] at hls
      obtain ⟨k, s, hs⟩ := hmore.comma _ hls.2.2
      simp at hs
    | [a, b, c] =>
      simp only [List.cons_append, List.nil_append, List.cons.injEq] at hls
      exact absurd (by rw [hls.2.2.2]; rfl) (hnumber m)
    | [a, b, c, d] =>
      simp only [List.cons_append, List.nil_append, List.cons.injEq] at hls
      obtain ⟨rfl, rfl, rfl, rfl, hrparen⟩ := hls
      have hseparator := hmore.rparen rest hrparen
      subst hrparen
      exact .inr ⟨rfl, by simpa [readScale] using hseparator⟩
    | a :: b :: c :: d :: e :: ls =>
      simp only [List.cons_append, List.cons.injEq] at hls
      obtain ⟨rfl, rfl, rfl, rfl, rfl, -⟩ := hls
      exact absurd ⟨n, m, ls, rfl⟩ hscale
  · rw [readScale_of_not happend]
    exact readSize_local hmore ls

/-- The second word of a type in front of a separator. -/
theorem typeExtra_append (hmore : Follows more) (k : String) (ls : List Lexeme) :
    typeExtra k (ls ++ more) = ((typeExtra k ls).1, (typeExtra k ls).2 ++ more) := by
  unfold typeExtra
  split_ifs
  · exact readOptionalWord_append hmore (by decide) ls
  · exact readOptionalWord_append hmore (by decide) ls
  · rfl

/-- The last words of a type in front of a separator. -/
theorem typeTail_append (hmore : Follows more) (k : String) (ls : List Lexeme) :
    typeTail k (ls ++ more) = ((typeTail k ls).1, (typeTail k ls).2 ++ more) := by
  unfold typeTail
  split_ifs
  · exact readZone_append hmore ls
  · exact readOptionalWord_append hmore (by decide) ls
  · rfl

/-- The numbers of a type in front of a separator. -/
theorem typeSize_local (hmore : Follows more) (k : String) (ls : List Lexeme) :
    Local more (typeSize k ls) (typeSize k (ls ++ more)) := by
  unfold typeSize
  split_ifs
  · exact readScale_local hmore ls
  · exact readSize_local hmore ls
  · exact .inl rfl

/-- A separator is none of the last words of a type. -/
theorem typeTail_of_separator (k : String) (h : ∀ l ∈ ls.head?, l ∈ separators) :
    typeTail k ls = ([], ls) := by
  have hwith := afterKeyword?_of_separator h (k := "WITH") (by decide)
  have hwithout := afterKeyword?_of_separator h (k := "WITHOUT") (by decide)
  have hunsigned : readOptionalWord "UNSIGNED" ls = ([], ls) := by
    cases ls with
    | nil => rfl
    | cons l ls =>
      have hl := isKeyword_of_mem_separators (h l rfl) (k := "UNSIGNED") (by decide)
      simp [readOptionalWord, hl]
  unfold typeTail
  split_ifs
  · simp [readZone, afterKeywords?, hwith, hwithout]
  · exact hunsigned
  · rfl

/-- A separator is no array bracket. -/
theorem readBrackets_of_separator (h : ∀ l ∈ ls.head?, l ∈ separators) :
    readBrackets ls = ([], ls) := by
  have hopen : ls.head? ≠ some (.operator "[") := fun h' => absurd (h _ h') (by decide)
  refine readBrackets.eq_3 ls ?_ ?_
  · rintro rest rfl
    exact hopen rfl
  · rintro n rest rfl
    exact hopen rfl

/-- A known type in front of a separator. -/
theorem readKnownType_local (hmore : Follows more) (w : String) (ls : List Lexeme) :
    Local more (readKnownType w ls) (readKnownType w (ls ++ more)) := by
  rw [readKnownType_eq, readKnownType_eq, typeExtra_append hmore]
  rcases typeSize_local hmore (Text.uppercase w) (typeExtra (Text.uppercase w) ls).2 with
    h | ⟨hnone, h⟩
  · refine .inl ?_
    rw [h]
    cases typeSize (Text.uppercase w) (typeExtra (Text.uppercase w) ls).2 with
    | none => rfl
    | some p => simp [typeTail_append hmore, readBrackets_append hmore]
  · refine .inr ⟨by rw [hnone]; rfl, fun p hp => ?_⟩
    obtain ⟨q, hq, rfl⟩ := Option.map_eq_some_iff.1 hp
    have hseparator := h q hq
    rw [typeTail_of_separator _ hseparator, readBrackets_of_separator hseparator]
    exact hseparator

/-- A type of another name in front of a separator. -/
theorem readOtherType_append (hmore : Follows more) {type : List Lexeme}
    (h : readOtherType l ls = some (type, rest)) :
    readOtherType l (ls ++ more) = some (type, rest ++ more) := by
  simp only [readOtherType, Option.bind_eq_bind, Option.bind_eq_some_iff, Prod.exists] at h
  obtain ⟨parts, ls₁, hparts, h⟩ := h
  have hparts' := readNameTail_append hmore hparts
  split at h
  case h_1 ls₂ =>
    obtain ⟨p, hmap, h⟩ := Option.bind_eq_some_iff.1 h
    obtain ⟨⟨ms, ls₃⟩, hms, rfl⟩ := Option.map_eq_some_iff.1 hmap
    obtain ⟨rfl, rfl⟩ := Prod.mk.inj (Option.some.inj h)
    have hms' := readModifiers_append more hms
    simp [readOtherType, hparts', hms', readBrackets_append hmore]
  case h_2 hne =>
    obtain ⟨rfl, rfl⟩ := Prod.mk.inj (Option.some.inj h)
    simp only [readOtherType, hparts', Option.bind_eq_bind, Option.bind_some]
    split
    case h_1 heq => exact absurd heq (not_cons_append hmore (by decide) hne _)
    case h_2 => simp [readBrackets_append hmore]

/-- A type in front of a separator. -/
theorem readType_append (hmore : Follows more) {type : List Lexeme}
    (h : readType ls = some (type, rest)) :
    readType (ls ++ more) = some (type, rest ++ more) := by
  unfold readType at h
  split at h
  case h_1 w ls =>
    simp only [List.cons_append, readType]
    split_ifs at h ⊢
    · rcases readKnownType_local hmore w ls with h' | ⟨h', -⟩
      · rw [h', h]
        rfl
      · rw [h'] at h
        cases h
    · exact readOtherType_append hmore h
  case h_2 q s ls => exact readOtherType_append hmore h
  case h_3 => cases h

/-! ## Literals of a named type -/

/-- The literal of a type, if a string literal follows the type. -/
def typedLiteral : List Lexeme × List Lexeme → Option (Term × List Lexeme)
  | (type, .string kind s :: rest) =>
    if kind.toLower ∈ ["", "e"] then some (.typed type (.string kind s), rest) else none
  | _ => none

/-- A literal of a named type is a type and a string literal. -/
theorem readTyped_word (w : String) (ls : List Lexeme) :
    readTyped (.word w :: ls) =
      if isKnownType (Text.uppercase w) then (readKnownType w ls).bind typedLiteral else none := by
  rw [readTyped]
  split_ifs
  · cases readKnownType w ls with
    | none => rfl
    | some p =>
      obtain ⟨type, ls⟩ := p
      match ls with
      | [] => rfl
      | l :: ls => cases l <;> rfl
  · rfl

/-- The literal of a type in front of a separator. -/
theorem typedLiteral_append (hmore : Follows more) (p : List Lexeme × List Lexeme) :
    typedLiteral (p.1, p.2 ++ more) = (typedLiteral p).map fun p => (p.1, p.2 ++ more) := by
  have hstring := fun k s => hmore.head?_ne (string_notMem_separators k s)
  obtain ⟨type, ls⟩ := p
  match ls with
  | [] =>
    match more with
    | [] => rfl
    | l :: _ => cases l <;> first | rfl | exact absurd rfl (hstring _ _)
  | l :: ls =>
    cases l with
    | string kind s =>
      simp only [List.cons_append, typedLiteral]
      split_ifs <;> rfl
    | _ => rfl

/-- A separator is no literal of a type. -/
theorem typedLiteral_of_separator {p : List Lexeme × List Lexeme}
    (h : ∀ l ∈ p.2.head?, l ∈ separators) : typedLiteral p = none := by
  obtain ⟨type, ls⟩ := p
  match ls with
  | [] => rfl
  | l :: ls =>
    have hl := h l rfl
    cases l <;> first | rfl | exact absurd hl (string_notMem_separators _ _)

/-- A literal of a named type in front of a separator. -/
theorem readTyped_append (hmore : Follows more) (hls : ls ≠ []) :
    readTyped (ls ++ more) = (readTyped ls).map fun p => (p.1, p.2 ++ more) := by
  obtain ⟨l, ls, rfl⟩ := List.exists_cons_of_ne_nil hls
  cases l with
  | word w =>
    rw [List.cons_append, readTyped_word, readTyped_word]
    split_ifs
    · rcases readKnownType_local hmore w ls with h | ⟨hnone, hseparator⟩
      · rw [h]
        cases readKnownType w ls with
        | none => rfl
        | some p => exact typedLiteral_append hmore p
      · rw [hnone]
        cases h : readKnownType w (ls ++ more) with
        | none => rfl
        | some p => exact typedLiteral_of_separator (hseparator p h)
    · rfl
  | _ => rfl

end MetricLayer.Term
