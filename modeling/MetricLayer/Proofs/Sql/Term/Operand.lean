import MetricLayer.Proofs.Sql.Term.Separator

/-!
# Operands in front of other text

`Extends` compares a reader with one that may read deeper: what the first makes of some elements,
the second makes of them in front of others, if the term is plain and closes at the level of what
follows. Given readers of expressions that do so, the readers of operands do so, too:
`readPrimary_append`. Inside an operand it is enough that something comes next, which the reader of
the operand takes in itself (`Inner`).
-/

namespace MetricLayer.Term

variable {more ls rest : List Lexeme} {l : Lexeme} {k : String} {t u : Term}

/-! ## What is left -/

/-- Only the word `NOT` is left, which is a part of the operator if one follows. -/
def Dangling (ls : List Lexeme) : Prop :=
  ∃ l, ls = [l] ∧ l.isKeyword "NOT" = true

/-- Something is left that does not begin with `NOT`. -/
def Inner (ls : List Lexeme) : Prop :=
  ∃ l rest, ls = l :: rest ∧ l.isKeyword "NOT" = false

/-- A term that leaves some elements takes in nothing of what follows them. -/
def Ends (more : List Lexeme) (t : Term) (rest : List Lexeme) : Prop :=
  ¬ Dangling rest ∧ (rest = [] → t.closes (levelOf more) = true)

/-- What does not begin with `NOT` is not `NOT` alone. -/
theorem Inner.not_dangling (h : Inner rest) : ¬ Dangling rest := by
  obtain ⟨l, ls, rfl, hl⟩ := h
  rintro ⟨l', ⟨⟩, hl'⟩
  rw [hl] at hl'
  cases hl'

/-- What has a first element is not empty. -/
theorem Inner.ne_nil (h : Inner rest) : rest ≠ [] := by
  obtain ⟨l, ls, rfl, -⟩ := h
  exact List.cons_ne_nil l ls

/-- A term that leaves something takes in nothing of what follows that. -/
theorem Inner.ends (h : Inner rest) : Ends more t rest :=
  ⟨h.not_dangling, fun h' => absurd h' h.ne_nil⟩

/-- A keyword is left. -/
theorem inner_of_afterKeyword? (h : afterKeyword? k ls = some rest) (hk : k ≠ "NOT") :
    Inner ls := by
  obtain ⟨l, rfl, hl⟩ := afterKeyword?_eq_some h
  refine ⟨l, rest, rfl, ?_⟩
  cases l with
  | word w =>
    have hw : Text.uppercase w = k := by simpa [Lexeme.isKeyword] using hl
    simpa [Lexeme.isKeyword, hw] using hk
  | _ => rfl

/-- A closing parenthesis is left. -/
theorem inner_rparen : Inner (.rparen :: rest) :=
  ⟨_, _, rfl, rfl⟩

/-- A comma is left. -/
theorem inner_comma : Inner (.comma :: rest) :=
  ⟨_, _, rfl, rfl⟩

/-- A reader reads in front of some elements what another one reads without them. -/
structure Extends (more : List Lexeme) (read read' : OperandReader) : Prop where
  /-- What is read has at least one element. -/
  consumes : Consumes read
  /-- What takes in nothing of the elements is read in front of them. -/
  append : ∀ {min ls t rest}, read min ls = some (t, rest) → t.plain → Ends more t rest →
    (rest = [] → levelOf more ≤ min) → read' min (ls ++ more) = some (t, rest ++ more)

namespace Extends

variable {read read' : OperandReader} {min : Nat} (hread : Extends more read read')

include hread

/-- What leaves something is read in front of other elements. -/
theorem inner (h : read min ls = some (t, rest)) (ht : t.plain) (hrest : Inner rest) :
    read' min (ls ++ more) = some (t, rest ++ more) :=
  hread.append h ht hrest.ends fun h' => absurd h' hrest.ne_nil

/-- The last part of a term is read in front of other elements, if it closes where the term does. -/
theorem last (h : read min ls = some (u, rest)) (hu : u.plain) (hrest : Ends more t rest)
    (hclose : t.closes (levelOf more) = true →
      levelOf more ≤ min ∧ u.closes (levelOf more) = true) :
    read' min (ls ++ more) = some (u, rest ++ more) :=
  hread.append h hu ⟨hrest.1, fun h => (hclose (hrest.2 h)).2⟩ fun h => (hclose (hrest.2 h)).1

/-- Nothing is not an expression. -/
theorem nil : read min [] = none := by
  cases h : read min [] with
  | none => rfl
  | some p => exact absurd (hread.consumes _ _ _ h).length (Nat.not_lt_zero _)

end Extends

/-! ## Lists -/

/-- What is read between parentheses is read so in front of other elements. -/
theorem readParenthesized_append {α : Type} {inner inner' : TermReader α} {x : α}
    (hinner : ∀ {ls rest}, inner ls = some (x, rest) → Inner rest →
      inner' (ls ++ more) = some (x, rest ++ more))
    (h : readParenthesized inner ls = some (x, rest)) :
    readParenthesized inner' (ls ++ more) = some (x, rest ++ more) := by
  unfold readParenthesized at h
  split at h
  case h_1 ls =>
    split at h
    case h_1 y rest' hls =>
      obtain ⟨rfl, rfl⟩ := Prod.mk.inj (Option.some.inj h)
      have happend := hinner hls inner_rparen
      simp [readParenthesized, happend]
    case h_2 => cases h
  case h_2 => cases h

/-- Items are read in front of other elements, and at most as many. -/
theorem readListUpTo_append {item item' : TermReader Term}
    (hitem : ∀ {ls t rest}, item ls = some (t, rest) → t.plain → Inner rest →
      item' (ls ++ more) = some (t, rest ++ more)) {n m : Nat} (hnm : n ≤ m) {ts : List Term}
    (h : readListUpTo item n ls = some (ts, rest)) (hts : plainList ts) (hrest : Inner rest) :
    readListUpTo item' m (ls ++ more) = some (ts, rest ++ more) := by
  induction n generalizing ls ts m with
  | zero => cases h
  | succ n ih =>
    obtain ⟨m, rfl⟩ : ∃ m', m = m' + 1 := ⟨m - 1, by omega⟩
    rw [readListUpTo] at h
    split at h
    case h_1 t ls₁ ht =>
      obtain ⟨⟨us, rest'⟩, hus, h⟩ := Option.map_eq_some_iff.1 h
      obtain ⟨rfl, rfl⟩ := Prod.mk.inj h
      simp only [plainList, Bool.and_eq_true] at hts
      have hhead := hitem ht hts.1 inner_comma
      have htail := ih (Nat.le_of_succ_le_succ hnm) hus hts.2
      simp [readListUpTo, hhead, htail]
    case h_2 t ls₁ hne ht =>
      obtain ⟨rfl, rfl⟩ := Prod.mk.inj (Option.some.inj h)
      simp only [plainList, Bool.and_eq_true] at hts
      have hhead := hitem ht hts.1 hrest
      obtain ⟨l, ls₁, rfl, -⟩ := hrest
      have hl : l ≠ .comma := fun heq => hne ls₁ (by rw [heq])
      cases l <;> first | exact absurd rfl hl | simp [readListUpTo, hhead]
    case h_3 => cases h

/-- A list is read in front of other elements. -/
theorem readList_append {item item' : TermReader Term}
    (hitem : ∀ {ls t rest}, item ls = some (t, rest) → t.plain → Inner rest →
      item' (ls ++ more) = some (t, rest ++ more)) {ts : List Term}
    (h : readList item ls = some (ts, rest)) (hts : plainList ts) (hrest : Inner rest) :
    readList item' (ls ++ more) = some (ts, rest ++ more) := by
  have hlength : ls.length + 1 ≤ (ls ++ more).length + 1 := by simp
  exact readListUpTo_append hitem hlength h hts hrest

section

variable {read read' : OperandReader} (hmore : Follows more) (hread : Extends more read read')

include hread

/-- Expressions in parentheses are read in front of other elements. -/
theorem readItems_append {ts : List Term}
    (h : readParenthesized (readList (read 0)) ls = some (ts, rest)) (hts : plainList ts) :
    readParenthesized (readList (read' 0)) (ls ++ more) = some (ts, rest ++ more) := by
  refine readParenthesized_append (fun h hrest => readList_append ?_ h hts hrest) h
  exact fun h ht hrest => hread.inner h ht hrest

include hmore

/-! ## Names and calls -/

/-- An argument is read in front of other elements. -/
theorem readArgument_append (h : readArgument read ls = some (t, rest)) (ht : t.plain)
    (hrest : Inner rest) : readArgument read' (ls ++ more) = some (t, rest ++ more) := by
  have hstar := readQualifiedStar_append hmore ls
  unfold readArgument at h
  split at h
  case h_1 ls =>
    obtain ⟨rfl, rfl⟩ := Prod.mk.inj (Option.some.inj h)
    rfl
  case h_2 hne =>
    rw [readArgument.eq_2 read' _ (not_cons_append hmore (by decide) hne), hstar]
    split at h
    case h_1 parts ls₁ hq =>
      obtain ⟨rfl, rfl⟩ := Prod.mk.inj (Option.some.inj h)
      simp [hq]
    case h_2 hq =>
      have happend := hread.inner h ht hrest
      simpa [hq] using happend

omit hread in
/-- A word before arguments is read in front of other elements. -/
theorem readQuantifier_append (ls : List Lexeme) :
    readQuantifier (ls ++ more) = ((readQuantifier ls).1, (readQuantifier ls).2 ++ more) := by
  unfold readQuantifier
  rw [afterKeyword?_append hmore (by decide), afterKeyword?_append hmore (by decide)]
  cases afterKeyword? "DISTINCT" ls <;> cases afterKeyword? "ALL" ls <;> rfl

/-- Arguments are read in front of other elements. -/
theorem readArguments_append {x : Option String × List Term}
    (h : readArguments read ls = some (x, rest)) (hx : plainList x.2) (hrest : Inner rest) :
    readArguments read' (ls ++ more) = some (x, rest ++ more) := by
  have hls : ls ≠ [] := by
    rintro rfl
    have hlist : readList (readArgument read) [] = none := by
      simp [readList, readListUpTo, readArgument, readQualifiedStar, hread.nil]
    simp [readArguments, readQuantifier, afterKeyword?, hlist] at h
  unfold readArguments at h
  split at h
  case h_1 ls =>
    obtain ⟨rfl, rfl⟩ := Prod.mk.inj (Option.some.inj h)
    rfl
  case h_2 hne =>
    rw [readArguments.eq_2 _ _ (not_cons_append_of_ne_nil hls hne), readQuantifier_append hmore]
    cases hquantifier : readQuantifier ls with
    | mk quantifier ls₁ =>
      rw [hquantifier] at h
      obtain ⟨⟨args, ls₂⟩, hargs, h⟩ := Option.map_eq_some_iff.1 h
      obtain ⟨rfl, rfl⟩ := Prod.mk.inj h
      have happend := readList_append
        (fun h ht hrest => readArgument_append hmore hread h ht hrest) hargs hx hrest
      simp [happend]

/-- The arguments of a call are read in front of other elements. -/
theorem readCallArguments_append {x : Option String × List Term}
    (h : readParenthesized (readArguments read) ls = some (x, rest)) (hx : plainList x.2) :
    readParenthesized (readArguments read') (ls ++ more) = some (x, rest ++ more) :=
  readParenthesized_append (fun h hrest => readArguments_append hmore hread h hx hrest) h

/-- A name or a call is read in front of other elements. -/
theorem readName_append (h : readName read l ls = some (t, rest)) (ht : t.plain) :
    readName read' l (ls ++ more) = some (t, rest ++ more) := by
  simp only [readName, Option.bind_eq_bind, Option.bind_eq_some_iff, Prod.exists] at h
  obtain ⟨parts, ls₁, hparts, h⟩ := h
  have hparts' := readNameTail_append hmore hparts
  split at h
  case h_1 ls₂ =>
    obtain ⟨⟨⟨quantifier, args⟩, ls₃⟩, hargs, h⟩ := Option.bind_eq_some_iff.1 h
    obtain ⟨rfl, rfl⟩ := Prod.mk.inj (Option.some.inj h)
    simp only [plain, Bool.and_eq_true] at ht
    have hargs' := readCallArguments_append hmore hread hargs ht.2
    simp only [List.cons_append] at hargs' hparts'
    simp [readName, hparts', hargs']
  case h_2 hne =>
    obtain ⟨rfl, rfl⟩ := Prod.mk.inj (Option.some.inj h)
    simp only [readName, hparts', Option.bind_eq_bind, Option.bind_some]
    split
    case h_1 ls₂ heq => exact absurd heq (not_cons_append hmore (by decide) hne _)
    case h_2 => rfl

/-! ## Forms -/

/-- Branches are read in front of other elements, and at most as many. -/
theorem readBranches_append {n m : Nat} (hnm : n ≤ m) {bs : List (Term × Term)}
    (h : readBranches read n ls = some (bs, rest)) (hbs : plainBranches bs) (hrest : Inner rest) :
    readBranches read' m (ls ++ more) = some (bs, rest ++ more) := by
  induction n generalizing ls bs m with
  | zero => cases h
  | succ n ih =>
    obtain ⟨m, rfl⟩ : ∃ m', m = m' + 1 := ⟨m - 1, by omega⟩
    simp only [readBranches, Option.bind_eq_bind, Option.bind_eq_some_iff, Prod.exists] at h
    obtain ⟨c, ls₁, hc, ls₂, hthen, u, ls₃, hu, h⟩ := h
    have hthen' := afterKeyword?_append_of_some more hthen
    have hinner := inner_of_afterKeyword? hthen (by decide)
    have hwhen := afterKeyword?_append hmore (k := "WHEN") (by decide) ls₃
    split at h
    case h_1 ls₄ hk =>
      obtain ⟨⟨cs, ls₅⟩, hcs, h⟩ := Option.bind_eq_some_iff.1 h
      obtain ⟨rfl, rfl⟩ := Prod.mk.inj (Option.some.inj h)
      simp only [plainBranches, Bool.and_eq_true] at hbs
      have hc' := hread.inner hc hbs.1 hinner
      have hu' := hread.inner hu hbs.2.1 (inner_of_afterKeyword? hk (by decide))
      have hcs' := ih (Nat.le_of_succ_le_succ hnm) hcs hbs.2.2
      simp [readBranches, hc', hthen', hu', hwhen, hk, hcs']
    case h_2 hk =>
      obtain ⟨rfl, rfl⟩ := Prod.mk.inj (Option.some.inj h)
      simp only [plainBranches, Bool.and_eq_true] at hbs
      have hc' := hread.inner hc hbs.1 hinner
      have hu' := hread.inner hu hbs.2.1 hrest
      simp [readBranches, hc', hthen', hu', hwhen, hk]

/-- The subject of a choice is read in front of other elements. -/
theorem readSubject_append {o : Option Term} (h : readSubject read ls = some (o, rest))
    (ho : plainOption o) : readSubject read' (ls ++ more) = some (o, rest ++ more) := by
  have hwhen := afterKeyword?_append hmore (k := "WHEN") (by decide) ls
  unfold readSubject at h ⊢
  rw [hwhen]
  split at h
  case h_1 ls₁ hk =>
    obtain ⟨rfl, rfl⟩ := Prod.mk.inj (Option.some.inj h)
    simp [hk]
  case h_2 hk =>
    simp only [Option.bind_eq_bind, Option.bind_eq_some_iff, Prod.exists] at h
    obtain ⟨u, ls₁, hu, ls₂, hk', h⟩ := h
    obtain ⟨rfl, rfl⟩ := Prod.mk.inj (Option.some.inj h)
    have hu' := hread.inner hu ho (inner_of_afterKeyword? hk' (by decide))
    have hk'' := afterKeyword?_append_of_some more hk'
    simp [hk, hu', hk'']

/-- The result without a branch is read in front of other elements. -/
theorem readElse_append {o : Option Term} (h : readElse read ls = some (o, rest))
    (ho : plainOption o) (hrest : Inner rest) :
    readElse read' (ls ++ more) = some (o, rest ++ more) := by
  have helse := afterKeyword?_append hmore (k := "ELSE") (by decide) ls
  unfold readElse at h ⊢
  rw [helse]
  split at h
  case h_1 ls₁ hk =>
    obtain ⟨⟨u, ls₂⟩, hu, h⟩ := Option.map_eq_some_iff.1 h
    obtain ⟨rfl, rfl⟩ := Prod.mk.inj h
    have hu' := hread.inner hu ho hrest
    simp [hk, hu']
  case h_2 hk =>
    obtain ⟨rfl, rfl⟩ := Prod.mk.inj (Option.some.inj h)
    simp [hk]

omit hmore hread in
/-- Before the result without a branch, or without it, something is left. -/
theorem inner_of_readElse {o : Option Term} (h : readElse read ls = some (o, rest))
    (hrest : Inner rest) : Inner ls := by
  unfold readElse at h
  split at h
  case h_1 hk => exact inner_of_afterKeyword? hk (by decide)
  case h_2 =>
    obtain ⟨-, rfl⟩ := Prod.mk.inj (Option.some.inj h)
    exact hrest

/-- A choice is read in front of other elements. -/
theorem readChoice_append (h : readChoice read ls = some (t, rest)) (ht : t.plain) :
    readChoice read' (ls ++ more) = some (t, rest ++ more) := by
  simp only [readChoice, Option.bind_eq_bind, Option.bind_eq_some_iff, Prod.exists] at h
  obtain ⟨s, ls₁, hs, bs, ls₂, hbs, o, ls₃, ho, ls₄, hend, h⟩ := h
  obtain ⟨rfl, rfl⟩ := Prod.mk.inj (Option.some.inj h)
  simp only [plain, Bool.and_eq_true] at ht
  have hinner := inner_of_afterKeyword? hend (by decide)
  have hlength : ls₁.length + 1 ≤ (ls₁ ++ more).length + 1 := by simp
  have hs' := readSubject_append hmore hread hs ht.1
  have hbs' := readBranches_append hmore hread hlength hbs ht.2.1 (inner_of_readElse ho hinner)
  have ho' := readElse_append hmore hread ho ht.2.2 hinner
  have hend' := afterKeyword?_append_of_some more hend
  simp only [readChoice, hs', hbs', ho', hend', Option.bind_eq_bind, Option.bind_some]

/-- A conversion is read in front of other elements. -/
theorem readCast_append (h : readCast read ls = some (t, rest)) (ht : t.plain) :
    readCast read' (ls ++ more) = some (t, rest ++ more) := by
  simp only [readCast, Option.bind_eq_bind, Option.bind_eq_some_iff, Prod.exists] at h
  obtain ⟨u, ls₁, hu, ls₂, has, type, ls₃, htype, h⟩ := h
  obtain ⟨rfl, rfl⟩ := Prod.mk.inj (Option.some.inj h)
  have hu' := hread.inner hu ht (inner_of_afterKeyword? has (by decide))
  have has' := afterKeyword?_append_of_some more has
  have htype' := readType_append hmore htype
  simp [readCast, hu', has', htype']

omit hmore in
/-- An extraction is read in front of other elements. -/
theorem readExtract_append (h : readExtract read ls = some (t, rest)) (ht : t.plain)
    (hrest : Inner rest) : readExtract read' (ls ++ more) = some (t, rest ++ more) := by
  unfold readExtract at h
  split at h
  case h_1 w ls =>
    simp only [Option.bind_eq_bind, Option.bind_eq_some_iff, Prod.exists] at h
    obtain ⟨ls₁, hfrom, u, ls₂, hu, h⟩ := h
    obtain ⟨rfl, rfl⟩ := Prod.mk.inj (Option.some.inj h)
    have hu' := hread.inner hu ht hrest
    have hfrom' := afterKeyword?_append_of_some more hfrom
    simp [readExtract, hu', hfrom']
  case h_2 => cases h

omit hread in
/-- A separator is not the unit of a duration. -/
theorem notMem_durationUnits {w : String} {rest : List Lexeme} (h : more = .word w :: rest) :
    Text.uppercase w ∉ durationUnits := by
  have hunits : ∀ l ∈ separators, ∀ k ∈ durationUnits, l.isKeyword k = false := by decide +kernel
  intro hw
  have hword := hunits (.word w) (hmore.head _ (by rw [h]; rfl)) _ hw
  simp [Lexeme.isKeyword] at hword

/-- A duration is read in front of other elements. -/
theorem readInterval_append (h : readInterval read ls = some (t, rest)) (ht : t.plain)
    (hrest : Ends more t rest) : readInterval read' (ls ++ more) = some (t, rest ++ more) := by
  simp only [readInterval, Option.bind_eq_bind, Option.bind_eq_some_iff, Prod.exists] at h
  obtain ⟨u, ls₁, hu, h⟩ := h
  split at h
  case h_1 w ls₂ =>
    split at h
    case isTrue hw =>
      obtain ⟨rfl, rfl⟩ := Prod.mk.inj (Option.some.inj h)
      have hnot : Text.uppercase w ≠ "NOT" := fun heq => absurd (heq ▸ hw) (by decide)
      have hinner : Inner (.word w :: ls₂) := ⟨_, _, rfl, by simpa [Lexeme.isKeyword] using hnot⟩
      have hu' := hread.inner hu ht hinner
      simp [readInterval, hu', hw]
    case isFalse hw =>
      obtain ⟨rfl, rfl⟩ := Prod.mk.inj (Option.some.inj h)
      have hu' := hread.append hu ht hrest fun h => absurd h (List.cons_ne_nil _ _)
      simp [readInterval, hu', hw]
  case h_2 hne =>
    obtain ⟨rfl, rfl⟩ := Prod.mk.inj (Option.some.inj h)
    have hu' := hread.append hu ht hrest fun _ => levelOf_le more
    simp only [readInterval, hu', Option.bind_eq_bind, Option.bind_some]
    -- Without a unit none is found in what follows.
    split
    case h_1 w ls₂ heq =>
      have hw : Text.uppercase w ∉ durationUnits := by
        cases ls₁ with
        | nil => exact notMem_durationUnits hmore heq
        | cons l ls₁ => exact (hne w ls₁ (by rw [(List.cons.inj heq).1])).elim
      rw [if_neg hw]
    case h_2 => rfl

/-- A word that can be called is read in front of other elements. -/
theorem readOptionalCall_append (h : readOptionalCall read l ls = some (t, rest)) (ht : t.plain) :
    readOptionalCall read' l (ls ++ more) = some (t, rest ++ more) := by
  unfold readOptionalCall at h
  split at h
  case h_1 ls =>
    obtain ⟨⟨⟨quantifier, args⟩, ls₁⟩, hargs, h⟩ := Option.map_eq_some_iff.1 h
    obtain ⟨rfl, rfl⟩ := Prod.mk.inj h
    simp only [plain, Bool.and_eq_true] at ht
    have hargs' := readCallArguments_append hmore hread hargs ht.2
    simp only [List.cons_append] at hargs'
    simp [readOptionalCall, hargs']
  case h_2 hne =>
    obtain ⟨rfl, rfl⟩ := Prod.mk.inj (Option.some.inj h)
    rw [readOptionalCall.eq_2 _ _ _ (not_cons_append hmore (by decide) hne)]

/-- A form is read in front of other elements. -/
theorem readForm_append {w : String} (h : readForm read k w ls = some (t, rest)) (ht : t.plain)
    (hrest : Ends more t rest) : readForm read' k w (ls ++ more) = some (t, rest ++ more) := by
  unfold readForm at h ⊢
  split_ifs at h ⊢ with hliteral hname hcall hcase hcast hextract hinterval hnot
  · obtain ⟨rfl, rfl⟩ := Prod.mk.inj (Option.some.inj h)
    rfl
  · obtain ⟨rfl, rfl⟩ := Prod.mk.inj (Option.some.inj h)
    rfl
  · exact readOptionalCall_append hmore hread h ht
  · exact readChoice_append hmore hread h ht
  · exact readParenthesized_append (fun h _ => readCast_append hmore hread h ht) h
  · exact readParenthesized_append (fun h hrest => readExtract_append hread h ht hrest) h
  · exact readInterval_append hmore hread h ht hrest
  · obtain ⟨⟨u, ls₁⟩, hu, h⟩ := Option.map_eq_some_iff.1 h
    obtain ⟨rfl, rfl⟩ := Prod.mk.inj h
    have hu' := hread.last hu ht hrest fun h => by simpa [closes, prefixLevel] using h
    simp [hu']

/-! ## Operands -/

omit hmore hread in
/-- A plain name or call does not begin with a word that begins a form. -/
theorem notMem_formWords_of_readName {w : String}
    (h : readName read (.word w) ls = some (t, rest)) (ht : t.plain) :
    Text.uppercase w ∉ formWords := by
  simp only [readName, Option.bind_eq_bind, Option.bind_eq_some_iff, Prod.exists] at h
  obtain ⟨parts, ls₁, -, h⟩ := h
  split at h
  case h_1 ls₂ =>
    obtain ⟨⟨⟨quantifier, args⟩, ls₃⟩, -, h⟩ := Option.bind_eq_some_iff.1 h
    obtain ⟨rfl, rfl⟩ := Prod.mk.inj (Option.some.inj h)
    simp only [plain, isPlainName, Bool.and_eq_true, decide_eq_true_eq] at ht
    exact ht.1
  case h_2 hne =>
    obtain ⟨rfl, rfl⟩ := Prod.mk.inj (Option.some.inj h)
    simpa [plain, isPlainName] using ht

omit hmore hread in
/-- A word that can be called, but whose arguments cannot be read, is no name either. -/
theorem readName_of_readOptionalCall (h : readOptionalCall read l ls = none) :
    readName read l ls = none := by
  unfold readOptionalCall at h
  split at h
  case h_1 ls =>
    rw [Option.map_eq_none_iff] at h
    have hparts : readNameTail (.lparen :: ls) = some ([], .lparen :: ls) := rfl
    simp [readName, hparts, h]
  case h_2 => cases h

omit hmore hread in
/-- What begins a form only if it has no arguments that cannot be read. -/
theorem readForm_eq_none_iff {w : String} (hform : k ∉ formWords) (hreserved : k ∉ reservedWords) :
    readForm read k w ls = none ↔ k ∉ ["TRUE", "FALSE", "NULL"] ∧
      k ∉ ["CURRENT_CATALOG", "CURRENT_USER", "SESSION_USER", "USER"] ∧
      (k ∈ ["CURRENT_TIMESTAMP", "CURRENT_TIME", "CURRENT_DATE", "LOCALTIME",
        "LOCALTIMESTAMP"] → readOptionalCall read (.word w) ls = none) := by
  simp only [formWords, reservedWords, List.mem_cons, not_or, List.not_mem_nil, not_false_eq_true,
    and_true] at hform hreserved
  unfold readForm
  split_ifs <;> simp_all

/-- The operand that a word begins is read in front of other elements. -/
theorem readWordOperand_append {w : String} (h : readWordOperand read w ls = some (t, rest))
    (ht : t.plain) (hrest : Ends more t rest) :
    readWordOperand read' w (ls ++ more) = some (t, rest ++ more) := by
  unfold readWordOperand at h ⊢
  dsimp only at h ⊢
  split at h
  case h_1 r hr =>
    obtain rfl := Option.some.inj h
    rw [readForm_append hmore hread hr ht hrest]
  case h_2 hform =>
    split at h
    case isTrue => cases h
    case isFalse hk =>
      have hname := readName_append hmore hread h ht
      have hplain := notMem_formWords_of_readName h ht
      -- The word begins no form in front of other elements either, since it is no form word.
      have hnone : readForm read' (Text.uppercase w) w (ls ++ more) = none := by
        obtain ⟨hliteral, hnamed, hcall⟩ := (readForm_eq_none_iff hplain hk).1 hform
        refine (readForm_eq_none_iff hplain hk).2 ⟨hliteral, hnamed, fun hw => ?_⟩
        rw [readName_of_readOptionalCall (hcall hw)] at h
        cases h
      rw [hnone, hname]
      simp [hk]

/-- Expressions in parentheses are read as an operand in front of other elements. -/
theorem readGroup_append (h : readGroup read ls = some (t, rest)) (ht : t.plain) :
    readGroup read' (ls ++ more) = some (t, rest ++ more) := by
  simp only [readGroup, Option.bind_eq_bind, Option.bind_eq_some_iff, Prod.exists] at h
  obtain ⟨items, ls₁, hitems, h⟩ := h
  have hitems' : plainList items →
      readParenthesized (readList (read' 0)) (ls ++ more) = some (items, ls₁ ++ more) :=
    readItems_append hread hitems
  split at h
  case h_1 w ls₂ =>
    obtain ⟨rfl, rfl⟩ := Prod.mk.inj (Option.some.inj h)
    simp [readGroup, hitems' ht]
  case h_2 q s ls₂ =>
    obtain ⟨rfl, rfl⟩ := Prod.mk.inj (Option.some.inj h)
    simp [readGroup, hitems' ht]
  case h_3 => cases h
  case h_4 hne =>
    obtain ⟨rfl, rfl⟩ := Prod.mk.inj (Option.some.inj h)
    have hne' := not_cons_append hmore (by decide) hne
    simp only [readGroup, hitems' ht, Option.bind_eq_bind, Option.bind_some]
    split
    case h_1 heq => exact absurd heq (hne' _)
    case h_2 heq => exact absurd heq (hne' _)
    case h_3 heq => exact absurd heq (hne' _)
    case h_4 => rfl

/-- An operand is read in front of other elements. -/
theorem readPrimary_append (h : readPrimary read ls = some (t, rest)) (ht : t.plain)
    (hrest : Ends more t rest) : readPrimary read' (ls ++ more) = some (t, rest ++ more) := by
  have hls : ls ≠ [] := by
    rintro rfl
    cases h
  have htyped := readTyped_append hmore hls
  unfold readPrimary at h ⊢
  rw [htyped]
  split at h
  case h_1 r hr =>
    obtain rfl := Option.some.inj h
    simp [hr]
  case h_2 hr =>
    rw [hr]
    dsimp only [Option.map_none]
    split at h
    case h_1 w ls => exact readWordOperand_append hmore hread h ht hrest
    case h_2 q s ls => exact readName_append hmore hread h ht
    case h_3 n ls =>
      obtain ⟨rfl, rfl⟩ := Prod.mk.inj (Option.some.inj h)
      rfl
    case h_4 k s ls =>
      obtain ⟨rfl, rfl⟩ := Prod.mk.inj (Option.some.inj h)
      rfl
    case h_5 p ls =>
      obtain ⟨rfl, rfl⟩ := Prod.mk.inj (Option.some.inj h)
      rfl
    case h_6 op ls =>
      split at h
      case isTrue hop =>
        obtain ⟨⟨u, ls₁⟩, hu, h⟩ := Option.map_eq_some_iff.1 h
        obtain ⟨rfl, rfl⟩ := Prod.mk.inj h
        have hu' := hread.last hu ht hrest fun h => by
          rcases hop with rfl | rfl <;> simpa [closes, prefixLevel] using h
        simp [hu', hop]
      case isFalse => cases h
    case h_7 ls => exact readGroup_append hmore hread h ht
    case h_8 => cases h

omit hread in
/-- A collation is read in front of other elements. -/
theorem readCollation_append (h : readCollation u ls = some (t, rest)) :
    readCollation u (ls ++ more) = some (t, rest ++ more) := by
  have hcollate := afterKeyword?_append hmore (k := "COLLATE") (by decide) ls
  unfold readCollation at h ⊢
  rw [hcollate]
  split at h
  case h_1 l ls₁ hk =>
    split at h
    case isTrue hl =>
      obtain ⟨⟨parts, ls₂⟩, hparts, h⟩ := Option.map_eq_some_iff.1 h
      obtain ⟨rfl, rfl⟩ := Prod.mk.inj h
      simp [hk, hl, readNameTail_append hmore hparts]
    case isFalse => cases h
  case h_2 => cases h
  case h_3 hk =>
    obtain ⟨rfl, rfl⟩ := Prod.mk.inj (Option.some.inj h)
    simp [hk]

end

end MetricLayer.Term
