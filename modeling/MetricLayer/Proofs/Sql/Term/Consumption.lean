import Mathlib.Tactic.SplitIfs
import MetricLayer.Sql.Term.Reader

/-!
# What the readers of terms take

A reader takes elements from the front, at least so many, and leaves the rest. What it takes has no
semicolon, and closes the parentheses that it opens, and no others, so that as many are open behind
it as before it. `Takes` says both, and `takes_readAbove` says it of expressions.

Since an expression takes something, the operators after an operand are read to the last one that
binds tight enough, and the bound on their number is immaterial: `readRest` reads them without it,
and `readRest_eq` is its recursion.
-/

namespace MetricLayer

variable {ls us : List Lexeme} {l : Lexeme} {n m : Nat}

namespace Lexeme

/-- How many parentheses are open after some elements, if `n` are open before them; none if one is
closed that is not open, or if there is a semicolon. -/
def openAfter? : List Lexeme → Nat → Option Nat
  | [], n => some n
  | .lparen :: ls, n => openAfter? ls (n + 1)
  | .rparen :: ls, n + 1 => openAfter? ls n
  | .rparen :: _, 0 => none
  | .semicolon :: _, _ => none
  | _ :: ls, n => openAfter? ls n

/-- A change in the number of open parentheses. -/
def Nesting : Type :=
  Nat → Option Nat

/-- How elements change the number of open parentheses. -/
def nesting (ls : List Lexeme) : Nesting :=
  openAfter? ls

/-- Other elements than parentheses and semicolons open and close nothing. -/
@[grind =]
theorem nesting_cons (hopen : l ≠ .lparen) (hclose : l ≠ .rparen) (hsemicolon : l ≠ .semicolon) :
    nesting (l :: ls) = nesting ls := by
  refine funext fun n => ?_
  cases l <;> first | contradiction | rfl

/-- A keyword is neither a parenthesis nor a semicolon. -/
@[grind →]
theorem ne_of_isKeyword {k : String} (h : l.isKeyword k = true) :
    l ≠ .lparen ∧ l ≠ .rparen ∧ l ≠ .semicolon := by
  cases l <;> simp_all [isKeyword]

/-- What is read between parentheses closes those that it opens. -/
theorem nesting_parenthesized (h : nesting ls = nesting (.rparen :: us)) :
    nesting (.lparen :: ls) = nesting us :=
  funext fun n => congrFun h (n + 1)

end Lexeme

namespace Term

open Lexeme (nesting nesting_cons nesting_parenthesized)

/-- A reader takes at least `least` elements of `ls` and leaves the rest, and as many parentheses
are open there as before. -/
structure Takes (least : Nat) (ls rest : List Lexeme) : Prop where
  /-- The elements that are taken have no semicolon, and close what they open. -/
  nesting : Lexeme.nesting ls = Lexeme.nesting rest
  /-- So many elements are taken. -/
  length : rest.length + least ≤ ls.length

/-- Whatever a reader of operands reads, it takes an element for it. -/
@[reducible]
def Consumes (read : OperandReader) : Prop :=
  ∀ min ls p, read min ls = some p → Takes 1 ls p.2

/-- What is taken, as two facts. -/
theorem takes_iff {least : Nat} {ls rest : List Lexeme} : Takes least ls rest ↔
    nesting ls = nesting rest ∧ rest.length + least ≤ ls.length :=
  ⟨fun h => ⟨h.nesting, h.length⟩, fun h => ⟨h.1, h.2⟩⟩

/-- What takes many elements takes fewer, too. -/
theorem Takes.le {least less : Nat} {ls rest : List Lexeme} (h : Takes least ls rest)
    (hle : less ≤ least) : Takes less ls rest :=
  ⟨h.nesting, by have := h.length; omega⟩

/-- A reader takes the parentheses around what another takes. -/
theorem Takes.parenthesized {least : Nat} {ls rest : List Lexeme}
    (h : Takes least ls (.rparen :: rest)) : Takes (least + 2) (.lparen :: ls) rest := by
  refine ⟨nesting_parenthesized h.nesting, ?_⟩
  have hlength := h.length
  simp only [List.length_cons] at hlength ⊢
  omega

variable {rest : List Lexeme} {k : String}

attribute [local grind =] Option.map_eq_some_iff takes_iff

/-- A part of a name is neither a parenthesis nor a semicolon. -/
@[grind →]
theorem ne_of_isNamePart (h : isNamePart l = true) :
    l ≠ .lparen ∧ l ≠ .rparen ∧ l ≠ .semicolon := by
  cases l <;> simp_all [isNamePart]

/-! ## Keywords, names and types -/

/-- What a keyword takes. -/
theorem takes_afterKeyword? (h : afterKeyword? k ls = some rest) :
    Takes 1 ls rest := by
  cases ls with
  | nil => cases h
  | cons l ls => grind [afterKeyword?]

/-- What keywords take. -/
theorem takes_afterKeywords? {ks : List String} (h : afterKeywords? ks ls = some rest) :
    Takes ks.length ls rest := by
  induction ks generalizing ls with
  | nil => grind [afterKeywords?]
  | cons k ks ih =>
    rw [afterKeywords?, Option.bind_eq_some_iff] at h
    obtain ⟨ls₁, h₁, h⟩ := h
    have hhead := takes_afterKeyword? h₁
    have htail := ih h
    grind

section

variable {p : List Lexeme × List Lexeme}

/-- What the parts of a name take. -/
theorem takes_readNameTail (h : readNameTail ls = some p) : Takes 0 ls p.2 := by
  fun_induction readNameTail ls generalizing p <;> grind

/-- What modifiers take. -/
theorem takes_readModifiers (h : readModifiers ls = some p) :
    Takes 0 ls (.rparen :: p.2) := by
  fun_induction readModifiers ls generalizing p <;> grind

/-- What array brackets take. -/
theorem takes_readBrackets (ls : List Lexeme) : Takes 0 ls (readBrackets ls).2 := by
  fun_induction readBrackets ls <;> grind

/-- What a size takes. -/
theorem takes_readSize (h : readSize ls = some p) : Takes 0 ls p.2 := by
  unfold readSize at h
  split at h
  case h_1 n rest =>
    obtain rfl := Option.some.inj h
    have hinner : Takes 0 (.number n :: .rparen :: rest) (.rparen :: rest) := by grind
    exact hinner.parenthesized.le (Nat.zero_le 2)
  case h_2 => cases h
  case h_3 => grind

/-- What a size with places takes. -/
theorem takes_readScale (h : readScale ls = some p) : Takes 0 ls p.2 := by
  unfold readScale at h
  split at h
  case h_1 n m rest =>
    obtain rfl := Option.some.inj h
    have hinner :
        Takes 0 (.number n :: .comma :: .number m :: .rparen :: rest) (.rparen :: rest) := by
      grind
    exact hinner.parenthesized.le (Nat.zero_le 2)
  case h_2 => exact takes_readSize h

/-- What a word that may be there takes. -/
theorem takes_readOptionalWord (k : String) (ls : List Lexeme) :
    Takes 0 ls (readOptionalWord k ls).2 := by
  grind [readOptionalWord.eq_def]

/-- What a word on time zones takes. -/
theorem takes_readZone (ls : List Lexeme) : Takes 0 ls (readZone ls).2 := by
  grind [readZone.eq_def, → takes_afterKeywords?]

/-- The word that may come second in the name of a known type. -/
def typeExtra (k : String) (ls : List Lexeme) : List Lexeme × List Lexeme :=
  if k == "DOUBLE" then readOptionalWord "PRECISION" ls
  else if k == "CHARACTER" || k == "CHAR" then readOptionalWord "VARYING" ls
  else ([], ls)

/-- The numbers between parentheses after the name of a known type. -/
def typeSize (k : String) (ls : List Lexeme) : Option (List Lexeme × List Lexeme) :=
  if k ∈ scaledTypes then readScale ls
  else if k ∈ sizedTypes || k ∈ zonedTypes then readSize ls
  else some ([], ls)

/-- The words at the end of the name of a known type. -/
def typeTail (k : String) (ls : List Lexeme) : List Lexeme × List Lexeme :=
  if k ∈ zonedTypes then readZone ls
  else if k ∈ sizedTypes then readOptionalWord "UNSIGNED" ls
  else ([], ls)

/-- The parts of a known type, one after the other. -/
theorem readKnownType_eq (w : String) (ls : List Lexeme) :
    readKnownType w ls =
      (typeSize (Text.uppercase w) (typeExtra (Text.uppercase w) ls).2).map fun p =>
        (.word w :: ((typeExtra (Text.uppercase w) ls).1 ++ (p.1 ++
          ((typeTail (Text.uppercase w) p.2).1 ++
            (readBrackets (typeTail (Text.uppercase w) p.2).2).1))),
          (readBrackets (typeTail (Text.uppercase w) p.2).2).2) := by
  have hmap : ∀ {α β : Type} (x : Option α) (f : α → β), (x >>= fun a => some (f a)) = x.map f := by
    intro α β x f
    cases x <;> rfl
  unfold readKnownType typeSize
  dsimp only
  by_cases hscaled : Text.uppercase w ∈ scaledTypes
  · rw [if_pos hscaled, if_pos hscaled]
    exact hmap _ _
  · rw [if_neg hscaled, if_neg hscaled]
    by_cases hsized : Text.uppercase w ∈ sizedTypes || Text.uppercase w ∈ zonedTypes
    · rw [if_pos hsized, if_pos hsized]
      exact hmap _ _
    · rw [if_neg hsized, if_neg hsized]
      rfl

/-- What the second word of a type takes. -/
theorem takes_typeExtra (k : String) (ls : List Lexeme) :
    Takes 0 ls (typeExtra k ls).2 := by
  grind [typeExtra, takes_readOptionalWord]

/-- What the numbers of a type take. -/
theorem takes_typeSize (h : typeSize k ls = some p) : Takes 0 ls p.2 := by
  grind [typeSize, → takes_readSize, → takes_readScale]

/-- What the last words of a type take. -/
theorem takes_typeTail (k : String) (ls : List Lexeme) :
    Takes 0 ls (typeTail k ls).2 := by
  grind [typeTail, takes_readOptionalWord, takes_readZone]

/-- What a known type takes. -/
theorem takes_readKnownType {w : String} (h : readKnownType w ls = some p) :
    Takes 0 ls p.2 := by
  rw [readKnownType_eq, Option.map_eq_some_iff] at h
  obtain ⟨q, hsize, rfl⟩ := h
  have hextra := takes_typeExtra (Text.uppercase w) ls
  have hnumbers := takes_typeSize hsize
  have htail := takes_typeTail (Text.uppercase w) q.2
  have hbrackets := takes_readBrackets (typeTail (Text.uppercase w) q.2).2
  grind

/-- What a type of another name takes. -/
theorem takes_readOtherType {l : Lexeme} (h : readOtherType l ls = some p) :
    Takes 0 ls p.2 := by
  simp only [readOtherType, Option.bind_eq_bind, Option.bind_eq_some_iff, Prod.exists] at h
  obtain ⟨parts, ls₁, h₁, h⟩ := h
  have hparts := takes_readNameTail h₁
  split at h
  case h_1 ls₂ =>
    obtain ⟨q, hq, h⟩ := Option.bind_eq_some_iff.1 h
    obtain ⟨q, hmodifiers, rfl⟩ := Option.map_eq_some_iff.1 hq
    have hinner := (takes_readModifiers hmodifiers).parenthesized
    grind [takes_readBrackets]
  case h_2 => grind [takes_readBrackets]

/-- What a type takes. -/
theorem takes_readType (h : readType ls = some p) : Takes 0 ls p.2 := by
  grind [readType.eq_def, → takes_readKnownType, → takes_readOtherType]

/-- What the parts of a name with a star take. -/
theorem takes_readQualifiedStar (h : readQualifiedStar ls = some p) :
    Takes 0 ls p.2 := by
  fun_induction readQualifiedStar ls generalizing p <;> grind

/-- What a literal of a named type takes. -/
theorem takes_readTyped {p : Term × List Lexeme} (h : readTyped ls = some p) :
    Takes 1 ls p.2 := by
  grind [readTyped.eq_def, → takes_readKnownType]

end

/-! ## Lists -/

/-- What is read between parentheses takes them, too. -/
theorem takes_readParenthesized {α : Type} {inner : TermReader α} {p : α × List Lexeme}
    (hinner : ∀ ls p, inner ls = some p → Takes 0 ls p.2)
    (h : readParenthesized inner ls = some p) : Takes 1 ls p.2 := by
  unfold readParenthesized at h
  split at h
  case h_1 ls =>
    split at h
    case h_1 x rest hread =>
      obtain rfl := Option.some.inj h
      exact (hinner _ _ hread).parenthesized.le (Nat.le_succ 1)
    case h_2 => cases h
  case h_2 => cases h

/-- What a list takes. -/
theorem takes_readList {α : Type} {item : TermReader α} {p : List α × List Lexeme}
    (hitem : ∀ ls p, item ls = some p → Takes 0 ls p.2) (h : readList item ls = some p) :
    Takes 0 ls p.2 := by
  unfold readList at h
  generalize ls.length + 1 = n at h
  induction n generalizing ls p with
  | zero => cases h
  | succ n ih => grind [readListUpTo.eq_def]

/-! ## Operands -/

section

variable {read : OperandReader} {p : Term × List Lexeme} {t : Term}
variable (hread : Consumes read)

include hread

/-- What a list of expressions in parentheses takes. -/
theorem takes_readItems {p : List Term × List Lexeme}
    (h : readParenthesized (readList (read 0)) ls = some p) : Takes 1 ls p.2 := by
  refine takes_readParenthesized (fun ls p h => takes_readList (fun ls p h => ?_) h) h
  exact (hread 0 ls p h).le (Nat.zero_le 1)

/-- What an argument takes. -/
theorem takes_readArgument (h : readArgument read ls = some p) : Takes 0 ls p.2 := by
  grind [readArgument.eq_def, → takes_readQualifiedStar]

/-- What the arguments of a call take. -/
theorem takes_readArguments {p : (Option String × List Term) × List Lexeme}
    (h : readParenthesized (readArguments read) ls = some p) : Takes 1 ls p.2 := by
  refine takes_readParenthesized (fun ls p h => ?_) h
  unfold readArguments at h
  split at h
  case h_1 => grind
  case h_2 =>
    obtain ⟨q, hq, rfl⟩ := Option.map_eq_some_iff.1 h
    have hlist := takes_readList (fun ls p h => takes_readArgument hread h) hq
    grind [readQuantifier.eq_def, → takes_afterKeyword?]

/-- What a name or a call takes. -/
theorem takes_readName {l : Lexeme} (h : readName read l ls = some p) :
    Takes 0 ls p.2 := by
  simp only [readName, Option.bind_eq_bind, Option.bind_eq_some_iff, Prod.exists] at h
  obtain ⟨parts, ls₁, h₁, h⟩ := h
  have hparts := takes_readNameTail h₁
  split at h
  case h_1 =>
    obtain ⟨q, hq, h⟩ := Option.bind_eq_some_iff.1 h
    have hargs := takes_readArguments hread hq
    grind
  case h_2 => grind

/-- What branches take. -/
theorem takes_readBranches {n : Nat} {p : List (Term × Term) × List Lexeme}
    (h : readBranches read n ls = some p) : Takes 0 ls p.2 := by
  induction n generalizing ls p with
  | zero => cases h
  | succ n ih =>
    simp only [readBranches, Option.bind_eq_bind, Option.bind_eq_some_iff, Prod.exists] at h
    obtain ⟨c, ls₁, h₁, ls₂, h₂, u, ls₃, h₃, h⟩ := h
    have hbranch : Takes 0 ls ls₃ := by grind [→ takes_afterKeyword?]
    split at h
    case h_1 =>
      obtain ⟨q, hq, h⟩ := Option.bind_eq_some_iff.1 h
      have hrest := ih hq
      grind [→ takes_afterKeyword?]
    case h_2 => grind

/-- What the subject of a choice takes. -/
theorem takes_readSubject {p : Option Term × List Lexeme} (h : readSubject read ls = some p) :
    Takes 0 ls p.2 := by
  unfold readSubject at h
  split at h
  · grind [→ takes_afterKeyword?]
  · simp only [Option.bind_eq_bind, Option.bind_eq_some_iff, Prod.exists] at h
    grind [→ takes_afterKeyword?]

/-- What the result without a branch takes. -/
theorem takes_readElse {p : Option Term × List Lexeme} (h : readElse read ls = some p) :
    Takes 0 ls p.2 := by
  grind [readElse.eq_def, → takes_afterKeyword?]

/-- What a choice takes. -/
theorem takes_readChoice (h : readChoice read ls = some p) : Takes 0 ls p.2 := by
  simp only [readChoice, Option.bind_eq_bind, Option.bind_eq_some_iff, Prod.exists] at h
  grind [→ takes_readSubject, → takes_readElse, → takes_readBranches, → takes_afterKeyword?]

/-- What a conversion takes. -/
theorem takes_readCast (h : readCast read ls = some p) : Takes 0 ls p.2 := by
  simp only [readCast, Option.bind_eq_bind, Option.bind_eq_some_iff, Prod.exists] at h
  grind [→ takes_afterKeyword?, → takes_readType]

/-- What an extraction takes. -/
theorem takes_readExtract (h : readExtract read ls = some p) : Takes 0 ls p.2 := by
  unfold readExtract at h
  split at h
  · simp only [Option.bind_eq_bind, Option.bind_eq_some_iff, Prod.exists] at h
    grind [→ takes_afterKeyword?]
  · cases h

/-- What a duration takes. -/
theorem takes_readInterval (h : readInterval read ls = some p) : Takes 0 ls p.2 := by
  simp only [readInterval, Option.bind_eq_bind, Option.bind_eq_some_iff, Prod.exists] at h
  obtain ⟨t, ls₁, h₁, h⟩ := h
  have hamount := hread _ _ _ h₁
  split at h
  · split at h <;> grind
  · grind

/-- What a word that can be called takes. -/
theorem takes_readOptionalCall {l : Lexeme} (h : readOptionalCall read l ls = some p) :
    Takes 0 ls p.2 := by
  unfold readOptionalCall at h
  split at h
  · obtain ⟨q, hq, rfl⟩ := Option.map_eq_some_iff.1 h
    exact (takes_readArguments hread hq).le (Nat.zero_le 1)
  · grind

/-- What a form takes. -/
theorem takes_readForm {w : String} (h : readForm read k w ls = some p) :
    Takes 0 ls p.2 := by
  unfold readForm at h
  split_ifs at h with hliteral hname hcall hcase hcast hextract hinterval hnot
  · grind
  · grind
  · exact takes_readOptionalCall hread h
  · exact takes_readChoice hread h
  · exact (takes_readParenthesized (fun _ _ h => takes_readCast hread h) h).le (Nat.zero_le 1)
  · exact (takes_readParenthesized (fun _ _ h => takes_readExtract hread h) h).le (Nat.zero_le 1)
  · exact takes_readInterval hread h
  · grind

/-- What the operand that a word begins takes. -/
theorem takes_readWordOperand {w : String} (h : readWordOperand read w ls = some p) :
    Takes 0 ls p.2 := by
  grind [readWordOperand.eq_def, → takes_readForm, → takes_readName]

/-- What expressions in parentheses take. -/
theorem takes_readGroup (h : readGroup read ls = some p) : Takes 1 ls p.2 := by
  simp only [readGroup, Option.bind_eq_bind, Option.bind_eq_some_iff, Prod.exists] at h
  obtain ⟨items, ls₁, h₁, h⟩ := h
  have hitems := takes_readItems hread h₁
  grind

/-- What an operand takes. -/
theorem takes_readPrimary (h : readPrimary read ls = some p) : Takes 1 ls p.2 := by
  grind [readPrimary.eq_def, → takes_readTyped, → takes_readWordOperand, → takes_readName,
    → takes_readGroup]

omit hread in
/-- What a collation takes. -/
theorem takes_readCollation (h : readCollation t ls = some p) : Takes 0 ls p.2 := by
  grind [readCollation.eq_def, → takes_afterKeyword?, → takes_readNameTail]

/-! ## Operators -/

omit hread in
/-- What a test takes. -/
theorem takes_readIsTest {tests : List (List String)} (h : readIsTest t ls tests = some p) :
    Takes 0 ls p.2 := by
  induction tests with
  | nil => cases h
  | cons words tests ih => grind [readIsTest.eq_def, → takes_afterKeywords?]

/-- What a test after `IS` takes. -/
theorem takes_readIs (h : readIs read t ls = some p) : Takes 0 ls p.2 := by
  grind [readIs.eq_def, takeKeyword.eq_def, → takes_afterKeyword?, → takes_afterKeywords?,
    → takes_readIsTest]

/-- What an interval takes. -/
theorem takes_readBetween {negated : Bool} (h : readBetween read negated t ls = some p) :
    Takes 0 ls p.2 := by
  simp only [readBetween, Option.bind_eq_bind, Option.bind_eq_some_iff, Prod.exists] at h
  grind [→ takes_afterKeyword?]

/-- What a pattern takes. -/
theorem takes_readPattern {negated : Bool} {op : String}
    (h : readPattern read negated op t ls = some p) : Takes 0 ls p.2 := by
  simp only [readPattern, Option.bind_eq_bind, Option.bind_eq_some_iff, Prod.exists] at h
  grind [readEscape.eq_def, → takes_afterKeyword?]

/-- What a membership, an interval or a match takes. -/
theorem takes_readPredicate {negated : Bool} (h : readPredicate read negated k t ls = some p) :
    Takes 0 ls p.2 := by
  unfold readPredicate at h
  split_ifs at h with hin hbetween hlike hregexp hsimilar
  · obtain ⟨q, hq, rfl⟩ := Option.map_eq_some_iff.1 h
    exact (takes_readItems hread hq).le (Nat.zero_le 1)
  · exact takes_readBetween hread h
  · exact takes_readPattern hread h
  · grind
  · obtain ⟨ls₁, h₁, h⟩ := Option.bind_eq_some_iff.1 h
    have hpattern := takes_readPattern hread h
    grind [→ takes_afterKeyword?]

/-- What an operator that is a word takes. -/
theorem takes_readWordOperator {level : Nat} (h : readWordOperator read level k t ls = some p) :
    Takes 0 ls p.2 := by
  unfold readWordOperator at h
  split_ifs at h with hbinary his hat hnot
  · grind
  · exact takes_readIs hread h
  · simp only [Option.bind_eq_bind, Option.bind_eq_some_iff] at h
    grind [→ takes_afterKeywords?]
  · grind [→ takes_readPredicate]
  · exact takes_readPredicate hread h

/-- What an operator of marks takes. -/
theorem takes_readMarkOperator {level : Nat} {op : String}
    (h : readMarkOperator read level op t ls = some p) : Takes 0 ls p.2 := by
  grind [readMarkOperator.eq_def, → takes_readType]

/-- What an operator takes with its right operand. -/
theorem takes_readOperator {level : Nat} (h : readOperator read level t ls = some p) :
    Takes 1 ls p.2 := by
  grind [readOperator.eq_def, → takes_readWordOperator, → takes_readMarkOperator]

/-- What operators take. -/
theorem takes_readOperators {min n : Nat} (h : readOperators read min n t ls = some p) :
    Takes 0 ls p.2 := by
  induction n generalizing ls t with
  | zero => grind [readOperators.eq_def]
  | succ n ih => grind [readOperators.eq_def, → takes_readOperator]

/-- What an expression of one level takes. -/
theorem takes_readLevel {min : Nat} (h : readLevel read min ls = some p) :
    Takes 1 ls p.2 := by
  simp only [readLevel, Option.bind_eq_bind, Option.bind_eq_some_iff, Prod.exists] at h
  grind [→ takes_readPrimary, → takes_readCollation, → takes_readOperators]

end

/-- An expression takes at least one element. -/
theorem consumes_readAbove (depth : Nat) : Consumes (readAbove depth) := by
  induction depth with
  | zero =>
    intro min ls p h
    cases h
  | succ depth ih => exact fun _ _ _ h => takes_readLevel ih h

/-! ## The operators after an operand -/

/-- Reads all the operators that bind tighter than `min`, with their right operands. -/
def readRest (read : OperandReader) (min : Nat) (t : Term) (ls : List Lexeme) :
    Option (Term × List Lexeme) :=
  readOperators read min (ls.length + 1) t ls

section

variable {read : OperandReader} {min n m : Nat} {t : Term}
variable (hread : Consumes read)

include hread

/-- The bound on the number of operators is immaterial if there are at most as many elements. -/
theorem readOperators_congr (hn : ls.length < n) (hm : ls.length < m) :
    readOperators read min n t ls = readOperators read min m t ls := by
  induction n generalizing ls t m with
  | zero => exact absurd hn (Nat.not_lt_zero _)
  | succ n ih =>
    obtain ⟨m, rfl⟩ : ∃ m', m = m' + 1 := ⟨m - 1, by omega⟩
    rw [readOperators, readOperators]
    split
    · rfl
    · split
      case h_1 u ls₁ hstep =>
        have hlength : ls₁.length < ls.length := (takes_readOperator hread hstep).length
        exact ih (by omega) (by omega)
      case h_2 => rfl

/-- Operators are read one after the other. -/
theorem readRest_eq (min : Nat) (t : Term) (ls : List Lexeme) :
    readRest read min t ls =
      if levelOf ls ≤ min then some (t, ls)
      else (readOperator read (levelOf ls) t ls).bind fun p => readRest read min p.1 p.2 := by
  unfold readRest
  rw [readOperators]
  split
  · rfl
  · split
    case h_1 u ls₁ hstep =>
      have hlength : ls₁.length < ls.length := (takes_readOperator hread hstep).length
      rw [hstep]
      exact readOperators_congr hread hlength (Nat.lt_succ_self _)
    case h_2 hstep =>
      rw [hstep]
      rfl

omit hread in
/-- One level of reading: an operand, a collation, and the operators after it. -/
theorem readLevel_eq_some_iff {p : Term × List Lexeme} :
    readLevel read min ls = some p ↔ ∃ u ls₁ v ls₂, readPrimary read ls = some (u, ls₁) ∧
      readCollation u ls₁ = some (v, ls₂) ∧ readRest read min v ls₂ = some p := by
  unfold readLevel readRest
  simp only [Option.bind_eq_bind, Option.bind_eq_some_iff, Prod.exists]
  grind

end

end Term

end MetricLayer
