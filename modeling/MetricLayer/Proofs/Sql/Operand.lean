import MetricLayer.Proofs.Sql.Meaning

/-!
# Reading operands

The text of an operand of a query is read as its term: a call whatever follows it (`IsPrimary`), an
expression that is spliced in as an argument if it is plain (`IsArgument`), and one that is spliced
in before an operator if it also closes at the level of the operator (`Compares`).
-/

namespace MetricLayer.Term

open Filter (atTop)

variable {more ls us : List Lexeme} {t u : Term} {ts : List Term}

/-! ## What follows an operand -/

/-- The operator of a condition can follow an operand. -/
theorem follows_operator {l : Lexeme} (hl : l ∈ separators) (hrparen : l ≠ .rparen)
    (hcomma : l ≠ .comma) (hmore : more.head? ≠ some .period) : Follows (l :: more) where
  head := by simpa using hl
  period := by
    rintro l' rest h
    exact hmore (by rw [(List.cons.inj h).2]; rfl)
  rparen rest h := absurd (List.cons.inj h).1 hrparen
  comma rest h := absurd (List.cons.inj h).1 hcomma

/-- A closing parenthesis can follow an operand. -/
theorem follows_rparen (hmore : ∀ l ∈ more.head?, l ∈ separators) : Follows (.rparen :: more) where
  head := by simp [separators]
  period := by
    rintro l rest h
    have hperiod := hmore .period (by rw [(List.cons.inj h).2]; rfl)
    exact absurd hperiod (by decide)
  rparen := by
    rintro rest h
    rwa [← (List.cons.inj h).2]
  comma := by simp

/-- A comma with a string literal behind it can follow an operand. -/
theorem follows_comma (k s : String) : Follows (.comma :: .string k s :: more) where
  head := by simp [separators]
  period := by simp
  rparen := by simp
  comma := by simp

/-! ## Parts that are read -/

/-- The elements are an operand without operators after it, whatever separator follows. -/
def IsPrimary (ls : List Lexeme) (t : Term) : Prop :=
  ∀ more : List Lexeme, (∀ l ∈ more.head?, l ∈ separators) →
    Reads (fun depth => readPrimary (readAbove depth)) ls t more

/-- The elements can begin an argument list: they do not begin with a word that stands before the
arguments, or with the closing parenthesis. -/
def BeginsArguments (ls : List Lexeme) : Prop :=
  ∃ l rest, ls = l :: rest ∧ l ≠ .rparen ∧ l.isKeyword "DISTINCT" = false ∧
    l.isKeyword "ALL" = false

/-- The elements are an expression wherever no operator follows, and can be the first argument of a
call. -/
structure IsArgument (ls : List Lexeme) (t : Term) : Prop where
  /-- The expression is read. -/
  reads : ∀ more, Follows more → levelOf more = 0 → Reads (readAbove · 0) ls t more
  /-- The first argument begins with the expression. -/
  begins : BeginsArguments ls

/-- The elements are the left operand of an operator that binds at most as tight as `m`. -/
def Compares (m : Nat) (ls : List Lexeme) (t : Term) : Prop :=
  ∀ min, min ≤ levelAnd → ∀ more, Follows more → levelOf more ≤ m → Opens min ls t more

/-- An operand is an expression where no operator follows that binds tight enough. -/
theorem Reads.above {min : Nat} (h : Reads (fun depth => readPrimary (readAbove depth)) ls t more)
    (hcollate : afterKeyword? "COLLATE" more = none) (hmore : levelOf more ≤ min) :
    Reads (readAbove · min) ls t more :=
  (h.opens hcollate).reads hmore

/-- No collation begins with a separator. -/
theorem collate_eq_none (hmore : ∀ l ∈ more.head?, l ∈ separators) :
    afterKeyword? "COLLATE" more = none :=
  afterKeyword?_of_separator hmore (by decide)

/-- An operand is the left operand of every operator. -/
theorem IsPrimary.compares (h : IsPrimary ls t) (m : Nat) : Compares m ls t :=
  fun _ _ _ hmore _ => (h _ hmore.head).opens (collate_eq_none hmore.head)

/-- An operand is an argument. -/
theorem IsPrimary.isArgument (h : IsPrimary ls t) (hls : BeginsArguments ls) : IsArgument ls t :=
  ⟨fun _ hmore hlevel => (h _ hmore.head).above (collate_eq_none hmore.head) hlevel.le, hls⟩

/-- An argument that nothing follows is read as a term. -/
theorem IsArgument.readsAs (h : IsArgument ls t) : ReadsAs ls t :=
  readsAs_iff.2 (h.reads [] follows_nil rfl)

/-! ## Calls -/

/-- The name of a function is read as a call. -/
theorem readPrimary_function {name : String} (hname : name ∈ functionNames)
    (read : OperandReader) (ls : List Lexeme) :
    readPrimary read (.word (Text.uppercase name) :: .lparen :: ls) =
      (readParenthesized (readArguments read) (.lparen :: ls)).map fun (x, rest) =>
        (.call [.word (Text.uppercase name)] x.1 x.2, rest) := by
  have hupper := uppercase_of_mem_functionNames hname
  have hform : ∀ name ∈ functionNames, readForm read name name (.lparen :: ls) = none := by
    simp [functionNames, readForm]
  have hreserved : ∀ name ∈ functionNames, name ∉ reservedWords := by decide
  have htype : ∀ name ∈ functionNames, name ∉ sizedTypes ∧ name ∉ scaledTypes ∧
      name ∉ zonedTypes ∧ name ≠ "DOUBLE" ∧ name ≠ "CHARACTER" ∧ name ≠ "CHAR" := by decide
  have htyped : readTyped (.word name :: .lparen :: ls) = none := by
    obtain ⟨h₁, h₂, h₃, h₄, h₅, h₆⟩ := htype name hname
    rw [readTyped_word, readKnownType_eq, hupper]
    simp [typeExtra, typeSize, typeTail, h₁, h₂, h₃, h₄, h₅, h₆, readBrackets, typedLiteral]
  have hparts : readNameTail (.lparen :: ls) = some ([], .lparen :: ls) := rfl
  rw [hupper, readPrimary_word htyped]
  simp only [readWordOperand, hupper, hform name hname, hreserved name hname, if_false,
    readName, hparts, Option.bind_eq_bind, Option.bind_some]
  cases readParenthesized (readArguments read) (.lparen :: ls) <;> rfl

/-- A call of a function with its arguments. -/
theorem ReadsItems.call {name : String} (hname : name ∈ functionNames)
    (h : ReadsItems (fun depth => readArgument (readAbove depth)) ls ts more)
    (hls : BeginsArguments ls) :
    Reads (fun depth => readPrimary (readAbove depth))
      (.word (Text.uppercase name) :: .lparen :: (ls ++ [.rparen])) (apply name ts) more := by
  obtain ⟨l, rest, rfl, hrparen, hdistinct, hall⟩ := hls
  filter_upwards [h.list] with depth h
  have hquantifier : readQuantifier (l :: (rest ++ .rparen :: more)) =
      (none, l :: (rest ++ .rparen :: more)) := by
    simp [readQuantifier, afterKeyword?, hdistinct, hall]
  have harguments : readArguments (readAbove depth) (l :: (rest ++ .rparen :: more)) =
      some ((none, ts), .rparen :: more) := by
    rw [readArguments.eq_2 _ _ fun rest h => hrparen (List.cons.inj h).1, hquantifier]
    rw [List.cons_append] at h
    simp [h]
  simp [readPrimary_function hname, readParenthesized, harguments, apply]

/-! ## Buckets -/

/-- A string literal is an argument. -/
theorem isArgument_string (k s : String) : IsArgument [.string k s] (.literal (.string k s)) :=
  IsPrimary.isArgument (fun more _ => reads_string k s more) ⟨_, _, rfl, by simp, rfl, rfl⟩

/-- The name of a function begins arguments. -/
theorem beginsArguments_function {name : String} (hname : name ∈ functionNames)
    (ls : List Lexeme) : BeginsArguments (.word (Text.uppercase name) :: ls) := by
  have hwords : ∀ name ∈ functionNames, name ≠ "DISTINCT" ∧ name ≠ "ALL" := by decide
  have hupper := uppercase_of_mem_functionNames hname
  refine ⟨_, _, rfl, by simp, ?_⟩
  simpa [Lexeme.isKeyword, hupper] using hwords name hname

/-- What begins arguments still does so in front of others. -/
theorem BeginsArguments.append (h : BeginsArguments ls) (us : List Lexeme) :
    BeginsArguments (ls ++ us) := by
  obtain ⟨l, rest, rfl, h⟩ := h
  exact ⟨l, rest ++ us, rfl, h⟩

/-- The last argument. -/
theorem IsArgument.last (h : IsArgument ls t) (hmore : ∀ l ∈ more.head?, l ∈ separators) :
    ReadsItems (fun depth => readArgument (readAbove depth)) ls [t] more :=
  ((h.reads _ (follows_rparen hmore) rfl).argument (by simp)).items

/-- An argument before others of which the first is a string literal. -/
theorem IsArgument.cons {k s : String} (h : IsArgument ls t)
    (hus : ReadsItems (fun depth => readArgument (readAbove depth)) (.string k s :: us) ts more) :
    ReadsItems (fun depth => readArgument (readAbove depth)) (ls ++ .comma :: .string k s :: us)
      (t :: ts) more :=
  ReadsItems.cons ((h.reads _ (follows_comma k s) rfl).argument (by simp)) hus

/-- A call with one argument. -/
theorem IsArgument.call {name : String} (hname : name ∈ functionNames) (h : IsArgument ls t) :
    IsPrimary (.word (Text.uppercase name) :: .lparen :: (ls ++ [.rparen])) (apply name [t]) :=
  fun _ hmore => (h.last hmore).call hname h.begins

/-- A call with a string literal before its argument. -/
theorem IsArgument.callAfter {name : String} (hname : name ∈ functionNames) (h : IsArgument ls t)
    (s : String) :
    IsPrimary
      (.word (Text.uppercase name) :: .lparen :: (.string "" s :: .comma :: (ls ++ [.rparen])))
      (apply name [.literal (.string "" s), t]) := by
  intro more hmore
  have hstring : Reads (fun depth => readArgument (readAbove depth)) [.string "" s]
      (.literal (.string "" s)) (.comma :: (ls ++ .rparen :: more)) :=
    ((reads_string "" s _).above rfl (Nat.zero_le 0)).argument (by simp)
  have hbegins : BeginsArguments (.string "" s :: .comma :: ls) :=
    ⟨_, _, rfl, by simp, rfl, rfl⟩
  have hitems : ReadsItems (fun depth => readArgument (readAbove depth))
      (.string "" s :: .comma :: ls) [.literal (.string "" s), t] more :=
    ReadsItems.cons hstring (h.last hmore)
  have hcall := hitems.call hname hbegins
  exact hcall

/-- An operator of marks and a number behind an operand. -/
theorem Opens.number {min : Nat} {op n : String}
    (h : Opens min ls t (.operator op :: .number n :: more)) (hop : op ∉ ["::", "!", "["])
    (hmin : min < operatorLevel op) (hcollate : afterKeyword? "COLLATE" more = none)
    (hmore : levelOf more ≤ operatorLevel op) :
    Opens min (ls ++ [.operator op, .number n]) (.binary op t (.literal (.number n))) more :=
  h.mark hop hmin ((reads_number n more).above hcollate hmore)

/-- An operand, an operator of marks and a number in parentheses are an operand. -/
theorem Reads.group {op n : String}
    (h : Reads (fun depth => readPrimary (readAbove depth)) ls t
      (.operator op :: .number n :: .rparen :: more))
    (hop : op ∉ ["::", "!", "["]) (hpos : 0 < operatorLevel op) (hmore : more.head? ≠ some .period) :
    Reads (fun depth => readPrimary (readAbove depth))
      (.lparen :: (ls ++ [.operator op, .number n, .rparen]))
      (.group [.binary op t (.literal (.number n))]) more := by
  have hopens : Opens 0 _ (.binary op t (.literal (.number n))) (.rparen :: more) :=
    (h.opens rfl).number hop hpos rfl (Nat.zero_le _)
  have hgroup := (hopens.reads (Nat.le_refl 0)).items.group hmore
  simpa using hgroup

/-- The elements of the first month of a quarter, with those of the month. -/
def quarterMonthLexemes (us : List Lexeme) : List Lexeme :=
  [.lparen, .lparen, .word "CAST", .lparen] ++ (us ++ [.word "AS", .word "INTEGER", .rparen,
    .operator "-", .number "1", .rparen, .operator "/", .number "3", .rparen, .operator "*",
    .number "3", .operator "+", .number "1"])

/-- The first month of a quarter is read. -/
theorem reads_quarterMonth (hmonth : IsPrimary us (strftime "%m" t)) (more : List Lexeme) :
    Reads (readAbove · 0) (quarterMonthLexemes us) (quarterMonth t) (.rparen :: more) := by
  have hupper : Text.uppercase "AS" = "AS" ∧ Text.uppercase "INTEGER" = "INTEGER" := by
    decide +kernel
  have has : ∀ rest, levelOf (.word "AS" :: rest) = 0 := by simp [levelOf, hupper, wordLevel]
  have hseparator : ∀ rest : List Lexeme, ∀ l ∈ (.word "AS" :: rest).head?, l ∈ separators := by
    simp [separators, separatorWords]
  have htype : ∀ rest, readType ([.word "INTEGER"] ++ .rparen :: rest) =
      some ([.word "INTEGER"], .rparen :: rest) := by
    have hsized : isKnownType "INTEGER" = true ∧ "INTEGER" ∈ sizedTypes ∧
        "INTEGER" ∉ scaledTypes ∧ "INTEGER" ∉ zonedTypes := by decide
    simp [readType, hupper, hsized, readKnownType_eq, typeExtra, typeSize, typeTail, readSize,
      readOptionalWord, Lexeme.isKeyword, readBrackets]
  -- Each part is read in front of those that follow it, up to the parenthesis.
  have hcast := Reads.cast
    ((hmonth _ (hseparator _)).above (collate_eq_none (hseparator _)) (has _).le)
    (htype (.operator "-" :: .number "1" :: .rparen :: .operator "/" :: .number "3" :: .rparen ::
      .operator "*" :: .number "3" :: .operator "+" :: .number "1" :: .rparen :: more))
  have hbefore := hcast.group (by decide) (by decide) (by simp)
  have hquarters := hbefore.group (by decide) (by decide) (by simp)
  have hplus : operatorLevel "+" ≤ operatorLevel "*" := by decide
  have hproduct : Opens 0 _ _ (.operator "+" :: .number "1" :: .rparen :: more) :=
    (hquarters.opens rfl).number (by decide) (by decide) rfl hplus
  have hsum := (hproduct.number (by decide) (by decide) rfl (Nat.zero_le _)).reads (Nat.le_refl 0)
  simpa [quarterMonthLexemes, quarterMonth] using hsum

section

variable {d : Dialect} {tokens : List Token}

/-- The elements of lists of tokens with commas between them. -/
theorem lexemes_commaSeparated (d : Dialect) (tss : List (List Token)) :
    Tokens.lexemes d (Tokens.commaSeparated tss) =
      [.comma].intercalate (tss.map (Tokens.lexemes d)) := by
  unfold Tokens.commaSeparated
  induction tss with
  | nil => rfl
  | cons ts tss ih =>
    cases tss with
    | nil => simp
    | cons us tss =>
      simp only [List.map_cons, List.intercalate_cons_cons] at ih ⊢
      rw [← ih]
      simp [Tokens.commaSpace, Tokens.lexemes, Token.lexemes, Mark.lexeme]

/-- The elements of a call. -/
theorem lexemes_call (d : Dialect) (name : String) (tss : List (List Token)) :
    Tokens.lexemes d (Tokens.call name tss) = .word (Text.uppercase name) :: .lparen ::
      ([.comma].intercalate (tss.map (Tokens.lexemes d)) ++ [.rparen]) := by
  rw [← lexemes_commaSeparated]
  simp [Tokens.call, Tokens.lexemes, Token.lexemes, Mark.lexeme]

/-- A string literal is one element. -/
theorem lexemes_string (d : Dialect) (s : String) :
    Tokens.lexemes d [.string s] = [.string "" s] :=
  rfl

/-- A timestamp in a format is an operand. -/
theorem IsArgument.strftime (h : IsArgument (Tokens.lexemes d tokens) t) (format : String) :
    IsPrimary (Tokens.lexemes d (strftimeTokens format tokens)) (Term.strftime format t) := by
  have hformat : IsPrimary _ (Term.strftime format t) := h.callAfter (by decide) format
  simpa [strftimeTokens, lexemes_call, lexemes_string] using hformat

/-- A week is an operand. -/
theorem IsArgument.week (h : IsArgument (Tokens.lexemes d tokens) t) :
    IsPrimary (Tokens.lexemes d (sqliteBucketTokens .week tokens)) (sqliteBucket .week t) := by
  intro more hmore
  have hitems := h.cons ((isArgument_string "" "weekday 0").cons
    ((isArgument_string "" "-6 days").last hmore))
  have hdate : "DATE" ∈ functionNames := by decide
  have hcall := hitems.call hdate (h.begins.append _)
  simpa [sqliteBucketTokens, sqliteBucket, lexemes_call, lexemes_string] using hcall

/-- The elements of the tokens for the first month of a quarter. -/
theorem lexemes_quarterMonthTokens (d : Dialect) (tokens : List Token) :
    Tokens.lexemes d (quarterMonthTokens tokens) =
      quarterMonthLexemes (Tokens.lexemes d (strftimeTokens "%m" tokens)) := by
  have hfirst : Lexeme.scan? "((CAST(" = some [.lparen, .lparen, .word "CAST", .lparen] := by
    decide +kernel
  have hlast : Lexeme.scan? " AS INTEGER) - 1) / 3) * 3 + 1" =
      some [.word "AS", .word "INTEGER", .rparen, .operator "-", .number "1", .rparen,
        .operator "/", .number "3", .rparen, .operator "*", .number "3", .operator "+",
        .number "1"] := by
    decide +kernel
  simp [quarterMonthTokens, quarterMonthLexemes, Tokens.lexemes, Token.lexemes, hfirst, hlast]

/-- A quarter is an operand. -/
theorem IsArgument.quarter (h : IsArgument (Tokens.lexemes d tokens) t) :
    IsPrimary (Tokens.lexemes d (sqliteBucketTokens .quarter tokens)) (sqliteBucket .quarter t) := by
  intro more hmore
  have hmonth := reads_quarterMonth (h.strftime "%m") more
  rw [← lexemes_quarterMonthTokens] at hmonth
  have hyear := h.strftime "%Y" (.comma :: (Tokens.lexemes d (quarterMonthTokens tokens) ++
    .rparen :: more)) (by simp [separators])
  have hformat := reads_string "" "%s-%02d-01" (.comma :: (Tokens.lexemes d
    (strftimeTokens "%Y" tokens) ++ .comma :: (Tokens.lexemes d (quarterMonthTokens tokens)) ++
    .rparen :: more))
  have hitems := ReadsItems.cons ((hformat.above rfl (Nat.zero_le 0)).argument (by simp))
    (ReadsItems.cons ((hyear.above rfl (Nat.zero_le 0)).argument (by simp))
      (hmonth.argument (by simp)).items)
  have hprintf : "PRINTF" ∈ functionNames := by decide
  have hcall := hitems.call hprintf ⟨_, _, rfl, by simp, rfl, rfl⟩
  simpa [sqliteBucketTokens, sqliteBucket, lexemes_call, lexemes_string] using hcall

/-- The start of a bucket is an operand. -/
theorem IsArgument.bucket (h : IsArgument (Tokens.lexemes d tokens) t) (g : Granularity) :
    IsPrimary (Tokens.lexemes d (bucketTokens d g tokens)) (Term.bucket d g t) := by
  have htrunc : IsPrimary _ (apply "DATE_TRUNC" [.literal (.string "" g.name), t]) :=
    h.callAfter (by decide) g.name
  have hday : IsPrimary _ (apply "DATE" [t]) := h.call (by decide)
  cases d with
  | postgres => simpa [bucketTokens, Term.bucket, lexemes_call, lexemes_string] using htrunc
  | duckdb => simpa [bucketTokens, Term.bucket, lexemes_call, lexemes_string] using htrunc
  | sqlite =>
    cases g with
    | hour => exact h.strftime _
    | day =>
      simpa [bucketTokens, sqliteBucketTokens, Term.bucket, sqliteBucket, lexemes_call] using hday
    | week => exact h.week
    | month => exact h.strftime _
    | quarter => exact h.quarter
    | year => exact h.strftime _

/-- The start of a bucket begins arguments. -/
theorem beginsArguments_bucket (d : Dialect) (g : Granularity) (tokens : List Token) :
    BeginsArguments (Tokens.lexemes d (bucketTokens d g tokens)) := by
  cases d with
  | postgres => exact lexemes_call _ _ _ ▸ beginsArguments_function (by decide) _
  | duckdb => exact lexemes_call _ _ _ ▸ beginsArguments_function (by decide) _
  | sqlite => cases g <;> exact lexemes_call _ _ _ ▸ beginsArguments_function (by decide) _

end

/-! ## Expressions that are spliced in -/

/-- No plain operand begins with a word that stands before the arguments of a call. -/
theorem isKeyword_of_readPrimary {read : OperandReader} {l : Lexeme} {k : String}
    {rest : List Lexeme} (hk : k ∈ ["DISTINCT", "ALL"])
    (h : readPrimary read (l :: ls) = some (t, rest)) (ht : t.plain) : l.isKeyword k = false := by
  have hwords : ∀ k ∈ ["DISTINCT", "ALL"], isKnownType k = false ∧ k ∈ formWords := by decide
  obtain ⟨hknown, hform⟩ := hwords k hk
  cases l with
  | word w =>
    by_contra hw
    have hw : Text.uppercase w = k := by simpa [Lexeme.isKeyword] using hw
    have hnone : readForm read k w ls = none := by
      simp only [List.mem_cons, List.not_mem_nil, or_false] at hk
      rcases hk with rfl | rfl <;> simp [readForm]
    have htyped : readTyped (.word w :: ls) = none := by
      rw [readTyped_word, hw, hknown]
      rfl
    rw [readPrimary_word htyped, readWordOperand, hw, hnone] at h
    dsimp only at h
    split_ifs at h
    exact notMem_formWords_of_readName h ht (hw ▸ hform)
  | _ => rfl

/-- A plain expression can be the first argument of a call. -/
theorem beginsArguments_of_parse {s : String} (hs : parse s = .ok t)
    (hscan : Lexeme.scan? s = some ls) (ht : t.plain) : BeginsArguments ls := by
  obtain ⟨ls', hls, h⟩ := parse_eq_ok_iff.1 hs
  obtain rfl := Option.some.inj (hscan.symm.trans hls)
  obtain ⟨u, ls₁, v, ls₂, hu, hv, h⟩ := readLevel_eq_some_iff.1 h
  have hplain := plain_of_readCollation hv (plain_of_readRest h ht)
  cases ls with
  | nil => cases hu
  | cons l rest =>
    refine ⟨l, rest, rfl, ?_, ?_, ?_⟩
    · rintro rfl
      cases hu
    · exact isKeyword_of_readPrimary (by simp) hu hplain
    · exact isKeyword_of_readPrimary (by simp) hu hplain

/-- A plain expression is an argument. -/
theorem isArgument_of_parse {s : String} (hs : parse s = .ok t) (hscan : Lexeme.scan? s = some ls)
    (ht : t.plain) : IsArgument ls t :=
  ⟨fun _ hmore hlevel => reads_of_parse hs hscan ht hmore hlevel,
    beginsArguments_of_parse hs hscan ht⟩

end MetricLayer.Term
