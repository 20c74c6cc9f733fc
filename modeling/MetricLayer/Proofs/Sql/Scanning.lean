import MetricLayer.Proofs.Sql.Composition
import MetricLayer.Proofs.Sql.Lexeme
import MetricLayer.Proofs.Sql.Rendering

/-!
# Scanning the text of a query

Each token of a query has lexical elements of its own, `Token.lexemes`, and the text of a query is
scanned into those of its tokens, one after the other: `Query.scan_tokens`. The only condition is on
the SQL that a query splices (`Query.splices`): it has elements, and does not end within a line
comment. The elements of the other tokens need no condition, since a blank, a parenthesis or a comma
stands between any two of them (`Tokens.Composed`).
-/

namespace MetricLayer

open Lexeme (Scans Breaks breakers)

/-! ## The elements of tokens -/

/-- The elements of a keyword. -/
def Keyword.lexemes : Keyword → List Lexeme
  | GROUP_BY => [.word "GROUP", .word "BY"]
  | ORDER_BY => [.word "ORDER", .word "BY"]
  | k => [.word k.text]

/-- The element of a mark. -/
def Mark.lexeme : Mark → Lexeme
  | comma => .comma
  | dot => .period
  | lparen => .lparen
  | rparen => .rparen
  | m => .operator m.text

/-- The elements of an integer: a sign, if it is negative, and a number. -/
def integerLexemes (i : Int) : List Lexeme :=
  if i < 0 then [.operator "-", .number (toString i.natAbs)] else [.number (toString i.natAbs)]

/-- The elements of a token. -/
def Token.lexemes (d : Dialect) : Token → List Lexeme
  | keyword k => k.lexemes
  | mark m => [m.lexeme]
  | space => []
  | newline => []
  | indent _ => []
  | identifier name => [.quotedName '"' name]
  | integer i => integerLexemes i.toInt
  | string s => [.string "" s]
  | placeholder n => [.placeholder (d.placeholder n)]
  | function name => [.word (Text.uppercase name)]
  | raw sql => (Lexeme.scan? sql).getD []

/-- The elements of some tokens. -/
def Tokens.lexemes (d : Dialect) (ts : List Token) : List Lexeme :=
  ts.flatMap (·.lexemes d)

/-- Tokens are scanned one after the other. -/
structure Tokens.Scan (d : Dialect) (ts : List Token) : Prop where
  /-- The elements of the tokens are seen in their text, whatever follows from a breaker on. -/
  scans : Scans (render d ts).toList (lexemes d ts)
  /-- The elements of a token are those of its text alone. -/
  alone : ∀ t ∈ ts, Lexeme.scan? (t.render d) = some (t.lexemes d)

/-- The names of functions are in upper case. -/
theorem uppercase_of_mem_functionNames {name : String} (h : name ∈ functionNames) :
    Text.uppercase name = name := by
  have hchars : ∀ name ∈ functionNames, Text.isKeywordText name = true := by decide
  exact Text.uppercase_eq_self (hchars name h)

/-! ## Single tokens -/

namespace Lexeme

/-- A text that is one element is seen as that. -/
theorem scans_of_readNext {c : Char} {cs : List Char} {l : Lexeme} (hc : c ≠ '-')
    (h : readNext c cs = some (some l, [])) : Scans (c :: cs) [l] := by
  intro more hmore
  have hread := (readNext_extends hmore (fun hline => hc hline.1) _ _ h).2
  rw [List.cons_append, scanChars?_cons, hread]
  rfl

/-- A name between quotes is one element, unless a quote follows. -/
theorem scanChars?_quotedName (name : String) {rest : List Char} (hrest : rest.head? ≠ some '"') :
    scanChars? ((quoteIdentifier name).toList ++ rest) =
      (scanChars? rest).map (.quotedName '"' name :: ·) := by
  have hread := Text.readQuotedBody_doubled hrest name.toList
  have htext : (quoteIdentifier name).toList ++ rest =
      '"' :: (Text.doubled '"' name.toList ++ '"' :: rest) := by
    simp [quoteIdentifier, Text.quoted, Text.quotedChars]
  have hnext : readNext '"' (Text.doubled '"' name.toList ++ '"' :: rest) =
      some (some (.quotedName '"' name), rest) := by
    simp [readNext, hread]
  rw [htext, scanChars?_cons, hnext]
  rfl

/-- A name between quotes is one element. -/
theorem scans_quotedName (name : String) :
    Scans (quoteIdentifier name).toList [.quotedName '"' name] :=
  fun _ hmore => scanChars?_quotedName name (hmore.head?_ne (by decide))

/-- A name between quotes after another one and a period. -/
theorem scans_qualifiedName (table name : String) :
    Scans ((quoteIdentifier table).toList ++ '.' :: (quoteIdentifier name).toList)
      [.quotedName '"' table, .period, .quotedName '"' name] := by
  intro more hmore
  have hperiod : ∀ rest, readNext '.' ('"' :: rest) = some (some .period, '"' :: rest) := by
    intro rest
    simp [readNext, Char.isDigit]
  obtain ⟨cs, hcs⟩ : ∃ cs, (quoteIdentifier name).toList = '"' :: cs := by
    simp [quoteIdentifier, Text.quoted, Text.quotedChars]
  have hname := scans_quotedName name more hmore
  rw [List.append_assoc, scanChars?_quotedName table (by simp), List.cons_append, scanChars?_cons,
    hcs, List.cons_append, hperiod, Option.bind_some, ← List.cons_append, ← hcs, hname]
  simp [Option.map_map, Function.comp_def]

/-- A string literal is one element. -/
theorem scans_string (s : String) : Scans (quoteString s).toList [.string "" s] := by
  have hread : Text.readQuotedBody '\'' (Text.doubled '\'' s.toList ++ ['\'']) =
      some (s.toList, []) := Text.readQuotedBody_doubled (by simp) s.toList
  have htext : (quoteString s).toList = '\'' :: (Text.doubled '\'' s.toList ++ ['\'']) := by
    simp [quoteString, Text.quoted, Text.quotedChars]
  rw [htext]
  refine scans_of_readNext (by decide) ?_
  simp [readNext, hread]

/-- A digit is a numeral. -/
theorem isAlphanumeric_of_isDigit {c : Char} (hc : c.isDigit) : Text.isAlphanumeric c := by
  have hrange : 48 ≤ c.toNat ∧ c.toNat ≤ 57 := by
    simpa [Char.isDigit, UInt32.le_iff_toNat_le] using hc
  simp [Text.isAlphanumeric, Text.isNumeric, Text.inRanges, Text.numericRanges, hrange]

/-- The digits that are written for a number are digits. -/
theorem isDigit_of_mem_toDigits {n : Nat} {c : Char} (hc : c ∈ Nat.toDigits 10 n) : c.isDigit :=
  Nat.isDigit_of_mem_toDigits (by decide) (by decide) hc

/-- A placeholder is one element. -/
theorem scans_placeholder (d : Dialect) (n : Nat) :
    Scans (d.placeholder n).toList [.placeholder (d.placeholder n)] := by
  have hspan : (Nat.toDigits 10 n).span Char.isDigit = (Nat.toDigits 10 n, []) :=
    span_eq_self fun c hc => isDigit_of_mem_toDigits hc
  have hword : (Nat.toDigits 10 n).span (fun c => Text.isAlphanumeric c || c == '_') =
      (Nat.toDigits 10 n, []) := by
    refine span_eq_self fun c hc => ?_
    rw [isAlphanumeric_of_isDigit (isDigit_of_mem_toDigits hc), Bool.true_or]
  have hdollar : readDollar (Nat.toDigits 10 n) =
      (.placeholder (String.ofList ('$' :: Nat.toDigits 10 n)), []) := by
    unfold readDollar
    rw [hword]
  unfold Dialect.placeholder
  rw [String.toList_ofList]
  cases d with
  | postgres =>
    refine scans_of_readNext (by decide) ?_
    simp [readNext, hdollar, Dialect.sigil]
  | duckdb =>
    refine scans_of_readNext (by decide) ?_
    simp [readNext, hdollar, Dialect.sigil]
  | sqlite =>
    refine scans_of_readNext (by decide) ?_
    simp only [readNext, hspan, Dialect.sigil]
    simp

/-- Digits alone are a number. -/
theorem splitNumber_eq_self {cs : List Char} (h : ∀ c ∈ cs, c.isDigit) :
    splitNumber cs = (cs, []) := by
  rw [splitNumber_eq, span_eq_self h]
  simp [splitMark, splitExponent]

/-- The digits of a number are one element. -/
theorem scans_number (n : Nat) : Scans n.repr.toList [.number n.repr] := by
  rw [Nat.repr_eq_ofList_toDigits, String.toList_ofList]
  obtain ⟨c, cs, hcs⟩ := List.exists_cons_of_ne_nil (Nat.toDigits_ne_nil (n := n) (b := 10))
  have hdigits : ∀ x ∈ c :: cs, x.isDigit := fun x hx => isDigit_of_mem_toDigits (hcs ▸ hx)
  have hc := hdigits c List.mem_cons_self
  have hne : ∀ x : Char, x.isDigit = false → c ≠ x := by
    rintro x hx rfl
    exact absurd hc (by simp [hx])
  have hx : cs.head? ≠ some 'x' := by
    intro hx
    have hmem := hdigits 'x' (List.mem_cons_of_mem c (List.mem_of_mem_head? hx))
    exact absurd hmem (by decide)
  rw [hcs]
  have htick : c.toNat ≠ 0x60 := by
    intro htick
    have hle : c.toNat ≤ 57 := by
      simpa [Char.isDigit, UInt32.le_iff_toNat_le] using (Bool.and_eq_true_iff.1 hc).2
    omega
  refine scans_of_readNext (hne '-' (by decide)) ?_
  simp [readNext, hne '-' (by decide), hne '/' (by decide), hne '\'' (by decide),
    hne '"' (by decide), htick, hx, hc, splitNumber_eq_self hdigits]

end Lexeme

/-- A separating token is a breaker. -/
theorem Token.Breaks.exists_char {t : Token} (h : t.Breaks) (d : Dialect) :
    ∃ c ∈ breakers, (t.render d).toList = [c] ∧ t.lexemes d = Lexeme.ofBreaker c := by
  simp only [Token.Breaks, List.mem_cons, List.not_mem_nil, or_false] at h
  rcases h with rfl | rfl | rfl | rfl | rfl
  · exact ⟨' ', by decide, by simp [Token.render], rfl⟩
  · exact ⟨'\n', by decide, by simp [Token.render], rfl⟩
  · exact ⟨',', by decide, by simp [Token.render, Mark.text], rfl⟩
  · exact ⟨'(', by decide, by simp [Token.render, Mark.text], rfl⟩
  · exact ⟨')', by decide, by simp [Token.render, Mark.text], rfl⟩

/-! ## Tokens in a row -/

namespace Tokens

variable {d : Dialect} {ts us : List Token} {t : Token}

/-- No tokens have no elements. -/
theorem scan_nil : Scan d [] :=
  ⟨Lexeme.scans_nil, by simp⟩

/-- A token has the elements that its text has alone. -/
theorem scan_singleton (h : Scans (t.render d).toList (t.lexemes d)) : Scan d [t] :=
  ⟨by simpa [lexemes] using h, List.forall_mem_singleton.2 h.scanChars?_eq⟩

/-- Tokens with a separating one between them are scanned apart. -/
theorem Scan.append (hts : Scan d ts) (ht : t.Breaks) (hus : Scan d us) :
    Scan d (ts ++ t :: us) := by
  obtain ⟨c, hc, htext, hlexemes⟩ := ht.exists_char d
  have hchars : (render d (ts ++ t :: us)).toList =
      (render d ts).toList ++ c :: (render d us).toList := by
    simp [htext]
  have hls : lexemes d (ts ++ t :: us) =
      lexemes d ts ++ (Lexeme.ofBreaker c ++ lexemes d us) := by
    simp [lexemes, hlexemes]
  have halone : Lexeme.scan? (t.render d) = some (t.lexemes d) := by
    have hscans := Lexeme.scans_nil.cons hc
    rw [← htext, List.append_nil, ← hlexemes] at hscans
    exact hscans.scanChars?_eq
  refine ⟨?_, List.forall_mem_append.2 ⟨hts.alone, List.forall_mem_cons.2 ⟨halone, hus.alone⟩⟩⟩
  rw [hchars, hls]
  exact hts.scans.append hc hus.scans

/-- A separating token may come first. -/
theorem Scan.cons (hus : Scan d us) (ht : t.Breaks) : Scan d (t :: us) := by
  rw [← List.nil_append (t :: us)]
  exact scan_nil.append ht hus

/-- A keyword is scanned as its words. -/
theorem scan_keyword (k : Keyword) : Scan d [.keyword k] := by
  have hscan : ∀ k : Keyword, Lexeme.scan? k.text = some k.lexemes ∧
      Lexeme.endsInComment k.text = false := by
    intro k
    cases k <;> decide +kernel
  exact scan_singleton (Lexeme.scans_of_scan? (hscan k).1 (hscan k).2)

/-- A mark is scanned as one element. -/
theorem scan_mark (m : Mark) : Scan d [.mark m] := by
  have hscan : ∀ m : Mark, Lexeme.scan? m.text = some [m.lexeme] ∧
      Lexeme.endsInComment m.text = false := by
    intro m
    cases m <;> decide +kernel
  exact scan_singleton (Lexeme.scans_of_scan? (hscan m).1 (hscan m).2)

/-- The name of a function is scanned as a word. -/
theorem scan_function {name : String} (h : name ∈ functionNames) : Scan d [.function name] := by
  have hscan : ∀ name ∈ functionNames,
      Lexeme.scan? name = some [.word name] ∧ Lexeme.endsInComment name = false := by
    decide +kernel
  obtain ⟨hname, hend⟩ := hscan name h
  rw [← uppercase_of_mem_functionNames h] at hname hend
  exact scan_singleton (Lexeme.scans_of_scan? hname hend)

/-- A string literal is scanned as one element. -/
theorem scan_string (s : String) : Scan d [.string s] :=
  scan_singleton (Lexeme.scans_string s)

/-- A name is scanned as one element. -/
theorem scan_name (name : String) : Scan d [.identifier name] :=
  scan_singleton (Lexeme.scans_quotedName name)

/-- A number of rows is scanned as one element. -/
theorem scan_rows (n : UInt64) : Scan d [.integer (rowsLiteral n)] := by
  refine scan_singleton ?_
  have hnumber := Lexeme.scans_number (min n.toNat 0x7fffffffffffffff)
  rw [Token.render, Token.lexemes, toInt_rowsLiteral, integerLexemes,
    if_neg (Int.not_lt.2 (Int.natCast_nonneg _))]
  exact hnumber

/-- Blanks have no elements. -/
theorem Scan.indent (level : Nat) (hus : Scan d us) : Scan d (.indent level :: us) := by
  have hblanks : ∀ (n : Nat) {cs : List Char} {ls : List Lexeme}, Scans cs ls →
      Scans (List.replicate n ' ' ++ cs) ls := by
    intro n cs ls hcs
    induction n with
    | zero => exact hcs
    | succ n ih =>
      have hspace : ' ' ∈ breakers := by decide
      exact ih.cons hspace
  have halone : Lexeme.scan? ((Token.indent level).render d) = some [] := by
    have hscans := hblanks (2 * level) Lexeme.scans_nil
    simpa [Lexeme.scan?, Token.render] using hscans.scanChars?_eq
  refine ⟨?_, List.forall_mem_cons.2 ⟨halone, hus.alone⟩⟩
  simpa [lexemes, Token.lexemes, Token.render] using hblanks (2 * level) hus.scans

/-- A column of a table is scanned as its parts. -/
theorem scan_qualifiedName (table name : String) :
    Scan d [.identifier table, .mark .dot, .identifier name] := by
  refine ⟨?_, ?_⟩
  · simpa [lexemes, Token.lexemes, Token.render, Mark.text, Mark.lexeme] using
      Lexeme.scans_qualifiedName table name
  · have halone : ∀ t : Token, t ∈ [.identifier table] ++ ([.mark .dot] ++ [.identifier name]) →
        Lexeme.scan? (t.render d) = some (t.lexemes d) := by
      rw [List.forall_mem_append, List.forall_mem_append]
      exact ⟨(scan_name table).alone, (scan_mark .dot).alone, (scan_name name).alone⟩
    exact halone

/-- The first month of a quarter. -/
theorem Scan.quarterMonth (hts : Scan d ts) :
    Scan d (.raw "((CAST(" :: (ts ++ [.raw " AS INTEGER) - 1) / 3) * 3 + 1"])) := by
  have hcast : Scans "CAST".toList [.word "CAST"] :=
    Lexeme.scans_of_scan? (by decide +kernel) (by decide +kernel)
  have hsome : (Lexeme.scan? "AS INTEGER) - 1) / 3) * 3 + 1").isSome := by decide +kernel
  obtain ⟨ls, hls⟩ := Option.isSome_iff_exists.1 hsome
  have hrest := Lexeme.scans_of_scan? hls (by decide +kernel)
  have hlparen : '(' ∈ breakers := by decide
  have hspace : ' ' ∈ breakers := by decide
  have hall := ((hcast.append hlparen (hts.scans.append hspace hrest)).cons hlparen).cons hlparen
  -- The first piece ends with a parenthesis, and the last one begins with a space.
  have hfirst : "((CAST(".toList = '(' :: '(' :: ("CAST".toList ++ ['(']) := by decide
  have hlast : " AS INTEGER) - 1) / 3) * 3 + 1".toList =
      ' ' :: "AS INTEGER) - 1) / 3) * 3 + 1".toList := by decide
  have hfirstLexemes : Lexeme.scan? "((CAST(" = some [.lparen, .lparen, .word "CAST", .lparen] := by
    decide +kernel
  have hlastLexemes : Lexeme.scan? " AS INTEGER) - 1) / 3) * 3 + 1" = some ls := by
    rw [Lexeme.scan?, hlast]
    exact (hrest.cons hspace).scanChars?_eq
  refine ⟨?_, ?_⟩
  · simpa [lexemes, Token.lexemes, Token.render, hfirst, hlast, hfirstLexemes, hlastLexemes,
      Lexeme.ofBreaker] using hall
  · simp only [List.forall_mem_cons, List.forall_mem_append]
    refine ⟨?_, hts.alone, ?_, by simp⟩
    · simp [Token.lexemes, Token.render, hfirstLexemes]
    · simp [Token.lexemes, Token.render, hlastLexemes]

end Tokens

/-! ## Queries -/

/-- A text can be spliced in: it has elements, and does not end within a line comment. -/
def Spliceable (s : String) : Prop :=
  (Lexeme.scan? s).isSome ∧ Lexeme.endsInComment s = false

variable {d : Dialect}

/-- Tokens that are put together in the way of a query are scanned one after the other, if what they
splice can be spliced in. -/
theorem Tokens.Composed.scan {ss : List String} {ts : List Token} (h : Composed ss ts)
    (hss : ∀ s ∈ ss, Spliceable s) : Scan d ts := by
  induction h with
  | nil => exact scan_nil
  | keyword k => exact scan_keyword k
  | mark m => exact scan_mark m
  | function hname => exact scan_function hname
  | name n => exact scan_name n
  | qualifiedName table n => exact scan_qualifiedName table n
  | rows n => exact scan_rows n
  | string s => exact scan_string s
  | placeholder n => exact scan_singleton (Lexeme.scans_placeholder d n)
  | @raw s hs =>
    obtain ⟨hscan, hcomment⟩ := hss s hs
    obtain ⟨ls, hls⟩ := Option.isSome_iff_exists.1 hscan
    refine scan_singleton ?_
    simpa [Token.lexemes, Token.render, hls] using Lexeme.scans_of_scan? hls hcomment
  | quarterMonth _ ih => exact ih.quarterMonth
  | indent level _ ih => exact ih.indent level
  | append _ ht _ ihts ihus => exact ihts.append ht ihus

/-- The elements of an expression are seen in its text, if what it splices can be spliced in. -/
theorem Expr.scan_tokens (d : Dialect) (e : Expr) (h : ∀ s ∈ e.splices, Spliceable s) :
    Tokens.Scan d (e.tokens d) :=
  (e.composed_tokens d (List.Subset.refl _)).scan h

/-- The tokens of a query are scanned one after the other, if what it splices can be spliced in. -/
theorem Query.scan_tokens (d : Dialect) {q : Query} (h : ∀ s ∈ q.splices, Spliceable s) :
    Tokens.Scan d (q.tokens d) :=
  (composed_tokens d (List.Subset.refl _)).scan h

end MetricLayer
