import MetricLayer.Proofs.Sql.Operand
import MetricLayer.Proofs.Sqlite.Documentation

/-!
# Buckets of SQLite

SQLite has no function that cuts a timestamp to the start of its period, so a bucket is an
expression of `STRFTIME`, `DATE` and `PRINTF`. Whatever evaluates terms as the documentation of
SQLite says, gives that expression the text of the start (`value_sqliteBucket`). A week is the case
with two steps: from a date forward to Sunday, or not at all if it is one, and then six days back.

The text of a bucket is read as that expression, so its value is that of the text
(`Denotes.evaluates`). With the order of the starts (`Instant.startText_lt_iff`) this makes
`bucket_startText`: timestamps of one period have one bucket, buckets are in the order of the
calendar as texts, and a bucket that is bucketed again stays as it is.
-/

namespace MetricLayer

namespace Sqlite

variable {instant? : Datum → Option Instant} {value : Term → Datum} {t : Term} {i : Instant}

/-! ## Terms -/

/-- The format of the start of a quarter puts the number of a month behind a year. -/
theorem printed?_quarterFormat (year : String) (month : Nat) :
    printed? "%s-%02d-01".toList [.text year, .integer month] =
      some (year.toList ++ '-' :: (Date.padded 2 month ++ ['-', '0', '1'])) :=
  rfl

section

variable (hvalue : Documented instant? value) (hi : instant? (value t) = some i)

include hvalue hi

/-- A timestamp in a format. -/
theorem value_strftime {format : String} {out : List Char}
    (hout : formatted? i format.toList = some out) :
    value (.strftime format t) = .text (String.ofList out) := by
  refine hvalue.strftime _ t [] format i i out (hvalue.string format) hi ?_ hout
  exact .nil i

/-- The first month of the quarter of a timestamp. -/
theorem value_quarterMonth : value (.quarterMonth t) = .integer (i.date.quarter * 3 + 1 : Nat) := by
  have hmonth := i.date.month_mem
  have hquarter : i.date.quarter = (i.date.month - 1) / 3 := rfl
  have hnumeral := isNumeral_two (Nat.le_trans hmonth.2 (by decide))
  have htext : value (.strftime "%m" t) = .text (String.ofList (Date.padded 2 i.date.month)) := by
    refine value_strftime hvalue hi ?_
    simp [formatted?, directive?]
  have hcast : value (.cast (.strftime "%m" t) [.word "INTEGER"]) = .integer i.date.month := by
    refine hvalue.cast _ _ 2 i.date.month htext ?_ ?_
    · rwa [String.toList_ofList]
    · unfold InRange
      omega
  have hone : value (.literal (.number "1")) = .integer 1 :=
    hvalue.number 1 ['1'] 1 (by decide) (by unfold InRange; decide)
  have hthree : value (.literal (.number "3")) = .integer 3 :=
    hvalue.number 1 ['3'] 3 (by decide) (by unfold InRange; decide)
  have hbefore := hvalue.operation "-" _ _ _ _ _ rfl hcast hone (by simp)
    (by unfold InRange; omega)
  rw [← hvalue.group] at hbefore
  have htruncates : ((i.date.month : Int) - 1).tdiv 3 = i.date.quarter := by
    rw [Int.tdiv_eq_ediv_of_nonneg (by omega)]
    omega
  have hquarters := hvalue.operation "/" _ _ _ _ _ rfl hbefore hthree (by simp)
    (by rw [htruncates]; unfold InRange; omega)
  rw [← hvalue.group, htruncates] at hquarters
  have hproduct := hvalue.operation "*" _ _ _ _ _ rfl hquarters hthree (by simp)
    (by unfold InRange; omega)
  exact hvalue.operation "+" _ _ _ _ _ rfl hproduct hone (by simp)
    (by unfold InRange; omega)

/-- A date is a timestamp in the format of dates, after some modifiers. -/
theorem value_date {modifiers : List Term} {j : Instant}
    (hmodified : Modified (modifiers.map value) i j) (hyear : j.date.year ≤ 9999) :
    value (.apply "DATE" (t :: modifiers)) = .text j.date.text := by
  have hwritten : Date.yearChars j.date.year = Date.padded 4 j.date.year := if_pos hyear
  have hout : formatted? j "%Y-%m-%d".toList = some j.date.chars := by
    simp [formatted?, directive?, Date.chars, hwritten]
  rw [hvalue.date _ t modifiers (hvalue.string "%Y-%m-%d")]
  exact hvalue.strftime _ t modifiers _ i j _ (hvalue.string "%Y-%m-%d") hi hmodified hout

/-- The Monday of the week of a timestamp: six days before the Sunday that the date is moved to. -/
theorem value_week (hyear : 1 ≤ i.date.year ∧ i.date.year ≤ 9998) :
    value (.sqliteBucket .week t) = .text i.date.monday.text := by
  have hnumber := Date.year_pos_iff.1 hyear.1
  have hmonday := i.date.dayNumber_monday
  generalize i.date.monday = monday at hmonday ⊢
  obtain ⟨sunday, hsunday⟩ : ∃ t : Date, t.dayNumber = monday.dayNumber + 6 :=
    ⟨_, Date.dayNumber_ofDayNumber _⟩
  have hsunday_year := Date.year_le_succ (show sunday.dayNumber < i.date.dayNumber + 365 by omega)
  have hmonday_year : monday.year ≤ i.date.year := by
    refine Nat.not_lt.1 fun hlt => ?_
    have hlater := Date.dayNumber_lt_of_year hlt
    omega
  have hweekday : sunday.weekday = 0 := by
    unfold Date.weekday
    omega
  have hback : Modified [.text "-6 days"] { i with date := sunday } { i with date := monday } :=
    .sixDays hsunday.symm (.nil _)
  have hmodified : Modified ([.literal (.string "" "weekday 0"),
      .literal (.string "" "-6 days")].map value) i { i with date := monday } := by
    rw [List.map_cons, List.map_cons, List.map_nil, hvalue.string, hvalue.string]
    exact .sunday hweekday (by omega) (by omega) (by omega) hback
  have hlate : ({ i with date := monday } : Instant).date.year ≤ 9999 :=
    hmonday_year.trans (by omega)
  exact value_date hvalue hi hmodified hlate

/-- The bucket of a timestamp is the text of the start of its period. -/
theorem value_sqliteBucket (g : Granularity) (hyear : 1 ≤ i.date.year ∧ i.date.year ≤ 9998) :
    value (.sqliteBucket g t) = .text (g.startText i) := by
  have hwritten : Date.yearChars i.date.year = Date.padded 4 i.date.year := if_pos (by omega)
  have hone : Date.padded 2 1 = ['0', '1'] := by decide
  cases g with
  | hour =>
    have hzero : Date.padded 2 0 = ['0', '0'] := by decide
    refine value_strftime hvalue hi ?_
    simp [formatted?, directive?, Granularity.start, Date.chars, TimeOfDay.chars,
      TimeOfDay.fullHour, TimeOfDay.midnight, hwritten, hzero]
  | day =>
    have hmodified : Modified (([] : List Term).map value) i i := .nil i
    have hdate := value_date hvalue hi hmodified (by omega)
    exact hdate
  | week => exact value_week hvalue hi hyear
  | month =>
    refine value_strftime hvalue hi ?_
    simp [formatted?, directive?, Granularity.start, Date.chars, Instant.dawn, Date.firstOfMonth,
      hwritten, hone]
  | quarter =>
    have hyeartext : value (.strftime "%Y" t) =
        .text (String.ofList (Date.padded 4 i.date.year)) := by
      refine value_strftime hvalue hi ?_
      simp [formatted?, directive?]
    have hmonth := value_quarterMonth hvalue hi
    refine hvalue.printf _ [_, _] _ _ (hvalue.string "%s-%02d-01") ?_
    rw [List.map_cons, List.map_cons, List.map_nil, hyeartext, hmonth, printed?_quarterFormat]
    simp [Granularity.start, Date.chars, Instant.dawn, Date.firstOfMonth, hwritten, hone]
  | year =>
    refine value_strftime hvalue hi ?_
    simp [formatted?, directive?, Granularity.start, Date.chars, Instant.dawn, Date.firstOfMonth,
      hwritten, hone]

end

/-! ## Texts -/

/-- A text is read as an expression with a value. -/
def Evaluates (value : Term → Datum) (s : String) (v : Datum) : Prop :=
  ∃ ls t, Lexeme.scan? s = some ls ∧ Term.ReadsAs ls t ∧ value t = v

/-- The text of an expression is read as a term, alone and where it is an argument of a call. -/
structure Denotes (e : Expr) (t : Term) : Prop where
  /-- What is spliced in does not end within a line comment. -/
  spliceable : ∀ s ∈ e.splices, Spliceable s
  /-- The elements are read as the term. -/
  argument : Term.IsArgument (e.lexemes .sqlite) t

/-- A bucket has a value, and so does the text of the bucket of an expression that is read as the
operand. -/
structure HasBucket (value : Term → Datum) (g : Granularity) (t : Term) (v : Datum) : Prop where
  /-- The bucket of the term has the value. -/
  term : value (.sqliteBucket g t) = v
  /-- The text of the bucket is read as an expression with the value. -/
  text : ∀ e, Denotes e t → Evaluates value ((Expr.bucket g e).sql .sqlite) v

variable {e : Expr}

/-- Registered SQL is read as its term, if it is plain and does not end within a line comment. -/
theorem denotes_raw {s : String} (hs : Term.parse s = .ok t) (ht : t.plain)
    (hcomment : Lexeme.endsInComment s = false) : Denotes (.raw s) t where
  spliceable := List.forall_mem_singleton.2 ⟨isSome_scan?_of_parse hs, hcomment⟩
  argument := Term.isArgument_of_parse hs (lexemes_raw hs) ht

/-- The bucket of an expression is read as the bucket of its term, and can be bucketed again. -/
theorem Denotes.bucket (h : Denotes e t) (g : Granularity) :
    Denotes (.bucket g e) (.sqliteBucket g t) where
  spliceable := h.spliceable
  argument := (h.argument.bucket g).isArgument (Term.beginsArguments_bucket .sqlite g _)

/-- The text of an expression has the value of its term. -/
theorem Denotes.evaluates (h : Denotes e t) : Evaluates value (e.sql .sqlite) (value t) :=
  ⟨_, t, (e.scan_tokens .sqlite h.spliceable).scans.scanChars?_eq, h.argument.readsAs, rfl⟩

/-- The bucket of a timestamp is the text of the start of its period. -/
theorem hasBucket (hvalue : Documented instant? value) (hi : instant? (value t) = some i)
    (g : Granularity) (hyear : 1 ≤ i.date.year ∧ i.date.year ≤ 9998) :
    HasBucket value g t (.text (g.startText i)) := by
  have hterm := value_sqliteBucket hvalue hi g hyear
  refine ⟨hterm, fun e he => ?_⟩
  rw [← hterm]
  exact (he.bucket g).evaluates

/-- The text of the start of a period denotes the start. -/
theorem instant?_startText (hvalue : Documented instant? value) (g : Granularity)
    (hyear : (g.start i).date.year ≤ 9999) :
    instant? (.text (g.startText i)) = some (g.start i) := by
  cases g with
  | hour =>
    have htext := Instant.isTimestamp_text hyear
    exact hvalue.instant_timestamp _ _ _ htext (Nat.zero_le 59)
  | _ => exact hvalue.instant_date _ hyear

/-- The bucket of a timestamp of the years 1 to 9998 is the text of the first instant of its period,
and stays that if it is bucketed again. Two timestamps have the same text just if they are in one
period, and the texts are in the order of the calendar. -/
theorem bucket_startText (hvalue : Documented instant? value)
    (hi : instant? (value t) = some i) (g : Granularity)
    (hyear : 1 ≤ i.date.year ∧ i.date.year ≤ 9998) :
    Instant.IsFirst g i (g.start i) ∧ HasBucket value g t (.text (g.startText i)) ∧
      (∀ u, value u = .text (g.startText i) → HasBucket value g u (.text (g.startText i))) ∧
      ∀ j : Instant, 1 ≤ j.date.year ∧ j.date.year ≤ 9998 →
        (g.startText i = g.startText j ↔ Instant.SamePeriod g i j) ∧
        (Text.bytes (g.startText i) < Text.bytes (g.startText j) ↔
          (g.start i).fields < (g.start j).fields) := by
  obtain ⟨hpos, hle⟩ := Instant.year_start g hyear.1
  have hlate : (g.start i).date.year ≤ 9998 := hle.trans hyear.2
  refine ⟨Instant.isFirst_start g hyear.1, hasBucket hvalue hi g hyear, fun u hu => ?_,
    fun j hyear' => ?_⟩
  · have hstart : instant? (value u) = some (g.start i) :=
      hu ▸ instant?_startText hvalue g (by omega)
    rw [← Instant.startText_start g hyear.1]
    exact hasBucket hvalue hstart g ⟨hpos, hlate⟩
  · have hlate' := (Instant.year_start g hyear'.1).2.trans hyear'.2
    rw [Instant.startText_eq_iff g (by omega) (by omega),
      Instant.samePeriod_iff hyear.1 hyear'.1]
    exact ⟨Iff.rfl, Instant.startText_lt_iff g (by omega) (by omega)⟩

/-- The text is that of a column, which can stand in a call. -/
def isPlainName (s : String) : Bool :=
  match Term.parse s with
  | .ok (.name parts) => (Term.name parts).plain && !Lexeme.endsInComment s
  | _ => false

/-- A column is read as a name. -/
theorem denotes_column {s : String} (hs : isPlainName s = true) :
    ∃ parts, Denotes (.raw s) (.name parts) := by
  unfold isPlainName at hs
  split at hs
  case h_1 parts hparse =>
    obtain ⟨hplain, hcomment⟩ := Bool.and_eq_true_iff.1 hs
    exact ⟨parts, denotes_raw hparse hplain (by simpa using hcomment)⟩
  case h_2 => cases hs

/-- Half an hour before the year 2025, on a Tuesday. -/
def newYearsEve : Instant :=
  ⟨(Date.ofParts? 2024 12 31).get (by decide), (TimeOfDay.ofParts? 23 30 0).get (by decide), 0⟩

/-- The Sunday after it. -/
def nextSunday : Instant :=
  ⟨(Date.ofParts? 2025 1 5).get (by decide), (TimeOfDay.ofParts? 9 0 0).get (by decide), 0⟩

/-- A week over the end of a year begins with its Monday, and its last day is the Sunday. -/
theorem bucket_startText_newYearsEve :
    Evaluates (evaluate (.text newYearsEve.text))
      "DATE(e.created_at, 'weekday 0', '-6 days')" (.text "2024-12-30") ∧
      Granularity.week.startText nextSunday = "2024-12-30" ∧
      Instant.SamePeriod .week newYearsEve nextSunday := by
  have hmonday : ∀ i ∈ [newYearsEve, nextSunday], Granularity.week.startText i = "2024-12-30" := by
    intro i hi
    have hnumber : ∀ i ∈ [newYearsEve, nextSunday],
        (⟨2024, 12, 30, by decide, by decide⟩ : Date).dayNumber =
          i.date.dayNumber - (i.date.dayNumber + 5) % 7 := by decide
    show i.date.monday.text = _
    rw [Date.monday, Date.ofDayNumber_eq_iff.2 (hnumber i hi)]
    decide
  have hcolumn : isPlainName "e.created_at" = true := by decide +kernel
  have heve : instantOf? (.text newYearsEve.text) = some newYearsEve := by decide +kernel
  have hsql : (Expr.bucket .week (.raw "e.created_at")).sql .sqlite =
      "DATE(e.created_at, 'weekday 0', '-6 days')" := by decide +kernel
  obtain ⟨parts, hparts⟩ := denotes_column hcolumn
  have hvalue : evaluate (.text newYearsEve.text) (.name parts) = .text newYearsEve.text := by
    rw [evaluate]
  obtain ⟨-, hbucket, -, hother⟩ := bucket_startText (documented_evaluate (.text newYearsEve.text))
    (hvalue ▸ heve) .week (by decide)
  have htext := hbucket.text _ hparts
  rw [hsql, hmonday _ (by simp)] at htext
  refine ⟨htext, hmonday _ (by simp), (hother nextSunday (by decide)).1.1 ?_⟩
  rw [hmonday _ (by simp), hmonday _ (by simp)]

end Sqlite

end MetricLayer
