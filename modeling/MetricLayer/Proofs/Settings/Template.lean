import MetricLayer.Proofs.Fallible
import MetricLayer.Proofs.Items
import MetricLayer.Settings.Text

/-!
# The text of a template

A template is written as parts: text of its own, references in either form, and dollar signs that
refer to nothing. `expand_written` says what the text of any such parts becomes: the text that each
part stands for, in order. The value of a variable is put there as it is, whatever characters it
has, and the first variable without a value is the error.

The parts of a template are not its pieces, which are what the reader finds. `pieces_append` says
that the reader finds the pieces of one part after the other, as long as each part fits what is
written behind it.
-/

namespace MetricLayer.Template

/-- A part of a template. -/
inductive Part where
  /-- Text that stands for itself. -/
  | literal (text : String)
  /-- A reference to a variable whose name is in braces. -/
  | braced (name : String)
  /-- A reference to a variable whose name is not in braces. -/
  | bare (name : String)
  /-- A dollar sign that stands for itself. -/
  | dollar
  deriving DecidableEq, Repr

variable {environment : String → Option String} {p : Part} {ps : List Part} {c : Char}
  {cs more : List Char} {qs : List Piece} {n v : String} {vs : List String}

namespace Part

/-- The characters of a part. -/
def chars : Part → List Char
  | literal text => text.toList
  | braced name => '$' :: '\x7b' :: (name.toList ++ ['\x7d'])
  | bare name => '$' :: name.toList
  | dollar => ['$']

/-- The pieces of a part. -/
def pieces : Part → List Piece
  | literal text => text.toList.map .char
  | braced name => [.reference name]
  | bare name => [.reference name]
  | dollar => [.char '$']

/-- The name of the variable that a part refers to. -/
def name? : Part → Option String
  | braced name => some name
  | bare name => some name
  | literal _ => none
  | dollar => none

/-- The text that a part stands for. -/
def value? (environment : String → Option String) : Part → Option String
  | literal text => some text
  | braced name => environment name
  | bare name => environment name
  | dollar => some "$"

/-- A part can be written before some characters: no sign of its own ends it early, and they do not
make it longer. -/
def Fits (more : List Char) : Part → Prop
  | literal text => '$' ∉ text.toList
  | braced name => '\x7d' ∉ name.toList
  | bare name => name.toList ≠ [] ∧ (∀ c ∈ name.toList, isNameChar c = true) ∧
      ∀ c ∈ more.head?, isNameChar c = false
  | dollar => ∀ c ∈ more.head?, c ≠ '\x7b' ∧ isNameChar c = false

-- Membership decides these, not the search through all characters that other imports offer.
instance (more : List Char) : DecidablePred (Fits more)
  | literal text => inferInstanceAs (Decidable ('$' ∉ text.toList))
  | braced name => inferInstanceAs (Decidable ('\x7d' ∉ name.toList))
  | bare name =>
    have : Decidable (∀ c ∈ name.toList, isNameChar c = true) := List.decidableBAll _ _
    have : Decidable (∀ c ∈ more.head?, isNameChar c = false) := Option.decidableForallMem _
    inferInstanceAs (Decidable (name.toList ≠ [] ∧
      (∀ c ∈ name.toList, isNameChar c = true) ∧ ∀ c ∈ more.head?, isNameChar c = false))
  | dollar => Option.decidableForallMem _

end Part

/-- The characters of a template. -/
def written (ps : List Part) : List Char :=
  ps.flatMap Part.chars

/-- Each part of a template fits what is written behind it. -/
def WellFormed : List Part → Prop
  | [] => True
  | p :: ps => p.Fits (written ps) ∧ WellFormed ps

instance WellFormed.decidable : DecidablePred WellFormed
  | [] => .isTrue trivial
  | p :: ps =>
    have := WellFormed.decidable ps
    inferInstanceAs (Decidable (p.Fits (written ps) ∧ WellFormed ps))

/-- Each part of a template stands for a text. -/
def Values (environment : String → Option String) (ps : List Part) (vs : List String) : Prop :=
  List.Forall₂ (fun p v => p.value? environment = some v) ps vs

/-- The first part that stands for no text refers to the variable of a name. -/
def FirstMissing (environment : String → Option String) (ps : List Part) (n : String) : Prop :=
  ∃ before p after, ps = before ++ p :: after ∧
    (∀ b ∈ before, (b.value? environment).isSome = true) ∧ p.name? = some n ∧ environment n = none

/-! ## Reading -/

/-- A character apart from the dollar sign is a piece. -/
theorem pieces_cons (h : c ≠ '$') : pieces (c :: cs) = .char c :: pieces cs := by
  rw [pieces]
  · rintro _ rfl
    exact absurd rfl h
  · rintro rfl
    exact absurd rfl h

/-- Characters apart from the dollar sign are pieces. -/
theorem pieces_append_of_not_mem (h : '$' ∉ cs) :
    pieces (cs ++ more) = cs.map Piece.char ++ pieces more := by
  induction cs with
  | nil => rfl
  | cons c cs ih =>
    have hc : c ≠ '$' := fun heq => h (heq ▸ List.mem_cons_self)
    rw [List.cons_append, pieces_cons hc, ih fun hmem => h (List.mem_cons_of_mem c hmem)]
    rfl

/-- A name in braces reaches to the closing brace. -/
theorem pieces_braced (h : '\x7d' ∉ cs) :
    pieces ('$' :: '\x7b' :: (cs ++ '\x7d' :: more)) =
      .reference (String.ofList cs) :: pieces more := by
  have hcs : ∀ c ∈ cs, (c != '\x7d') = true := by
    rintro c hc
    exact bne_iff_ne.2 fun heq => h (heq ▸ hc)
  have hmore : ∀ c ∈ ('\x7d' :: more).head?, (c != '\x7d') = false := by
    rintro c hc
    cases hc
    rfl
  obtain ⟨htake, hdrop⟩ := run_append hcs hmore
  rw [pieces, afterBrace, htake, hdrop]
  rfl

/-- A dollar sign without a brace behind it is read by the name behind it. -/
theorem pieces_dollar (h : ∀ c ∈ cs.head?, c ≠ '\x7b') :
    pieces ('$' :: cs) =
      if (cs.takeWhile isNameChar).isEmpty then .char '$' :: pieces cs
      else
        .reference (String.ofList (cs.takeWhile isNameChar)) ::
          pieces (cs.dropWhile isNameChar) := by
  rw [pieces]
  rintro ds rfl
  exact h '\x7b' rfl rfl

/-- The pieces of a part come first, if it fits what is written behind it. -/
theorem pieces_append (h : p.Fits more) :
    pieces (p.chars ++ more) = p.pieces ++ pieces more := by
  cases p with
  | literal text => exact pieces_append_of_not_mem h
  | braced name =>
    have hread : pieces _ = _ :: pieces more := pieces_braced h
    rw [String.ofList_toList] at hread
    simpa [Part.chars, Part.pieces] using hread
  | bare name =>
    obtain ⟨hne, hname, hmore⟩ := h
    obtain ⟨htake, hdrop⟩ := run_append hname hmore
    have hhead : ∀ c ∈ (name.toList ++ more).head?, c ≠ '\x7b' := by
      rw [List.head?_append_of_ne_nil _ hne]
      rintro c hc rfl
      exact absurd (hname _ (List.mem_of_mem_head? hc)) (by decide +kernel)
    show pieces ('$' :: (name.toList ++ more)) = _
    rw [pieces_dollar hhead, htake, hdrop, if_neg (by simpa using hne), String.ofList_toList]
    rfl
  | dollar =>
    have htake : more.takeWhile isNameChar = [] := by
      cases more with
      | nil => rfl
      | cons c more => exact List.takeWhile_cons_of_neg (Bool.eq_false_iff.1 (h c rfl).2)
    show pieces ('$' :: more) = _
    rw [pieces_dollar fun c hc => (h c hc).1, htake]
    rfl

/-! ## Values -/

/-- The values of pieces are joined. -/
theorem valueOf_append (environment : String → Option String) (ps qs : List Piece) :
    valueOf environment (ps ++ qs) = (do
      let v ← valueOf environment ps
      let w ← valueOf environment qs
      .ok (v ++ w)) := by
  induction ps with
  | nil =>
    show valueOf environment qs = (valueOf environment qs >>= fun w => .ok ("" ++ w))
    cases valueOf environment qs with
    | error e => rfl
    | ok w => exact congrArg Except.ok String.empty_append.symm
  | cons p ps ih =>
    simp only [List.cons_append, valueOf, ih]
    cases p.value environment with
    | error e => rfl
    | ok u =>
      cases valueOf environment ps with
      | error e => rfl
      | ok v =>
        cases valueOf environment qs with
        | error e => rfl
        | ok w => exact congrArg Except.ok String.append_assoc.symm

/-- Characters stand for themselves. -/
theorem valueOf_chars (environment : String → Option String) (cs : List Char) :
    valueOf environment (cs.map .char) = .ok (String.ofList cs) := by
  induction cs with
  | nil => rfl
  | cons c cs ih =>
    show (valueOf environment (cs.map .char) >>= fun w => .ok (String.singleton c ++ w)) = _
    rw [ih]
    exact congrArg Except.ok (String.toList_inj.1 (by simp))

/-- The pieces of a part have the value of the part. -/
theorem valueOf_pieces (h : p.value? environment = some v) :
    valueOf environment p.pieces = .ok v := by
  have hreference : ∀ n, environment n = some v →
      valueOf environment [.reference n] = .ok v := by
    intro n hn
    simp only [valueOf, Piece.value, hn]
    exact congrArg Except.ok String.append_empty
  cases p with
  | literal text =>
    cases h
    exact (valueOf_chars environment v.toList).trans (by rw [String.ofList_toList])
  | braced name => exact hreference name h
  | bare name => exact hreference name h
  | dollar =>
    cases h
    rfl

/-- The pieces of a part whose variable has no value fail with its name. -/
theorem valueOf_pieces_of_eq_none (h : p.name? = some n) (hn : environment n = none) :
    valueOf environment p.pieces = .error (.missingVariable n) := by
  have hreference : valueOf environment [.reference n] = .error (.missingVariable n) := by
    simp only [valueOf, Piece.value, hn]
    rfl
  cases p with
  | literal text => cases h
  | braced name => cases h; exact hreference
  | bare name => cases h; exact hreference
  | dollar => cases h

/-- A part stands for a text, or its variable has no value. -/
theorem Part.value_or_missing (environment : String → Option String) (p : Part) :
    (∃ v, p.value? environment = some v) ∨ ∃ n, p.name? = some n ∧ environment n = none := by
  cases p with
  | literal text => exact .inl ⟨text, rfl⟩
  | dollar => exact .inl ⟨"$", rfl⟩
  | braced name | bare name =>
    cases h : environment name with
    | none => exact .inr ⟨name, rfl, h⟩
    | some v => exact .inl ⟨v, h⟩

/-! ## Templates -/

/-- The text of a template begins with that of its first part. -/
theorem valueOf_written_cons (h : p.Fits (written ps)) :
    valueOf environment (Template.pieces (written (p :: ps))) = (do
      let v ← valueOf environment p.pieces
      let w ← valueOf environment (Template.pieces (written ps))
      .ok (v ++ w)) := by
  rw [← valueOf_append, ← pieces_append h]
  rfl

/-- If each part stands for a text, then the template becomes the texts in order. -/
theorem Values.valueOf (h : Values environment ps vs) (hps : WellFormed ps) :
    Template.valueOf environment (pieces (written ps)) = .ok (String.join vs) := by
  induction h with
  | nil =>
    unfold written
    rw [List.flatMap_nil, pieces]
    rfl
  | cons hv _ ih =>
    rw [valueOf_written_cons hps.1, valueOf_pieces hv, ih hps.2, String.join_cons]
    rfl

/-- The variable of the first part that stands for no text is the error. -/
theorem FirstMissing.valueOf (h : FirstMissing environment ps n) (hps : WellFormed ps) :
    Template.valueOf environment (pieces (written ps)) = .error (.missingVariable n) := by
  obtain ⟨before, p, after, rfl, hbefore, hp, hn⟩ := h
  induction before with
  | nil =>
    rw [List.nil_append, valueOf_written_cons hps.1, valueOf_pieces_of_eq_none hp hn]
    rfl
  | cons b before ih =>
    obtain ⟨v, hv⟩ := Option.isSome_iff_exists.1 (hbefore b List.mem_cons_self)
    rw [List.cons_append] at hps ⊢
    have hrest := ih hps.2 fun b hb => hbefore b (List.mem_cons_of_mem _ hb)
    rw [valueOf_written_cons hps.1, valueOf_pieces hv, hrest]
    rfl

/-- Each part of a template stands for a text, or there is a first that does not. -/
theorem values_or_firstMissing (environment : String → Option String) (ps : List Part) :
    (∃ vs, Values environment ps vs) ∨ ∃ n, FirstMissing environment ps n := by
  induction ps with
  | nil => exact .inl ⟨[], .nil⟩
  | cons p ps ih =>
    rcases p.value_or_missing environment with ⟨v, hv⟩ | ⟨n, hp, hn⟩
    · rcases ih with ⟨vs, hvs⟩ | ⟨n, before, b, after, rfl, hbefore, hb⟩
      · exact .inl ⟨v :: vs, .cons hv hvs⟩
      · refine .inr ⟨n, p :: before, b, after, rfl, ?_, hb⟩
        exact List.forall_mem_cons.2 ⟨Option.isSome_iff_exists.2 ⟨v, hv⟩, hbefore⟩
    · exact .inr ⟨n, [], p, ps, rfl, by simp, hp, hn⟩

/-- The text of a template becomes the texts that its parts stand for, in order. It fails just if a
part stands for no text, with the name of the variable that the first such part refers to. -/
theorem expand_written (environment : String → Option String) (ps : List Part)
    (hps : WellFormed ps) :
    (∀ s, expand environment (String.ofList (written ps)) = .ok s ↔
      ∃ vs, Values environment ps vs ∧ s = String.join vs) ∧
      ∀ e, expand environment (String.ofList (written ps)) = .error e ↔
        ∃ n, FirstMissing environment ps n ∧ e = .missingVariable n := by
  unfold expand
  rw [String.toList_ofList]
  have hvalues : ∀ vs, Values environment ps vs → valueOf environment (pieces (written ps)) =
      .ok (String.join vs) := fun vs hvs => hvs.valueOf hps
  have hmissing : ∀ n, FirstMissing environment ps n →
      valueOf environment (pieces (written ps)) = .error (.missingVariable n) :=
    fun n hn => hn.valueOf hps
  constructor
  · intro s
    constructor
    · intro hs
      rcases values_or_firstMissing environment ps with ⟨vs, hvs⟩ | ⟨n, hn⟩
      · exact ⟨vs, hvs, Except.ok.inj (hs.symm.trans (hvalues vs hvs))⟩
      · cases hs.symm.trans (hmissing n hn)
    · rintro ⟨vs, hvs, rfl⟩
      exact hvalues vs hvs
  · intro e
    constructor
    · intro he
      rcases values_or_firstMissing environment ps with ⟨vs, hvs⟩ | ⟨n, hn⟩
      · cases he.symm.trans (hvalues vs hvs)
      · exact ⟨n, hn, Except.error.inj (he.symm.trans (hmissing n hn))⟩
    · rintro ⟨n, hn, rfl⟩
      exact hmissing n hn

/-- The variables of a user whose values look like references. -/
def userVariables : String → Option String
  | "HOME" => some "$\x7bUSER\x7d"
  | "USER" => some "$HOME"
  | _ => none

/-- A template whose references stand side by side, and between dollar signs. -/
def userParts : List Part :=
  [.literal "at ", .bare "USER", .braced "HOME", .dollar, .bare "USER", .literal "-", .dollar]

/-- A template two of whose variables have no value. -/
def portParts : List Part :=
  [.bare "USER", .dollar, .braced "PORT", .bare "HOST", .braced "HOME"]

/-- The values are put in place and not read again, and the first variable without one is the
error. -/
theorem expand_written_userParts :
    WellFormed userParts ∧ WellFormed portParts ∧
      expand userVariables "at $USER$\x7bHOME\x7d$$USER-$" =
        .ok "at $HOME$\x7bUSER\x7d$$HOME-$" ∧
      expand userVariables "$USER$$\x7bPORT\x7d$HOST$\x7bHOME\x7d" =
        .error (.missingVariable "PORT") := by
  have huser : WellFormed userParts := by decide +kernel
  have hport : WellFormed portParts := by decide +kernel
  have hvalues : Values userVariables userParts
      ["at ", "$HOME", "$\x7bUSER\x7d", "$", "$HOME", "-", "$"] := by
    repeat constructor
  have hmissing : FirstMissing userVariables portParts "PORT" :=
    ⟨[.bare "USER", .dollar], .braced "PORT", [.bare "HOST", .braced "HOME"], rfl, by decide, rfl,
      rfl⟩
  exact ⟨huser, hport, ((expand_written userVariables userParts huser).1 _).2 ⟨_, hvalues, rfl⟩,
    ((expand_written userVariables portParts hport).2 _).2 ⟨_, hmissing, rfl⟩⟩

end MetricLayer.Template
