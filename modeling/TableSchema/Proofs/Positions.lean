import TableSchema.Proofs.Tokens
import TableSchema.Syntax.Grammar

/-!
# Where syntax errors lie

A text that is no document has an error at an offset inside of it, or at its end.

* (characters) `StopsBy last r stop` says of the outcome of a reader that it fails at an offset up to `last`, or stops
  there at the latest.  There is one lemma for each reader, up to `readLexeme_stopsBy`;
* (tokens) `tokenizeAt_within`: the tokens of a text start within it, and so does the lexical error behind them;
* (grammar) `Parser.StaysWithin` says that a parser which stands within a text fails or goes on within it.  It is kept
  by sequences and repetitions, and each production has it.

Main statement: `position_le_of_parse_eq_error`.
-/

namespace TableSchema.Syntax

open Text

variable {α β : Type} {last : Nat}

/-! ### Outcomes of readers -/

/-- An outcome of a reader that fails at an offset up to `last`, or stops there at the latest. -/
def StopsBy (last : Nat) (r : Except SyntaxError α) (stop : α → Nat) : Prop :=
  match r with
  | .error e => e.position ≤ last
  | .ok a => stop a ≤ last

theorem StopsBy.bind {r : Except SyntaxError α} {next : α → Except SyntaxError β} {stop : α → Nat} {stop' : β → Nat}
    (h : StopsBy last r stop) (hnext : ∀ a, stop a ≤ last → StopsBy last (next a) stop') :
    StopsBy last (r >>= next) stop' := by
  cases r with
  | error e => exact h
  | ok a => exact hnext a h

theorem StopsBy.map {r : Except SyntaxError α} {g : α → β} {stop : α → Nat} {stop' : β → Nat}
    (h : StopsBy last r stop) (hg : ∀ a, stop a ≤ last → stop' (g a) ≤ last) : StopsBy last (g <$> r) stop' := by
  cases r with
  | error e => exact h
  | ok a => exact hg a h

/-! ### Numbers -/

section Numbers

variable {p : Nat} {text : List Char}

theorem length_takeWhile_le (q : Char → Bool) (text : List Char) : (text.takeWhile q).length ≤ text.length :=
  (List.takeWhile_prefix q).length_le

theorem readDigits_stopsBy (h : p + text.length ≤ last) : StopsBy last (readDigits p text) (p + ·) := by
  have hcount := length_takeWhile_le Char.isDigit text
  unfold readDigits
  dsimp only
  split_ifs
  · show p ≤ last
    omega
  · show p + (text.takeWhile Char.isDigit).length ≤ last
    omega

theorem one_le_length_of_head? {c : Char} (h : text.head? = some c) : 1 ≤ text.length := by
  cases text with
  | nil => cases h
  | cons _ _ => simp

theorem readWhole_stopsBy (h : p + text.length ≤ last) : StopsBy last (readWhole p text) (p + ·) := by
  unfold readWhole
  dsimp only
  split_ifs with hzero hnext
  · have := one_le_length_of_head? hzero
    show p + 1 ≤ last
    omega
  · have := one_le_length_of_head? hzero
    show p + 1 ≤ last
    omega
  · exact readDigits_stopsBy h

theorem readFraction_stopsBy (h : p + text.length ≤ last) : StopsBy last (readFraction p text) (p + ·) := by
  unfold readFraction
  split_ifs with hdot
  · have := one_le_length_of_head? hdot
    have hdigits : StopsBy last (readDigits (p + 1) text.tail) (p + 1 + ·) := by
      apply readDigits_stopsBy
      rw [List.length_tail]
      omega
    refine hdigits.map fun count hcount => ?_
    show p + (1 + count) ≤ last
    omega
  · show p + 0 ≤ last
    omega

theorem two_le_length_of_getElem? {c : Char} (h : text[1]? = some c) : 2 ≤ text.length :=
  (List.getElem?_eq_some_iff.1 h).1

theorem readExponent_stopsBy (h : p + text.length ≤ last) : StopsBy last (readExponent p text) (p + ·) := by
  unfold readExponent
  by_cases hmark : text.head? = some 'e' ∨ text.head? = some 'E'
  · have hone : 1 ≤ text.length := hmark.elim one_le_length_of_head? one_le_length_of_head?
    have hsign : 1 + (if text[1]? = some '+' ∨ text[1]? = some '-' then 1 else 0) ≤ text.length := by
      split_ifs with hsome
      · exact hsome.elim two_le_length_of_getElem? two_le_length_of_getElem?
      · exact hone
    rw [if_pos hmark]
    generalize (if text[1]? = some '+' ∨ text[1]? = some '-' then 1 else 0) = sign at hsign ⊢
    dsimp only
    refine (readDigits_stopsBy ?_).map fun count hcount => ?_
    · rw [List.length_drop]
      omega
    · show p + (1 + sign + count) ≤ last
      omega
  · rw [if_neg hmark]
    show p + 0 ≤ last
    omega

theorem readNumber_stopsBy (h : p + text.length ≤ last) : StopsBy last (readNumber p text) (p + ·.2) := by
  have hsign : (if text.head? = some '-' then 1 else 0) ≤ text.length := by
    split_ifs with hminus
    · exact one_le_length_of_head? hminus
    · exact Nat.zero_le _
  unfold readNumber
  generalize (if text.head? = some '-' then 1 else 0) = sign at hsign ⊢
  dsimp only
  -- Each part begins where the one before it stops.
  refine (readWhole_stopsBy ?_).bind fun whole hwhole => ?_
  · rw [List.length_drop]
    omega
  refine (readFraction_stopsBy ?_).bind fun fraction hfraction => ?_
  · rw [List.length_drop]
    omega
  refine (readExponent_stopsBy ?_).bind fun exponent hexponent => ?_
  · rw [List.length_drop]
    omega
  split_ifs <;>
  · show p + (sign + whole + fraction + exponent) ≤ last
    omega

end Numbers

/-! ### Strings -/

section Strings

variable {p : Nat} {rest text : List Char}

theorem le_of_readBracedEscape {size code : Nat} {r : Char × Nat} (h : readBracedEscape size code text = .ok r) :
    r.2 ≤ size + text.length := by
  induction text generalizing size code with
  | nil => cases h
  | cons c rest ih =>
    rw [List.length_cons]
    rw [readBracedEscape] at h
    split_ifs at h
    · cases h
      show size + 1 ≤ _
      omega
    · split at h
      · have := ih h
        omega
      · cases h

theorem four_le_of_readFourDigits {code : Nat} (h : readFourDigits text = some code) : 4 ≤ text.length := by
  unfold readFourDigits at h
  split_ifs at h with hshort
  exact Nat.le_of_not_lt hshort

theorem le_of_readFixedEscape {r : Char × Nat} (h : readFixedEscape text = some r) : r.2 ≤ 2 + text.length := by
  unfold readFixedEscape at h
  obtain ⟨code, hcode, h⟩ := Option.bind_eq_some_iff.1 h
  have hfour := four_le_of_readFourDigits hcode
  split_ifs at h
  · obtain rfl := Option.some.inj h
    show 6 ≤ _
    omega
  · obtain ⟨⟨⟩, -, h⟩ := Option.bind_eq_some_iff.1 h
    obtain ⟨trailing, htrailing, h⟩ := Option.bind_eq_some_iff.1 h
    obtain ⟨⟨⟩, -, h⟩ := Option.bind_eq_some_iff.1 h
    obtain rfl := Option.some.inj h
    have hfour := four_le_of_readFourDigits htrailing
    rw [List.length_drop] at hfour
    show 12 ≤ _
    omega

theorem readEscape_stopsBy (h : p + 1 + rest.length ≤ last) : StopsBy last (readEscape p rest) (p + ·.2) := by
  unfold readEscape
  dsimp only
  split
  · rename_i digits
    cases hread : readBracedEscape 3 0 digits with
    | error size =>
      show p ≤ last
      omega
    | ok r =>
      have := le_of_readBracedEscape hread
      simp only [List.length_cons] at h
      show p + r.2 ≤ last
      omega
  · rename_i digits _
    cases hread : readFixedEscape digits with
    | none =>
      show p ≤ last
      omega
    | some r =>
      have := le_of_readFixedEscape hread
      simp only [List.length_cons] at h
      show p + r.2 ≤ last
      omega
  · rename_i c rest _ _
    cases simpleEscape? c with
    | none =>
      show p ≤ last
      omega
    | some value =>
      simp only [List.length_cons] at h
      show p + 2 ≤ last
      omega
  · show p ≤ last
    omega

theorem readString_stopsBy (h : p + text.length ≤ last) : StopsBy last (readString p text) (p + ·.2) := by
  fun_induction readString p text with
  | case1 p =>
    show p ≤ last
    omega
  | case2 p rest =>
    simp only [List.length_cons] at h
    show p + 1 ≤ last
    omega
  | case3 p rest e hread =>
    simp only [List.length_cons] at h
    have hstops : StopsBy last (readEscape p rest) (p + ·.2) := readEscape_stopsBy (by omega)
    rwa [hread] at hstops
  | case4 p rest c size hread ih =>
    simp only [List.length_cons] at h
    have htwo : 2 ≤ size := two_le_of_readEscape hread
    -- The escape ends within this text, which need not reach up to the last offset.
    have hsize : p + size ≤ p + 1 + rest.length := by
      have hexact : StopsBy (p + 1 + rest.length) (readEscape p rest) (p + ·.2) := readEscape_stopsBy (Nat.le_refl _)
      rwa [hread] at hexact
    refine (ih ?_).map fun r hr => ?_
    · rw [List.length_drop]
      omega
    · show p + (size + r.2) ≤ last
      omega
  | case5 p c rest _ _ hnewline =>
    show p ≤ last
    omega
  | case6 p c rest _ _ hnewline ih =>
    simp only [List.length_cons] at h
    refine (ih (by omega)).map fun r hr => ?_
    show p + (r.2 + 1) ≤ last
    omega

theorem le_of_readBlockText {r : List Char × Nat} (h : readBlockText text = some r) : r.2 ≤ text.length := by
  fun_induction readBlockText text generalizing r with
  | case1 => cases h
  | case2 rest =>
    cases h
    simp
  | case3 rest ih =>
    obtain ⟨r, hr, rfl⟩ := Option.map_eq_some_iff.1 h
    have := ih hr
    simp only [List.length_cons]
    omega
  | case4 c rest _ _ ih =>
    obtain ⟨r, hr, rfl⟩ := Option.map_eq_some_iff.1 h
    have := ih hr
    simp only [List.length_cons]
    omega

end Strings

/-! ### Tokens -/

theorem readLexeme_stopsBy {p : Nat} {c : Char} {rest : List Char} (h : p + 1 + rest.length ≤ last) :
    StopsBy last (readLexeme p c rest) (p + ·.2) := by
  unfold readLexeme
  split
  · show p + 1 ≤ last
    omega
  split_ifs with hname hnumber hmark hdots
  · have := length_takeWhile_le isNameContinue rest
    show p + (c :: rest.takeWhile isNameContinue).length ≤ last
    rw [List.length_cons]
    omega
  · refine readNumber_stopsBy ?_
    rw [List.length_cons]
    omega
  · split
    · rename_i text
      simp only [List.length_cons] at h
      cases hread : readBlockText text with
      | none =>
        show p + 1 + (text.length + 1 + 1) ≤ last
        omega
      | some r =>
        have := le_of_readBlockText hread
        show p + (r.2 + 3) ≤ last
        omega
    · have hstring : StopsBy last (readString (p + 1) rest) (p + 1 + ·.2) := readString_stopsBy h
      refine hstring.map fun r hr => ?_
      show p + (r.2 + 1) ≤ last
      omega
  · simp only [Bool.and_eq_true, beq_iff_eq] at hdots
    have hlength := congrArg List.length hdots.2
    simp only [List.length_take, List.length_cons, List.length_nil] at hlength
    show p + 3 ≤ last
    omega
  · show p ≤ last
    omega

/-- Tokens that start up to an offset, with a lexical error up to there if there is one behind them. -/
structure Tokens.Within (last : Nat) (ts : Tokens) : Prop where
  tokens : ∀ t ∈ ts.tokens, t.start ≤ last
  error : ∀ e ∈ ts.error, e.position ≤ last

/-- A gap ends as far from the end of the text as the text behind it is long. -/
theorem skipIgnored_add_length (inComment : Bool) (p : Nat) (text : List Char) :
    (skipIgnored inComment p text).1 + (skipIgnored inComment p text).2.length = p + text.length := by
  induction text generalizing inComment p with
  | nil => rfl
  | cons c rest ih =>
    have hnext : ∀ inComment, (skipIgnored inComment (p + 1) rest).1 + (skipIgnored inComment (p + 1) rest).2.length =
        p + (c :: rest).length := by
      intro inComment
      rw [ih, List.length_cons]
      omega
    unfold skipIgnored
    split_ifs <;> first | exact hnext _ | rfl

/-- The tokens of a text start within it, and so does the lexical error that ends them. -/
theorem tokenizeAt_within {p : Nat} {text : List Char} (h : p + text.length ≤ last) :
    (tokenizeAt p text).Within last := by
  induction hlength : text.length using Nat.strongRecOn generalizing p text with
  | ind length ih =>
    have hsum := skipIgnored_add_length false p text
    have hle := length_skipIgnored_le false p text
    cases hgap : skipIgnored false p text with
    | mk q rest =>
      rw [hgap] at hsum hle
      cases rest with
      | nil =>
        rw [tokenizeAt_of_end hgap]
        refine ⟨fun t ht => ?_, by simp⟩
        rw [List.mem_singleton.1 ht]
        simp only [List.length_nil] at hsum
        show q ≤ last
        omega
      | cons c rest =>
        simp only [List.length_cons] at hsum hle
        have hstops : StopsBy last (readLexeme q c rest) (q + ·.2) := readLexeme_stopsBy (by omega)
        cases hread : readLexeme q c rest with
        | error e =>
          rw [hread] at hstops
          rw [tokenizeAt_of_error hgap hread]
          refine ⟨by simp, fun e' he' => ?_⟩
          obtain rfl := Option.some.inj he'
          exact hstops
        | ok r =>
          obtain ⟨lexeme, size⟩ := r
          have hone : 1 ≤ size := one_le_of_readLexeme hread
          have hsize : q + size ≤ q + 1 + rest.length := by
            have hexact : StopsBy (q + 1 + rest.length) (readLexeme q c rest) (q + ·.2) :=
              readLexeme_stopsBy (Nat.le_refl _)
            rwa [hread] at hexact
          have hrest : (rest.drop (size - 1)).length = rest.length - (size - 1) := List.length_drop
          have hwithin := ih (rest.drop (size - 1)).length (by omega) (p := q + size) (by omega) rfl
          rw [tokenizeAt_of_lexeme hgap hread]
          refine ⟨fun t ht => ?_, hwithin.error⟩
          rcases List.mem_cons.1 ht with rfl | ht
          · show q ≤ last
            omega
          · exact hwithin.tokens t ht

/-! ### Parsers -/

/-- A cursor whose tokens, and the lexical error behind them, lie up to an offset. -/
structure Cursor.Within (last : Nat) (c : Cursor) : Prop where
  current : c.current.start ≤ last
  following : ∀ t ∈ c.following, t.start ≤ last
  error : ∀ e ∈ c.error, e.position ≤ last

namespace Parser

/-- A parser that fails or goes on up to an offset if it stands there. -/
def StaysWithin (last : Nat) (p : Parser α) : Prop :=
  ∀ ⦃c : Cursor⦄, c.Within last →
    match p.run c with
    | .error e => e.position ≤ last
    | .ok (_, c') => c'.Within last

namespace StaysWithin

variable {p : Parser α} {f : α → Parser β}

theorem pure (a : α) : StaysWithin last (pure a : Parser α) :=
  fun _ hc => hc

theorem bind (hp : StaysWithin last p) (hf : ∀ a, StaysWithin last (f a)) : StaysWithin last (p >>= f) := by
  intro c hc
  have hrun := hp hc
  rw [StateT.run_bind]
  cases h : p.run c with
  | error e =>
    rw [h] at hrun
    exact hrun
  | ok r =>
    rw [h] at hrun
    exact hf r.1 hrun

theorem map {g : α → β} (hp : StaysWithin last p) : StaysWithin last (g <$> p) := by
  rw [← bind_pure_comp]
  exact hp.bind fun _ => .pure _

theorem discard (hp : StaysWithin last p) : StaysWithin last (discard p) :=
  hp.map

theorem ite {b : Prop} [Decidable b] {q : Parser α} (hp : StaysWithin last p) (hq : StaysWithin last q) :
    StaysWithin last (if b then p else q) := by
  split
  · exact hp
  · exact hq

end StaysWithin

section Productions

theorem failAt_staysWithin {t : Token} (h : t.start ≤ last) (fault : SyntaxFault) :
    StaysWithin last (failAt t fault : Parser α) :=
  fun _ _ => h

theorem get_bind_staysWithin {f : Cursor → Parser β} (hf : ∀ c, StaysWithin last (f c)) :
    StaysWithin last (get >>= f) :=
  fun c hc => hf c hc

/-- A parser can fail at the current token. -/
theorem current_bind_staysWithin {f : Token → Parser β} (hf : ∀ t : Token, t.start ≤ last → StaysWithin last (f t)) :
    StaysWithin last (current >>= f) :=
  fun c hc => hf c.current hc.current hc

/-- A parser can fail at the token after the current one. -/
theorem lookahead_bind_staysWithin {f : Token → Parser β}
    (hf : ∀ t : Token, t.start ≤ last → StaysWithin last (f t)) : StaysWithin last (lookahead >>= f) := by
  rintro ⟨current, following, error, lastStop⟩ hc
  cases following with
  | nil =>
    cases error with
    | none => exact hf current hc.current hc
    | some e => exact hc.error e rfl
  | cons next rest => exact hf next (hc.following next List.mem_cons_self) hc

theorem advance_staysWithin : StaysWithin last advance := by
  rintro ⟨current, following, error, lastStop⟩ hc
  cases following with
  | nil =>
    cases error with
    | none => exact ⟨hc.current, by simp, by simp⟩
    | some e => exact hc.error e rfl
  | cons next rest =>
    exact ⟨hc.following next List.mem_cons_self, fun t ht => hc.following t (List.mem_cons_of_mem _ ht), hc.error⟩

theorem at?_staysWithin (p : Punctuator) : StaysWithin last (at? p) :=
  current_bind_staysWithin fun _ _ => .pure _

theorem skip?_staysWithin (p : Punctuator) : StaysWithin last (skip? p) :=
  (at?_staysWithin p).bind fun _ => .ite (advance_staysWithin.bind fun _ => .pure _) (.pure _)

theorem unexpected_staysWithin : StaysWithin last (unexpected : Parser α) :=
  current_bind_staysWithin fun _ ht => failAt_staysWithin ht _

theorem expect_staysWithin (p : Punctuator) : StaysWithin last (expect p) :=
  (skip?_staysWithin p).bind fun _ =>
    .ite (.pure _) (current_bind_staysWithin fun _ ht => failAt_staysWithin ht _)

theorem skipKeyword?_staysWithin (word : String) : StaysWithin last (skipKeyword? word) :=
  current_bind_staysWithin fun _ _ => .ite (advance_staysWithin.bind fun _ => .pure _) (.pure _)

theorem expectKeyword_staysWithin (word : String) : StaysWithin last (expectKeyword word) :=
  (skipKeyword?_staysWithin word).bind fun _ =>
    .ite (.pure _) (current_bind_staysWithin fun _ ht => failAt_staysWithin ht _)

theorem name_staysWithin : StaysWithin last name := by
  refine current_bind_staysWithin fun t ht => ?_
  cases t.lexeme with
  | name text => exact advance_staysWithin.bind fun _ => .pure _
  | _ => exact failAt_staysWithin ht _

theorem atName_staysWithin : StaysWithin last atName := by
  refine current_bind_staysWithin fun t _ => ?_
  cases t.lexeme <;> exact .pure _

theorem description?_staysWithin : StaysWithin last description? := by
  refine current_bind_staysWithin fun t _ => ?_
  cases t.lexeme with
  | string value => exact advance_staysWithin.bind fun _ => .pure _
  | blockString value => exact advance_staysWithin.bind fun _ => .pure _
  | _ => exact .pure _

/-! ### Repetitions -/

theorem budget_bind_staysWithin {f : Nat → Parser β} (hf : ∀ n, StaysWithin last (f n)) :
    StaysWithin last (budget >>= f) :=
  fun c hc => hf (c.following.length + 2) hc

section Repetitions

variable {item : Parser α} (hitem : StaysWithin last item)

include hitem

theorem repeatUntil_staysWithin (close : Punctuator) (budget : Nat) :
    StaysWithin last (repeatUntil item close budget) := by
  induction budget with
  | zero => exact unexpected_staysWithin
  | succ budget ih =>
    exact (skip?_staysWithin close).bind fun _ =>
      .ite (.pure _) (hitem.bind fun _ => ih.bind fun _ => .pure _)

theorem any_staysWithin (opening close : Punctuator) : StaysWithin last (any opening item close) :=
  (expect_staysWithin opening).bind fun _ => budget_bind_staysWithin fun n => repeatUntil_staysWithin hitem close n

theorem many_staysWithin (opening close : Punctuator) : StaysWithin last (many opening item close) :=
  (expect_staysWithin opening).bind fun _ => hitem.bind fun _ => budget_bind_staysWithin fun n =>
    (repeatUntil_staysWithin hitem close n).bind fun _ => .pure _

theorem optionalMany_staysWithin (opening close : Punctuator) : StaysWithin last (optionalMany opening item close) :=
  (at?_staysWithin opening).bind fun _ => .ite (many_staysWithin hitem opening close) (.pure _)

theorem separated_staysWithin (separator : Punctuator) (budget : Nat) :
    StaysWithin last (separated separator item budget) := by
  induction budget with
  | zero => exact unexpected_staysWithin
  | succ budget ih =>
    exact (skip?_staysWithin separator).bind fun _ =>
      .ite (hitem.bind fun _ => ih.bind fun _ => .pure _) (.pure _)

theorem delimited_staysWithin (separator : Punctuator) : StaysWithin last (delimited separator item) :=
  (skip?_staysWithin separator).discard.bind fun _ => hitem.bind fun _ => budget_bind_staysWithin fun n =>
    (separated_staysWithin hitem separator n).bind fun _ => .pure _

theorem whileAt_staysWithin (p : Punctuator) (budget : Nat) : StaysWithin last (whileAt p item budget) := by
  induction budget with
  | zero => exact unexpected_staysWithin
  | succ budget ih =>
    exact (at?_staysWithin p).bind fun _ => .ite (hitem.bind fun _ => ih.bind fun _ => .pure _) (.pure _)

theorem after?_staysWithin (p : Punctuator) : StaysWithin last (after? p item) :=
  (skip?_staysWithin p).bind fun _ => .ite (hitem.bind fun _ => .pure _) (.pure _)

end Repetitions

/-! ### Values, directives and types -/

theorem leaf_staysWithin (value : Nat → Literal) : StaysWithin last (leaf value) :=
  current_bind_staysWithin fun _ _ => advance_staysWithin.bind fun _ => .pure _

theorem variableValue_staysWithin (constant : Bool) : StaysWithin last (variableValue constant) := by
  refine current_bind_staysWithin fun t ht => advance_staysWithin.bind fun _ => .ite ?_ ?_
  · refine current_bind_staysWithin fun u _ => ?_
    cases u.lexeme <;> exact failAt_staysWithin ht _
  · exact name_staysWithin.discard.bind fun _ => .pure _

theorem plainValue_staysWithin (constant : Bool) : StaysWithin last (plainValue constant) := by
  refine current_bind_staysWithin fun t _ => ?_
  split <;> first
    | exact leaf_staysWithin _
    | exact variableValue_staysWithin constant
    | exact unexpected_staysWithin

theorem tooDeep_staysWithin : StaysWithin last (tooDeep : Parser α) :=
  current_bind_staysWithin fun _ ht => failAt_staysWithin ht _

theorem objectField_staysWithin {value : Parser Value} (hvalue : StaysWithin last value) :
    StaysWithin last (objectField value) :=
  name_staysWithin.discard.bind fun _ => (expect_staysWithin .colon).bind fun _ => hvalue.discard

theorem bracketed_staysWithin {value : Parser Value} (hvalue : StaysWithin last value) :
    StaysWithin last (bracketed value) :=
  current_bind_staysWithin fun _ _ => (at?_staysWithin .leftBracket).bind fun _ =>
    .ite ((any_staysWithin hvalue .leftBracket .rightBracket).bind fun _ => .pure _)
      ((any_staysWithin (objectField_staysWithin hvalue) .leftBrace .rightBrace).discard.bind fun _ => .pure _)

theorem value_staysWithin (constant : Bool) (depth : Nat) : StaysWithin last (value constant depth) := by
  induction depth with
  | zero =>
    exact (at?_staysWithin .leftBracket).bind fun _ => (at?_staysWithin .leftBrace).bind fun _ =>
      .ite (tooDeep_staysWithin.bind fun _ => plainValue_staysWithin constant) (plainValue_staysWithin constant)
  | succ depth ih =>
    exact (at?_staysWithin .leftBracket).bind fun _ => (at?_staysWithin .leftBrace).bind fun _ =>
      .ite (bracketed_staysWithin ih) (plainValue_staysWithin constant)

theorem arguments_staysWithin (constant : Bool) (depth : Nat) : StaysWithin last (arguments constant depth) := by
  have hargument : StaysWithin last (argument constant depth) :=
    name_staysWithin.bind fun _ => (expect_staysWithin .colon).bind fun _ =>
      (value_staysWithin constant depth).bind fun _ => .pure _
  exact optionalMany_staysWithin hargument .leftParen .rightParen

theorem directives_staysWithin (constant : Bool) (depth : Nat) : StaysWithin last (directives constant depth) := by
  have hdirective : StaysWithin last (directive constant depth) :=
    current_bind_staysWithin fun _ _ => (expect_staysWithin .atSign).bind fun _ => name_staysWithin.bind fun _ =>
      (arguments_staysWithin constant depth).bind fun _ => .pure _
  exact budget_bind_staysWithin fun n => whileAt_staysWithin hdirective .atSign n

theorem constantDirectives_staysWithin : StaysWithin last constantDirectives :=
  directives_staysWithin true maxDepth

theorem namedType_staysWithin : StaysWithin last namedType :=
  name_staysWithin.bind fun _ => (skip?_staysWithin .bang).bind fun _ => .pure _

theorem type_staysWithin : StaysWithin last type := by
  have htype : ∀ depth, StaysWithin last (typeExpr depth) := by
    intro depth
    induction depth with
    | zero =>
      exact (skip?_staysWithin .leftBracket).bind fun _ =>
        .ite (tooDeep_staysWithin.bind fun _ => namedType_staysWithin) namedType_staysWithin
    | succ depth ih =>
      exact current_bind_staysWithin fun _ _ => (skip?_staysWithin .leftBracket).bind fun _ =>
        .ite (ih.bind fun _ => (expect_staysWithin .rightBracket).bind fun _ =>
          (skip?_staysWithin .bang).bind fun _ => .pure _) namedType_staysWithin
  exact htype maxDepth

/-! ### Operations and fragments -/

theorem selectionSet_staysWithin (depth : Nat) : StaysWithin last (selectionSet depth) := by
  induction depth with
  | zero => exact tooDeep_staysWithin
  | succ depth ih =>
    have hdirectives : StaysWithin last (discard (directives false depth)) :=
      (directives_staysWithin false depth).discard
    have hname : StaysWithin last (discard name) := name_staysWithin.discard
    have hselection : StaysWithin last (selection depth (selectionSet depth)) := by
      refine (skip?_staysWithin .ellipsis).bind fun _ => .ite ?_ ?_
      · refine (skipKeyword?_staysWithin "on").bind fun _ => .ite ?_ (atName_staysWithin.bind fun _ => .ite ?_ ?_)
        · exact hname.bind fun _ => hdirectives.bind fun _ => ih
        · exact hname.bind fun _ => hdirectives
        · exact hdirectives.bind fun _ => ih
      · refine hname.bind fun _ => (skip?_staysWithin .colon).bind fun _ => ?_
        have hrest : StaysWithin last (do
            discard <| arguments false depth
            discard <| directives false depth
            if ← at? .leftBrace then selectionSet depth) :=
          (arguments_staysWithin false depth).discard.bind fun _ => hdirectives.bind fun _ =>
            (at?_staysWithin .leftBrace).bind fun _ => .ite ih (.pure _)
        exact .ite (hname.bind fun _ => hrest) hrest
    exact (many_staysWithin hselection .leftBrace .rightBrace).discard

theorem operationType_staysWithin : StaysWithin last operationType :=
  current_bind_staysWithin fun _ ht => name_staysWithin.bind fun _ => .ite (.pure _) (failAt_staysWithin ht _)

theorem operation_staysWithin : StaysWithin last operation := by
  have hvariable : StaysWithin last variableDefinition :=
    description?_staysWithin.discard.bind fun _ => (expect_staysWithin .dollar).bind fun _ =>
      name_staysWithin.discard.bind fun _ => (expect_staysWithin .colon).bind fun _ =>
        type_staysWithin.discard.bind fun _ =>
          (after?_staysWithin (value_staysWithin true maxDepth) .equals).discard.bind fun _ =>
            constantDirectives_staysWithin.discard
  have hrest : ∀ n : Option Name, StaysWithin last (do
      discard <| optionalMany .leftParen variableDefinition .rightParen
      discard <| directives false maxDepth
      selectionSet maxDepth
      return n.map (·.text)) :=
    fun _ => (optionalMany_staysWithin hvariable .leftParen .rightParen).discard.bind fun _ =>
      (directives_staysWithin false maxDepth).discard.bind fun _ =>
        (selectionSet_staysWithin maxDepth).bind fun _ => .pure _
  have hfull : StaysWithin last (do
      discard description?
      operationType
      let n ← if ← atName then some <$> name else Pure.pure none
      discard <| optionalMany .leftParen variableDefinition .rightParen
      discard <| directives false maxDepth
      selectionSet maxDepth
      return n.map (·.text)) :=
    description?_staysWithin.discard.bind fun _ => operationType_staysWithin.bind fun _ =>
      atName_staysWithin.bind fun _ =>
        .ite (name_staysWithin.map.bind fun n => hrest n) (StaysWithin.bind (.pure none) fun n => hrest n)
  exact (at?_staysWithin .leftBrace).bind fun _ =>
    .ite ((selectionSet_staysWithin maxDepth).bind fun _ => .pure _) hfull

theorem fragment_staysWithin : StaysWithin last fragment := by
  have hrest : StaysWithin last (do
      let n ← name
      expectKeyword "on"
      discard name
      discard <| directives false maxDepth
      selectionSet maxDepth
      return some n.text) :=
    name_staysWithin.bind fun _ => (expectKeyword_staysWithin "on").bind fun _ =>
      name_staysWithin.discard.bind fun _ => (directives_staysWithin false maxDepth).discard.bind fun _ =>
        (selectionSet_staysWithin maxDepth).bind fun _ => .pure _
  exact description?_staysWithin.discard.bind fun _ => (expectKeyword_staysWithin "fragment").bind fun _ =>
    current_bind_staysWithin fun _ _ => .ite (unexpected_staysWithin.bind fun _ => hrest) hrest

/-! ### Definitions of types -/

theorem inputValue_staysWithin : StaysWithin last inputValue :=
  current_bind_staysWithin fun _ _ => description?_staysWithin.bind fun _ => name_staysWithin.bind fun _ =>
    (expect_staysWithin .colon).bind fun _ => type_staysWithin.bind fun _ =>
      (after?_staysWithin (value_staysWithin true maxDepth) .equals).bind fun _ =>
        constantDirectives_staysWithin.bind fun _ => .pure _

theorem fields_staysWithin : StaysWithin last fields := by
  have hfield : StaysWithin last fieldDeclaration :=
    current_bind_staysWithin fun _ _ => description?_staysWithin.bind fun _ => name_staysWithin.bind fun _ =>
      (optionalMany_staysWithin inputValue_staysWithin .leftParen .rightParen).bind fun _ =>
        (expect_staysWithin .colon).bind fun _ => type_staysWithin.bind fun _ =>
          constantDirectives_staysWithin.bind fun _ => .pure _
  exact optionalMany_staysWithin hfield .leftBrace .rightBrace

theorem interfaces_staysWithin : StaysWithin last interfaces :=
  (skipKeyword?_staysWithin "implements").bind fun _ =>
    .ite (delimited_staysWithin name_staysWithin .ampersand) (.pure _)

theorem enumerators_staysWithin : StaysWithin last enumerators := by
  have hrest : ∀ (t : Token) (description : Option String), StaysWithin last (do
      let name ← name
      return (⟨t.start, description, name, ← constantDirectives⟩ : EnumeratorDeclaration)) :=
    fun _ _ => name_staysWithin.bind fun _ => constantDirectives_staysWithin.bind fun _ => .pure _
  have henumerator : StaysWithin last enumerator :=
    current_bind_staysWithin fun t _ => description?_staysWithin.bind fun description =>
      current_bind_staysWithin fun _ ht =>
        .ite ((failAt_staysWithin ht _).bind fun _ => hrest t description) (hrest t description)
  exact optionalMany_staysWithin henumerator .leftBrace .rightBrace

theorem members_staysWithin : StaysWithin last members :=
  (skip?_staysWithin .equals).bind fun _ => .ite (delimited_staysWithin name_staysWithin .pipe) (.pure _)

theorem rootOperation_staysWithin : StaysWithin last rootOperation :=
  operationType_staysWithin.bind fun _ => (expect_staysWithin .colon).bind fun _ => name_staysWithin.discard

theorem directiveLocation_staysWithin : StaysWithin last directiveLocation :=
  current_bind_staysWithin fun _ ht => name_staysWithin.bind fun _ => .ite (.pure _) (failAt_staysWithin ht _)

theorem inputFields_staysWithin : StaysWithin last (optionalMany .leftBrace inputValue .rightBrace) :=
  optionalMany_staysWithin inputValue_staysWithin .leftBrace .rightBrace

/-- The end of a definition is taken from where the parser stands. -/
theorem end_staysWithin {f : Nat → α} : StaysWithin last (do return f (← get).lastStop) :=
  get_bind_staysWithin fun _ => .pure _

theorem typeDefinition_staysWithin (keyword : TypeKeyword) : StaysWithin last (typeDefinition keyword) := by
  refine current_bind_staysWithin fun _ _ => description?_staysWithin.bind fun _ =>
    (expectKeyword_staysWithin keyword.text).bind fun _ => ?_
  have hdirectives : StaysWithin last (discard constantDirectives) := constantDirectives_staysWithin.discard
  cases keyword with
  | schema =>
    exact hdirectives.bind fun _ =>
      (many_staysWithin rootOperation_staysWithin .leftBrace .rightBrace).discard.bind fun _ => end_staysWithin
  | scalar => exact name_staysWithin.bind fun _ => hdirectives.bind fun _ => end_staysWithin
  | type =>
    exact name_staysWithin.bind fun _ => interfaces_staysWithin.bind fun _ =>
      constantDirectives_staysWithin.bind fun _ => fields_staysWithin.bind fun _ =>
        get_bind_staysWithin fun _ => .pure _
  | interface =>
    exact name_staysWithin.bind fun _ => interfaces_staysWithin.discard.bind fun _ => hdirectives.bind fun _ =>
      fields_staysWithin.discard.bind fun _ => end_staysWithin
  | union =>
    exact name_staysWithin.bind fun _ => hdirectives.bind fun _ => members_staysWithin.discard.bind fun _ =>
      end_staysWithin
  | enum =>
    exact name_staysWithin.bind fun _ => constantDirectives_staysWithin.bind fun _ =>
      enumerators_staysWithin.bind fun _ => get_bind_staysWithin fun _ => .pure _
  | input =>
    exact name_staysWithin.bind fun _ => hdirectives.bind fun _ => inputFields_staysWithin.discard.bind fun _ =>
      end_staysWithin

theorem requirePart_staysWithin (present : Bool) : StaysWithin last (requirePart present) :=
  .ite (.pure _) unexpected_staysWithin

theorem fieldsExtension_staysWithin (kind : OtherDefinition) (start : Nat) :
    StaysWithin last (extension.fieldsExtension kind start) :=
  name_staysWithin.bind fun _ => interfaces_staysWithin.bind fun _ => constantDirectives_staysWithin.bind fun _ =>
    fields_staysWithin.bind fun _ => (requirePart_staysWithin _).bind fun _ => end_staysWithin

theorem extension_staysWithin (keyword : TypeKeyword) : StaysWithin last (extension keyword) := by
  refine current_bind_staysWithin fun _ _ => (expectKeyword_staysWithin "extend").bind fun _ =>
    (expectKeyword_staysWithin keyword.text).bind fun _ => ?_
  cases keyword with
  | schema =>
    exact constantDirectives_staysWithin.bind fun _ =>
      (optionalMany_staysWithin rootOperation_staysWithin .leftBrace .rightBrace).bind fun _ =>
        (requirePart_staysWithin _).bind fun _ => end_staysWithin
  | scalar =>
    exact name_staysWithin.bind fun _ => constantDirectives_staysWithin.bind fun _ =>
      (requirePart_staysWithin _).bind fun _ => end_staysWithin
  | type => exact fieldsExtension_staysWithin _ _
  | interface => exact fieldsExtension_staysWithin _ _
  | union =>
    exact name_staysWithin.bind fun _ => constantDirectives_staysWithin.bind fun _ =>
      members_staysWithin.bind fun _ => (requirePart_staysWithin _).bind fun _ => end_staysWithin
  | enum =>
    exact name_staysWithin.bind fun _ => constantDirectives_staysWithin.bind fun _ =>
      enumerators_staysWithin.bind fun _ => (requirePart_staysWithin _).bind fun _ => end_staysWithin
  | input =>
    exact name_staysWithin.bind fun _ => constantDirectives_staysWithin.bind fun _ =>
      inputFields_staysWithin.bind fun _ => (requirePart_staysWithin _).bind fun _ => end_staysWithin

theorem directiveDefinition_staysWithin : StaysWithin last directiveDefinition :=
  current_bind_staysWithin fun _ _ => description?_staysWithin.discard.bind fun _ =>
    (expectKeyword_staysWithin "directive").bind fun _ => (expect_staysWithin .atSign).bind fun _ =>
      name_staysWithin.bind fun _ =>
        (optionalMany_staysWithin inputValue_staysWithin .leftParen .rightParen).discard.bind fun _ =>
          (skipKeyword?_staysWithin "repeatable").discard.bind fun _ => (expectKeyword_staysWithin "on").bind fun _ =>
            (delimited_staysWithin directiveLocation_staysWithin .pipe).discard.bind fun _ => end_staysWithin

/-! ### Definitions -/

theorem executable_staysWithin (kind : OtherDefinition) {body : Parser (Option String)}
    (hbody : StaysWithin last body) : StaysWithin last (executable kind body) :=
  current_bind_staysWithin fun _ _ => hbody.bind fun _ => end_staysWithin

/-- The keyword of a definition is the current token, or the one behind its description. -/
theorem keyword_bind_staysWithin {described : Prop} [Decidable described] {t : Token} {f : Token → Parser β}
    (ht : t.start ≤ last) (hf : ∀ keyword : Token, keyword.start ≤ last → StaysWithin last (f keyword)) :
    StaysWithin last (if described then lookahead >>= f else pure t >>= f) :=
  .ite (lookahead_bind_staysWithin hf) (hf t ht)

theorem definition_staysWithin : StaysWithin last definition := by
  refine (at?_staysWithin .leftBrace).bind fun _ => .ite (executable_staysWithin .operation operation_staysWithin) ?_
  refine current_bind_staysWithin fun t ht => keyword_bind_staysWithin ht fun keyword hkeyword => ?_
  dsimp only
  split
  · exact failAt_staysWithin ht _
  · split
    · exact typeDefinition_staysWithin _
    · refine .ite directiveDefinition_staysWithin ?_
      refine .ite (executable_staysWithin .operation operation_staysWithin) ?_
      refine .ite (executable_staysWithin .fragment fragment_staysWithin) ?_
      refine .ite (failAt_staysWithin ht _) (.ite ?_ (failAt_staysWithin ht _))
      refine lookahead_bind_staysWithin fun next hnext => ?_
      split
      · split
        · exact extension_staysWithin _
        · exact failAt_staysWithin hnext _
      · exact failAt_staysWithin hnext _
  · exact failAt_staysWithin hkeyword _

theorem definitionsToEnd_staysWithin (budget : Nat) : StaysWithin last (definitionsToEnd budget) := by
  induction budget with
  | zero => exact unexpected_staysWithin
  | succ budget ih =>
    exact current_bind_staysWithin fun _ _ =>
      .ite (.pure _) (definition_staysWithin.bind fun _ => ih.bind fun _ => .pure _)

theorem document_staysWithin : StaysWithin last document :=
  definition_staysWithin.bind fun _ => budget_bind_staysWithin fun n =>
    (definitionsToEnd_staysWithin n).bind fun _ => .pure _

end Productions

end Parser

/-! ### Documents -/

/-- The error of a text that is no document lies in the text, or at its end. -/
theorem position_le_of_parse_eq_error {source : Source} {e : SyntaxError} (h : parse source = .error e) :
    e.position ≤ source.body.length := by
  have hwithin : (tokenize source.body).Within source.body.length := by
    refine tokenizeAt_within ?_
    rw [Nat.zero_add, String.length_toList]
  unfold parse at h
  generalize tokenize source.body = ts at h hwithin
  obtain ⟨tokens, error⟩ := ts
  cases tokens with
  | nil =>
    cases error with
    | none => cases h
    | some _ =>
      cases h
      exact hwithin.error _ rfl
  | cons first following =>
    have hcursor : Cursor.Within source.body.length ⟨first, following, error, 0⟩ :=
      ⟨hwithin.tokens first List.mem_cons_self, fun t ht => hwithin.tokens t (List.mem_cons_of_mem _ ht),
        hwithin.error⟩
    have hrun := Parser.document_staysWithin hcursor
    cases hdocument : Parser.document.run ⟨first, following, error, 0⟩ with
    | error e' =>
      rw [hdocument] at hrun
      simp only [StateT.run', StateT.run] at h hdocument
      rw [hdocument] at h
      cases h
      exact hrun
    | ok r =>
      simp only [StateT.run', StateT.run] at h hdocument
      rw [hdocument] at h
      cases h

end TableSchema.Syntax
