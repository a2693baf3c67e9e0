import Mathlib
import TableSchema.Proofs.FirstFinding
import TableSchema.Syntax.Lexer

/-!
# What tokens depend on

A lexeme is read from its own characters and the one behind them, and wherever it stands it is read alike.  So the
tokens of a text can be found again in its pieces.

Main statements: the tokens from one of them on are the tokens of the text from there on (`tokenizeAt_of_append`), and
the tokens of a text up to a closing brace are those of the text cut off behind it (`tokenizeAt_upTo`).
-/

namespace TableSchema.Syntax

open Text

/-! ### Local readers -/

/-- Whether a reader reads a text alike at every position, and whatever lies behind the character after those that it
takes. -/
def Local {α : Type} (read : Nat → List Char → Except SyntaxError α) (size : α → Nat) : Prop :=
  ∀ ⦃p xs more r⦄, read p (xs ++ more) = .ok r → size r < xs.length → ∀ p', read p' xs = .ok r

theorem takeWhile_of_append {p : Char → Bool} {xs more : List Char}
    (h : ((xs ++ more).takeWhile p).length < xs.length) : xs.takeWhile p = (xs ++ more).takeWhile p := by
  rw [List.takeWhile_append] at h ⊢
  split_ifs at h ⊢ with hall
  · rw [List.length_append] at h
    omega
  · rfl

theorem head?_of_append {xs : List Char} (h : 0 < xs.length) (more : List Char) : (xs ++ more).head? = xs.head? := by
  rw [List.head?_append_of_ne_nil _ (List.length_pos_iff.1 h)]

theorem local_readDigits : Local readDigits id := by
  intro p xs more r h hsize p'
  unfold readDigits at h ⊢
  dsimp only at h ⊢
  split_ifs at h with hcount
  cases h
  rw [takeWhile_of_append hsize, if_neg hcount]

theorem local_readWhole : Local readWhole id := by
  intro p xs more r h hsize p'
  change r < xs.length at hsize
  unfold readWhole at h ⊢
  rw [head?_of_append (by omega)] at h
  by_cases hzero : xs.head? = some '0'
  · rw [if_pos hzero] at h ⊢
    dsimp only at h ⊢
    split_ifs at h with hnext
    cases h
    rw [List.getElem?_append_left hsize] at hnext
    rw [if_neg hnext]
  · rw [if_neg hzero] at h ⊢
    exact local_readDigits h hsize p'

theorem local_readFraction : Local readFraction id := by
  intro p xs more r h hsize p'
  change r < xs.length at hsize
  unfold readFraction at h ⊢
  rw [head?_of_append (by omega)] at h
  by_cases hdot : xs.head? = some '.'
  · rw [if_pos hdot] at h ⊢
    obtain ⟨count, hdigits, rfl⟩ := map_eq_ok_iff.1 h
    rw [List.tail_append_of_ne_nil (List.length_pos_iff.1 (by omega))] at hdigits
    have hcount : count < xs.tail.length := by
      rw [List.length_tail]
      omega
    rw [local_readDigits hdigits hcount]
    rfl
  · rw [if_neg hdot] at h ⊢
    exact h

theorem local_readExponent : Local readExponent id := by
  intro p xs more r h hsize p'
  change r < xs.length at hsize
  unfold readExponent at h ⊢
  rw [head?_of_append (by omega)] at h
  by_cases hmark : xs.head? = some 'e' ∨ xs.head? = some 'E'
  · rw [if_pos hmark] at h ⊢
    dsimp only at h ⊢
    have hlong : 1 < xs.length := by
      obtain ⟨count, -, rfl⟩ := map_eq_ok_iff.1 h
      omega
    rw [List.getElem?_append_left hlong] at h
    generalize (if xs[1]? = some '+' ∨ xs[1]? = some '-' then 1 else 0) = sign at h ⊢
    obtain ⟨count, hdigits, rfl⟩ := map_eq_ok_iff.1 h
    rw [List.drop_append_of_le_length (by omega)] at hdigits
    have hcount : count < (xs.drop (1 + sign)).length := by
      rw [List.length_drop]
      omega
    rw [local_readDigits hdigits hcount]
    rfl
  · rw [if_neg hmark] at h ⊢
    exact h

theorem local_readNumber : Local readNumber Prod.snd := by
  intro p xs more r h hsize p'
  unfold readNumber at h ⊢
  have hpos : 0 < xs.length := Nat.zero_lt_of_lt hsize
  rw [head?_of_append hpos] at h
  have hsign : (if xs.head? = some '-' then 1 else 0) ≤ xs.length := by split_ifs <;> omega
  generalize (if xs.head? = some '-' then 1 else 0) = sign at h hsign ⊢
  dsimp only at h ⊢
  obtain ⟨whole, hwhole, h⟩ := bind_eq_ok_iff.1 h
  obtain ⟨fraction, hfraction, h⟩ := bind_eq_ok_iff.1 h
  obtain ⟨exponent, hexponent, h⟩ := bind_eq_ok_iff.1 h
  have hlength : sign + whole + fraction + exponent < xs.length := by
    split_ifs at h <;> cases h <;> exact hsize
  rw [List.drop_append_of_le_length (by omega)] at hwhole hfraction hexponent
  rw [List.getElem?_append_left hlength, List.take_append_of_le_length (by omega)] at h
  rw [local_readWhole hwhole (by rw [List.length_drop]; show whole < _; omega)]
  show (readFraction _ _ >>= _) = _
  rw [local_readFraction hfraction (by rw [List.length_drop]; show fraction < _; omega)]
  show (readExponent _ _ >>= _) = _
  rw [local_readExponent hexponent (by rw [List.length_drop]; show exponent < _; omega)]
  show (if _ then _ else _) = _
  split_ifs at h ⊢ with hnext <;> first | exact h | cases h

/-! ### Strings -/

theorem lt_of_readBracedEscape {text : List Char} {size code : Nat} {r : Char × Nat}
    (h : readBracedEscape size code text = .ok r) : size < r.2 := by
  induction text generalizing size code with
  | nil => cases h
  | cons c rest ih =>
    rw [readBracedEscape] at h
    split_ifs at h
    · cases h
      exact Nat.lt_succ_self size
    · split at h
      · exact Nat.lt_of_succ_lt (ih h)
      · cases h

theorem readBracedEscape_of_append {xs more : List Char} {size code : Nat} {r : Char × Nat}
    (h : readBracedEscape size code (xs ++ more) = .ok r) (hsize : r.2 ≤ size + xs.length) :
    readBracedEscape size code xs = .ok r := by
  induction xs generalizing size code with
  | nil =>
    have := lt_of_readBracedEscape h
    simp only [List.length_nil] at hsize
    omega
  | cons c rest ih =>
    rw [List.cons_append, readBracedEscape] at h
    rw [readBracedEscape]
    split_ifs at h ⊢
    · exact h
    · split at h
      · exact ih h (by simp only [List.length_cons] at hsize; omega)
      · cases h

theorem readFourDigits_of_append {xs : List Char} (h : 4 ≤ xs.length) (more : List Char) :
    readFourDigits (xs ++ more) = readFourDigits xs := by
  unfold readFourDigits
  rw [if_neg (by rw [List.length_append]; omega), if_neg (by omega), List.take_append_of_le_length h]

theorem readFixedEscape_of_append {xs more : List Char} {r : Char × Nat} (h : readFixedEscape (xs ++ more) = some r)
    (hsize : r.2 ≤ 2 + xs.length) : readFixedEscape xs = some r := by
  unfold readFixedEscape at h ⊢
  obtain ⟨code, hcode, h⟩ := Option.bind_eq_some_iff.1 h
  by_cases hscalar : isScalarValue code = true
  · rw [if_pos hscalar] at h
    cases h
    rw [readFourDigits_of_append (by simp only at hsize; omega)] at hcode
    exact Option.bind_eq_some_iff.2 ⟨code, hcode, if_pos hscalar⟩
  · rw [if_neg hscalar] at h
    obtain ⟨⟨⟩, hpair, h⟩ := Option.bind_eq_some_iff.1 h
    obtain ⟨trailing, htrailing, h⟩ := Option.bind_eq_some_iff.1 h
    obtain ⟨⟨⟩, hrange, h⟩ := Option.bind_eq_some_iff.1 h
    obtain rfl := Option.some.inj h
    have hlong : 10 ≤ xs.length := by
      simp only at hsize
      omega
    rw [readFourDigits_of_append (by omega)] at hcode
    rw [List.getElem?_append_left (by omega), List.getElem?_append_left (by omega)] at hpair
    rw [List.drop_append_of_le_length (by omega),
      readFourDigits_of_append (by rw [List.length_drop]; omega)] at htrailing
    refine Option.bind_eq_some_iff.2 ⟨code, hcode, ?_⟩
    rw [if_neg hscalar]
    exact Option.bind_eq_some_iff.2 ⟨(), hpair, Option.bind_eq_some_iff.2 ⟨trailing, htrailing,
      Option.bind_eq_some_iff.2 ⟨(), hrange, rfl⟩⟩⟩

theorem readEscape_braced_iff {p : Nat} {digits : List Char} {r : Char × Nat} :
    readEscape p ('u' :: '\x7b' :: digits) = .ok r ↔ readBracedEscape 3 0 digits = .ok r := by
  unfold readEscape
  dsimp only
  split
  · rename_i heq
    cases heq
    split <;> simp [*]
  · rename_i hbrace heq
    cases heq
    exact (hbrace _ rfl).elim
  · rename_i hu heq
    cases heq
    exact (hu rfl).elim
  · rename_i heq
    cases heq

theorem readEscape_fixed_iff {p : Nat} {digits : List Char} {r : Char × Nat} (h : digits.head? ≠ some '\x7b') :
    readEscape p ('u' :: digits) = .ok r ↔ readFixedEscape digits = some r := by
  unfold readEscape
  dsimp only
  split
  · rename_i heq
    cases heq
    exact absurd rfl h
  · rename_i heq
    cases heq
    split <;> simp [*]
  · rename_i hu heq
    cases heq
    exact (hu rfl).elim
  · rename_i heq
    cases heq

theorem readEscape_simple_iff {p : Nat} {c : Char} {rest : List Char} {r : Char × Nat} (h : c ≠ 'u') :
    readEscape p (c :: rest) = .ok r ↔ ∃ value, simpleEscape? c = some value ∧ (value, 2) = r := by
  unfold readEscape
  dsimp only
  split
  · rename_i heq
    cases heq
    exact absurd rfl h
  · rename_i heq
    cases heq
    exact absurd rfl h
  · rename_i heq
    cases heq
    split <;> simp [*]
  · rename_i heq
    cases heq

theorem readEscape_of_append {p : Nat} {xs more : List Char} {r : Char × Nat} (h : readEscape p (xs ++ more) = .ok r)
    (hpos : 0 < xs.length) (hsize : r.2 ≤ 1 + xs.length) (p' : Nat) : readEscape p' xs = .ok r := by
  obtain ⟨c, xs, rfl⟩ := List.exists_cons_of_ne_nil (List.length_pos_iff.1 hpos)
  rw [List.cons_append] at h
  by_cases hu : c = 'u'
  · subst hu
    rcases xs with _ | ⟨d, xs⟩
    · -- an escape takes more than its letter
      rcases more with _ | ⟨d, more⟩
      · cases h
      · by_cases hbrace : d = '\x7b'
        · subst hbrace
          have := lt_of_readBracedEscape (readEscape_braced_iff.1 h)
          simp only [List.length_cons, List.length_nil] at hsize
          omega
        · have hhead : (d :: more).head? ≠ some '\x7b' := fun heq => hbrace (Option.some.inj heq)
          have hfixed : readFixedEscape ([] ++ d :: more) = some r := (readEscape_fixed_iff hhead).1 h
          cases readFixedEscape_of_append hfixed hsize
    · by_cases hbrace : d = '\x7b'
      · subst hbrace
        rw [List.cons_append, readEscape_braced_iff] at h
        exact readEscape_braced_iff.2 (readBracedEscape_of_append h (by simp only [List.length_cons] at hsize; omega))
      · have hhead : (d :: xs).head? ≠ some '\x7b' := fun heq => hbrace (Option.some.inj heq)
        rw [readEscape_fixed_iff (show (d :: xs ++ more).head? ≠ _ from hhead)] at h
        refine (readEscape_fixed_iff hhead).2 (readFixedEscape_of_append h ?_)
        simp only [List.length_cons] at hsize ⊢
        omega
  · exact (readEscape_simple_iff hu).2 ((readEscape_simple_iff hu).1 h)

theorem six_le_of_readFixedEscape {digits : List Char} {r : Char × Nat} (h : readFixedEscape digits = some r) :
    6 ≤ r.2 := by
  unfold readFixedEscape at h
  obtain ⟨code, -, h⟩ := Option.bind_eq_some_iff.1 h
  split_ifs at h
  · obtain rfl := Option.some.inj h
    exact Nat.le_refl 6
  · obtain ⟨⟨⟩, -, h⟩ := Option.bind_eq_some_iff.1 h
    obtain ⟨trailing, -, h⟩ := Option.bind_eq_some_iff.1 h
    obtain ⟨⟨⟩, -, h⟩ := Option.bind_eq_some_iff.1 h
    obtain rfl := Option.some.inj h
    exact Nat.le_of_ble_eq_true rfl

theorem two_le_of_readEscape {p : Nat} {rest : List Char} {r : Char × Nat} (h : readEscape p rest = .ok r) :
    2 ≤ r.2 := by
  rcases rest with _ | ⟨c, rest⟩
  · cases h
  by_cases hu : c = 'u'
  · subst hu
    rcases rest with _ | ⟨d, rest⟩
    · cases h
    by_cases hbrace : d = '\x7b'
    · subst hbrace
      have := lt_of_readBracedEscape (readEscape_braced_iff.1 h)
      omega
    · have hhead : (d :: rest).head? ≠ some '\x7b' := fun heq => hbrace (Option.some.inj heq)
      have := six_le_of_readFixedEscape ((readEscape_fixed_iff hhead).1 h)
      omega
  · obtain ⟨value, -, rfl⟩ := (readEscape_simple_iff hu).1 h
    exact Nat.le_refl 2

theorem local_readString : Local readString Prod.snd := by
  intro p xs more r h hsize p'
  induction hn : xs.length using Nat.strongRecOn generalizing p p' xs r with
  | ind n ih =>
    subst hn
    obtain ⟨c, xs, rfl⟩ := List.exists_cons_of_ne_nil (List.length_pos_iff.1 (Nat.zero_lt_of_lt hsize))
    rw [List.cons_append] at h
    rw [List.length_cons] at hsize
    by_cases hmark : c = '\x22'
    · subst hmark
      rw [readString] at h ⊢
      exact h
    by_cases hescape : c = '\\'
    · subst hescape
      rw [readString] at h ⊢
      split at h
      · cases h
      · rename_i value size hread
        obtain ⟨⟨text, length⟩, htext, rfl⟩ := map_eq_ok_iff.1 h
        dsimp only at hsize
        have htwo : 2 ≤ size := two_le_of_readEscape hread
        have hread' := readEscape_of_append hread (by omega) (by show size ≤ _; omega) p'
        rw [List.drop_append_of_le_length (by omega)] at htext
        have htext' := ih (xs.drop (size - 1)).length (by rw [List.length_drop, List.length_cons]; omega) htext
          (by rw [List.length_drop]; show length < _; omega) (p' + size) rfl
        rw [hread']
        dsimp only
        rw [htext']
        rfl
    · rw [readString] at h ⊢ <;> try assumption
      split_ifs at h ⊢
      obtain ⟨⟨text, length⟩, htext, rfl⟩ := map_eq_ok_iff.1 h
      rw [ih xs.length (Nat.lt_succ_self _) htext (Nat.lt_of_succ_lt_succ hsize) (p' + 1) rfl]
      rfl

theorem readBlockText_of_append {xs more : List Char} {r : List Char × Nat}
    (h : readBlockText (xs ++ more) = some r) (hsize : r.2 < xs.length) : readBlockText xs = some r := by
  fun_induction readBlockText xs generalizing r with
  | case1 => cases hsize
  | case2 rest => exact h
  | case3 rest ih =>
    simp only [List.cons_append, readBlockText] at h
    obtain ⟨⟨text, length⟩, htext, rfl⟩ := Option.map_eq_some_iff.1 h
    rw [ih htext (by simp only [List.length_cons] at hsize; show length < _; omega)]
    rfl
  | case4 c rest hclose hescape ih =>
    rw [List.length_cons] at hsize
    -- marks that close the text, or stand for themselves in it, do not reach into the rest
    have hclose' : ∀ tail, c = '\x22' → rest ++ more = '\x22' :: '\x22' :: tail → False := by
      rintro tail rfl heq
      rw [List.cons_append, heq, readBlockText] at h
      cases h
      obtain ⟨a, b, rest, rfl⟩ : ∃ a b l, rest = a :: b :: l := by
        rcases rest with _ | ⟨a, _ | ⟨b, rest⟩⟩ <;> simp at hsize ⊢
      cases heq
      exact hclose rest rfl rfl
    have hescape' : ∀ tail, c = '\\' → rest ++ more = '\x22' :: '\x22' :: '\x22' :: tail → False := by
      rintro tail rfl heq
      rw [List.cons_append, heq, readBlockText] at h
      obtain ⟨⟨text, length⟩, -, rfl⟩ := Option.map_eq_some_iff.1 h
      obtain ⟨a, b, d, rest, rfl⟩ : ∃ a b d l, rest = a :: b :: d :: l := by
        rcases rest with _ | ⟨a, _ | ⟨b, _ | ⟨d, rest⟩⟩⟩
        any_goals simp only [List.length_cons, List.length_nil] at hsize; omega
        exact ⟨a, b, d, rest, rfl⟩
      cases heq
      exact hescape rest rfl rfl
    rw [List.cons_append, readBlockText] at h
    · obtain ⟨⟨text, length⟩, htext, rfl⟩ := Option.map_eq_some_iff.1 h
      rw [ih htext (Nat.lt_of_succ_lt_succ hsize)]
      rfl
    · exact hclose'
    · exact hescape'

/-! ### Lexemes -/

/-- What a character starts, with the text behind it. -/
inductive Starts (c : Char) (rest : List Char) : Lexeme × Nat → Prop
  | punctuator {p : Punctuator} (h : Punctuator.ofChar? c = some p) : Starts c rest (.punctuator p, 1)
  | name (h : isNameStart c = true) :
    Starts c rest (.name (String.ofList (c :: rest.takeWhile isNameContinue)),
      (rest.takeWhile isNameContinue).length + 1)
  | number {p : Nat} {r : Lexeme × Nat} (hdigit : c.isDigit = true ∨ c = '-')
    (h : readNumber p (c :: rest) = .ok r) : Starts c rest r
  | string {p : Nat} {value : List Char} {length : Nat} (hmark : c = '\x22')
    (h : readString p rest = .ok (value, length)) : Starts c rest (.string (String.ofList value), length + 1)
  | blockString {text value : List Char} {length : Nat} (hmark : c = '\x22') (hrest : rest = '\x22' :: '\x22' :: text)
    (h : readBlockText text = some (value, length)) : Starts c rest (.blockString (blockValue value), length + 3)
  | ellipsis (hdot : c = '.') (h : rest.take 2 = ['.', '.']) : Starts c rest (.punctuator .ellipsis, 3)

theorem starts_of_readLexeme {p : Nat} {c : Char} {rest : List Char} {r : Lexeme × Nat}
    (h : readLexeme p c rest = .ok r) : Starts c rest r := by
  unfold readLexeme at h
  split at h
  · rename_i hp
    cases h
    exact .punctuator hp
  split_ifs at h with hname hnumber hmark hdots
  · cases h
    exact .name hname
  · simp only [Bool.or_eq_true, beq_iff_eq] at hnumber
    exact .number hnumber h
  · rw [beq_iff_eq] at hmark
    split at h
    · split at h
      · rename_i htext
        cases h
        exact .blockString hmark rfl htext
      · cases h
    · obtain ⟨⟨value, length⟩, hvalue, rfl⟩ := map_eq_ok_iff.1 h
      exact .string hmark hvalue
  · simp only [Bool.and_eq_true, beq_iff_eq] at hdots
    cases h
    exact .ellipsis hdots.1 hdots.2

theorem one_le_of_readDigits {p count : Nat} {text : List Char} (h : readDigits p text = .ok count) : 1 ≤ count := by
  unfold readDigits at h
  dsimp only at h
  split_ifs at h with hcount
  cases h
  exact Nat.one_le_iff_ne_zero.2 hcount

theorem one_le_of_readWhole {p count : Nat} {text : List Char} (h : readWhole p text = .ok count) : 1 ≤ count := by
  unfold readWhole at h
  dsimp only at h
  split_ifs at h
  · cases h
    exact Nat.le_refl 1
  · exact one_le_of_readDigits h

/-- A number takes a character at least, and is no other lexeme. -/
theorem spec_readNumber {p : Nat} {text : List Char} {r : Lexeme × Nat} (h : readNumber p text = .ok r) :
    1 ≤ r.2 ∧ ∃ digits, r.1 = .int digits ∨ r.1 = .float digits := by
  unfold readNumber at h
  generalize (if text.head? = some '-' then 1 else 0) = sign at h
  dsimp only at h
  obtain ⟨whole, hwhole, h⟩ := bind_eq_ok_iff.1 h
  obtain ⟨fraction, -, h⟩ := bind_eq_ok_iff.1 h
  obtain ⟨exponent, -, h⟩ := bind_eq_ok_iff.1 h
  have hone := one_le_of_readWhole hwhole
  split_ifs at h <;> cases h
  · exact ⟨by show 1 ≤ sign + whole + fraction + exponent; omega, _, .inl rfl⟩
  · exact ⟨by show 1 ≤ sign + whole + fraction + exponent; omega, _, .inr rfl⟩

theorem one_le_of_readLexeme {p : Nat} {c : Char} {rest : List Char} {r : Lexeme × Nat}
    (h : readLexeme p c rest = .ok r) : 1 ≤ r.2 := by
  cases starts_of_readLexeme h with
  | number _ h => exact (spec_readNumber h).1
  | _ => exact Nat.succ_le_succ (Nat.zero_le _)

theorem readLexeme_of_append {p : Nat} {c : Char} {xs more : List Char} {r : Lexeme × Nat}
    (h : readLexeme p c (xs ++ more) = .ok r) (hsize : r.2 ≤ xs.length) (p' : Nat) :
    readLexeme p' c xs = .ok r := by
  unfold readLexeme at h ⊢
  split at h
  · exact h
  by_cases hname : isNameStart c = true
  · rw [if_pos hname] at h ⊢
    cases h
    rw [takeWhile_of_append (Nat.lt_of_succ_le hsize)]
  rw [if_neg hname] at h ⊢
  by_cases hnumber : (c.isDigit || c == '-') = true
  · rw [if_pos hnumber] at h ⊢
    have hcons : readNumber p (c :: xs ++ more) = .ok r := h
    exact local_readNumber hcons (Nat.lt_succ_of_le hsize) p'
  rw [if_neg hnumber] at h ⊢
  by_cases hmark : (c == '\x22') = true
  · rw [if_pos hmark] at h ⊢
    split at h
    · rename_i text heq
      split at h
      · rename_i value length htext
        cases h
        obtain ⟨a, b, xs, rfl⟩ : ∃ a b l, xs = a :: b :: l := by
          rcases xs with _ | ⟨a, _ | ⟨b, xs⟩⟩ <;> simp at hsize ⊢
        cases heq
        simp only [List.length_cons] at hsize
        have htext' := readBlockText_of_append htext (by show length < _; omega)
        simp only [htext']
      · cases h
    · rename_i hopen
      obtain ⟨⟨value, length⟩, hvalue, rfl⟩ := map_eq_ok_iff.1 h
      split
      · exact (hopen _ rfl).elim
      · rw [local_readString hvalue (Nat.lt_of_succ_le hsize)]
        rfl
  rw [if_neg hmark] at h ⊢
  split_ifs at h with hdots
  cases h
  rw [List.take_append_of_le_length (by simp only at hsize; omega)] at hdots
  rw [if_pos hdots]

/-! ### Gaps -/

theorem exists_skipIgnored (inComment : Bool) (text : List Char) :
    ∃ n, ∀ p, skipIgnored inComment p text = (p + n, text.drop n) := by
  induction text generalizing inComment with
  | nil => exact ⟨0, fun _ => rfl⟩
  | cons c rest ih =>
    have hnext : ∀ inComment, ∃ n, ∀ p, skipIgnored inComment (p + 1) rest = (p + n, (c :: rest).drop n) := by
      intro inComment
      obtain ⟨n, hn⟩ := ih inComment
      refine ⟨n + 1, fun p => ?_⟩
      rw [hn, List.drop_succ_cons, Nat.add_right_comm, Nat.add_assoc]
    unfold skipIgnored
    split_ifs
    all_goals first | exact hnext _ | exact ⟨0, fun _ => rfl⟩

/-- A gap that ends inside of a piece is seen in the piece. -/
theorem skipIgnored_of_append {inComment : Bool} {p n : Nat} {xs more rest : List Char}
    (h : skipIgnored inComment p (xs ++ more) = (p + n, rest)) (hn : n < xs.length) (p' : Nat) :
    skipIgnored inComment p' xs = (p' + n, xs.drop n) := by
  induction xs generalizing inComment p n p' with
  | nil => cases hn
  | cons c xs ih =>
    have hnext : ∀ inComment, skipIgnored inComment (p + 1) (xs ++ more) = (p + n, rest) →
        skipIgnored inComment (p' + 1) xs = (p' + n, (c :: xs).drop n) := by
      intro inComment h
      obtain ⟨m, hm⟩ := exists_skipIgnored inComment (xs ++ more)
      have hsum : p + 1 + m = p + n := by
        have := (hm (p + 1)).symm.trans h
        exact congrArg Prod.fst this
      obtain rfl : n = m + 1 := by omega
      rw [List.length_cons] at hn
      rw [ih (n := m) (by rw [h, Nat.add_right_comm, Nat.add_assoc]) (by omega), List.drop_succ_cons,
        Nat.add_right_comm, Nat.add_assoc]
    rw [List.cons_append, skipIgnored] at h
    rw [skipIgnored]
    split_ifs at h ⊢
    all_goals try exact hnext _ h
    obtain rfl : n = 0 := by
      have := congrArg Prod.fst h
      simp only at this
      omega
    rfl

/-- Behind a gap there is no other gap. -/
theorem skipIgnored_of_skipIgnored {inComment : Bool} {p q : Nat} {text rest : List Char}
    (h : skipIgnored inComment p text = (q, rest)) (q' : Nat) : skipIgnored false q' rest = (q', rest) := by
  induction text generalizing inComment p with
  | nil =>
    cases h
    rfl
  | cons c text ih =>
    rw [skipIgnored] at h
    split_ifs at h with h1 h2 h3 h4
    all_goals try exact ih h
    cases h
    rw [skipIgnored, if_neg h1, if_neg Bool.false_ne_true, if_neg h3, if_neg h4]

/-! ### Tokens -/

section Step

variable {p q : Nat} {text : List Char}

theorem tokenizeAt_of_end (h : skipIgnored false p text = (q, [])) :
    tokenizeAt p text = ⟨[⟨q, q, .endOfText⟩], none⟩ := by
  rw [tokenizeAt]
  split
  · rename_i heq
    cases h.symm.trans heq
    rfl
  · rename_i heq
    cases h.symm.trans heq

theorem tokenizeAt_of_error {c : Char} {rest : List Char} {e : SyntaxError}
    (h : skipIgnored false p text = (q, c :: rest)) (hread : readLexeme q c rest = .error e) :
    tokenizeAt p text = ⟨[], some e⟩ := by
  rw [tokenizeAt]
  split
  · rename_i heq
    cases h.symm.trans heq
  · rename_i heq
    cases h.symm.trans heq
    rw [hread]

theorem tokenizeAt_of_lexeme {c : Char} {rest : List Char} {lexeme : Lexeme} {length : Nat}
    (h : skipIgnored false p text = (q, c :: rest)) (hread : readLexeme q c rest = .ok (lexeme, length)) :
    tokenizeAt p text =
      .cons ⟨q, q + length, lexeme⟩ (tokenizeAt (q + length) (rest.drop (length - 1))) := by
  rw [tokenizeAt]
  split
  · rename_i heq
    cases h.symm.trans heq
  · rename_i heq
    cases h.symm.trans heq
    rw [hread]

/-- A token behind a gap stands in front of those of the text behind it. -/
theorem tokenizeAt_cons {stop length : Nat} {rest : List Char} {c : Char} {lexeme : Lexeme} {ts : List Token}
    {e : Option SyntaxError} (h : skipIgnored false p text = (q, c :: rest))
    (hread : readLexeme q c rest = .ok (lexeme, length)) (hstop : q + length = stop)
    (hrest : tokenizeAt stop (rest.drop (length - 1)) = ⟨ts, e⟩) :
    tokenizeAt p text = ⟨⟨q, stop, lexeme⟩ :: ts, e⟩ := by
  subst hstop
  rw [tokenizeAt_of_lexeme h hread, hrest, Tokens.cons]

/-- The tokens of a text are those behind the gap at its start. -/
theorem tokenizeAt_of_gap {rest : List Char} (h : skipIgnored false p text = (q, rest)) :
    tokenizeAt p text = tokenizeAt q rest := by
  have hrest := skipIgnored_of_skipIgnored h q
  cases rest with
  | nil => rw [tokenizeAt_of_end h, tokenizeAt_of_end hrest]
  | cons c rest =>
    cases hread : readLexeme q c rest with
    | error e => rw [tokenizeAt_of_error h hread, tokenizeAt_of_error hrest hread]
    | ok r => rw [tokenizeAt_of_lexeme h hread, tokenizeAt_of_lexeme hrest hread]

end Step

/-- The first token of a text stands behind a gap, and the others are those of the text behind it. -/
theorem tokenizeAt_eq_cons {p : Nat} {text : List Char} {t : Token} {ts : List Token} {e : Option SyntaxError}
    (h : tokenizeAt p text = ⟨t :: ts, e⟩) :
    ∃ n, skipIgnored false p text = (p + n, text.drop n) ∧ t.start = p + n ∧
      (text.drop n = [] ∧ t.lexeme = .endOfText ∧ ts = [] ∧ e = none ∨
        ∃ c rest length, text.drop n = c :: rest ∧ readLexeme t.start c rest = .ok (t.lexeme, length) ∧
          t.stop = t.start + length ∧ tokenizeAt t.stop (rest.drop (length - 1)) = ⟨ts, e⟩) := by
  obtain ⟨n, hn⟩ := exists_skipIgnored false text
  refine ⟨n, hn p, ?_⟩
  cases hrest : text.drop n with
  | nil =>
    cases h.symm.trans (tokenizeAt_of_end (hrest ▸ hn p))
    exact ⟨rfl, .inl ⟨rfl, rfl, rfl, rfl⟩⟩
  | cons c rest =>
    have hgap := hrest ▸ hn p
    cases hread : readLexeme (p + n) c rest with
    | error e => cases h.symm.trans (tokenizeAt_of_error hgap hread)
    | ok r =>
      have htokens := h.symm.trans (tokenizeAt_of_lexeme hgap hread)
      rw [Tokens.cons] at htokens
      cases htokens
      exact ⟨rfl, .inr ⟨c, rest, r.2, rfl, hread, rfl, rfl⟩⟩

theorem starts_punctuator {p : Punctuator} (hp : p ≠ .ellipsis) {c : Char} {rest : List Char} {length : Nat}
    (h : Starts c rest (.punctuator p, length)) : Punctuator.ofChar? c = some p ∧ length = 1 := by
  generalize hr : (Lexeme.punctuator p, length) = r at h
  cases h with
  | punctuator h =>
    cases hr
    exact ⟨h, rfl⟩
  | number _ h =>
    subst hr
    obtain ⟨-, digits, h | h⟩ := spec_readNumber h <;> cases h
  | ellipsis =>
    cases hr
    exact absurd rfl hp
  | _ => cases hr

theorem starts_name {c : Char} {rest : List Char} {text : String} {length : Nat}
    (h : Starts c rest (.name text, length)) :
    isNameStart c = true ∧ text = String.ofList (c :: rest.takeWhile isNameContinue) ∧
      length = (rest.takeWhile isNameContinue).length + 1 := by
  generalize hr : (Lexeme.name text, length) = r at h
  cases h with
  | name h =>
    cases hr
    exact ⟨h, rfl, rfl⟩
  | number _ h =>
    subst hr
    obtain ⟨-, digits, h | h⟩ := spec_readNumber h <;> cases h
  | _ => cases hr

theorem not_starts_endOfText {c : Char} {rest : List Char} {length : Nat} :
    ¬ Starts c rest (.endOfText, length) := by
  intro h
  generalize hr : (Lexeme.endOfText, length) = r at h
  cases h with
  | number _ h =>
    subst hr
    obtain ⟨-, digits, h | h⟩ := spec_readNumber h <;> cases h
  | _ => cases hr

theorem eq_of_ofChar?_rightBrace {c : Char} (h : Punctuator.ofChar? c = some .rightBrace) : c = '\x7d' := by
  unfold Punctuator.ofChar? at h
  split at h <;> first | rfl | cases h

theorem eq_of_ofChar?_leftBrace {c : Char} (h : Punctuator.ofChar? c = some .leftBrace) : c = '\x7b' := by
  unfold Punctuator.ofChar? at h
  split at h <;> first | rfl | cases h

/-- Where tokens stand: behind the start of the text, each with its own characters. -/
theorem place_of_mem_tokens {ts : List Token} {p : Nat} {text : List Char} {e : Option SyntaxError}
    (h : tokenizeAt p text = ⟨ts, e⟩) {t : Token} (ht : t ∈ ts) :
    p ≤ t.start ∧ (t.lexeme ≠ .endOfText → t.start < t.stop) := by
  induction ts generalizing p text with
  | nil => cases ht
  | cons first ts ih =>
    obtain ⟨n, -, hstart, hend | ⟨c, rest, length, -, hread, hstop, hrest⟩⟩ := tokenizeAt_eq_cons h
    · obtain ⟨-, hlexeme, rfl, -⟩ := hend
      cases List.mem_singleton.1 ht
      exact ⟨by omega, fun hne => absurd hlexeme hne⟩
    · have hone := one_le_of_readLexeme hread
      rcases List.mem_cons.1 ht with rfl | ht
      · exact ⟨by omega, fun _ => by simp only at hone; omega⟩
      · have := ih hrest ht
        exact ⟨by omega, this.2⟩

/-- The tokens from one of them on are the tokens of the text from there on. -/
theorem tokenizeAt_of_append {before : List Token} {t : Token} {behind : List Token} {p : Nat} {text : List Char}
    {e : Option SyntaxError} (h : tokenizeAt p text = ⟨before ++ t :: behind, e⟩) :
    ∃ n, t.start = p + n ∧ tokenizeAt t.start (text.drop n) = ⟨t :: behind, e⟩ := by
  induction before generalizing p text with
  | nil =>
    obtain ⟨n, hgap, hstart, -⟩ := tokenizeAt_eq_cons h
    exact ⟨n, hstart, by rw [hstart, ← tokenizeAt_of_gap hgap, h, List.nil_append]⟩
  | cons first before ih =>
    obtain ⟨n, -, hstart, hend | ⟨c, rest, length, hdrop, hread, hstop, hrest⟩⟩ := tokenizeAt_eq_cons h
    · obtain ⟨-, -, hnil, -⟩ := hend
      exact absurd hnil (by simp)
    · have hone : 1 ≤ length := one_le_of_readLexeme hread
      obtain ⟨m, hm, htokens⟩ := ih hrest
      refine ⟨n + length + m, by omega, ?_⟩
      have htext : rest.drop (length - 1) = text.drop (n + length) := by
        rw [← List.drop_drop, hdrop, ← Nat.sub_add_cancel hone, List.drop_succ_cons, Nat.add_sub_cancel]
      rwa [htext, List.drop_drop] at htokens

theorem drop_of_append {xs more rest : List Char} {c : Char} {n : Nat} (hn : n < xs.length)
    (h : (xs ++ more).drop n = c :: rest) :
    ∃ ys, xs.drop n = c :: ys ∧ rest = ys ++ more ∧ ys.length + n + 1 = xs.length := by
  rw [List.drop_append_of_le_length (by omega), List.drop_eq_getElem_cons hn, List.cons_append] at h
  obtain ⟨hc, rfl⟩ := List.cons.inj h
  exact ⟨xs.drop (n + 1), by rw [List.drop_eq_getElem_cons hn, hc], rfl, by rw [List.length_drop]; omega⟩

/-- A text that ends with a closing brace has the tokens up to that brace of any text that goes on behind it. -/
theorem tokenizeAt_upTo {before : List Token} {close : Token} {behind : List Token} {p : Nat} {xs more : List Char}
    {e : Option SyntaxError} (h : tokenizeAt p (xs ++ more) = ⟨before ++ close :: behind, e⟩)
    (hclose : close.lexeme = .punctuator .rightBrace) (hstop : close.stop = p + xs.length) (p' : Nat) :
    ∃ ts, tokenizeAt p' xs = ⟨ts, none⟩ ∧
      ts.map (·.lexeme) = before.map (·.lexeme) ++ [.punctuator .rightBrace, .endOfText] := by
  induction before generalizing p p' xs with
  | nil =>
    obtain ⟨n, hgap, hstart, hend | ⟨c, rest, length, hdrop, hread, hlast, -⟩⟩ := tokenizeAt_eq_cons h
    · rw [hend.2.1] at hclose
      cases hclose
    rw [hclose] at hread
    obtain ⟨hchar, rfl⟩ := starts_punctuator (by decide) (starts_of_readLexeme hread)
    obtain rfl := eq_of_ofChar?_rightBrace hchar
    obtain ⟨ys, hys, -, hlength⟩ := drop_of_append (by omega) hdrop
    obtain rfl : ys = [] := List.length_eq_zero_iff.1 (by omega)
    have hgap' := skipIgnored_of_append hgap (by omega) p'
    rw [hys] at hgap'
    have hend : tokenizeAt (p' + n + 1) [] = ⟨[⟨p' + n + 1, p' + n + 1, .endOfText⟩], none⟩ :=
      tokenizeAt_of_end rfl
    have hbrace : readLexeme (p' + n) '\x7d' [] = .ok (.punctuator .rightBrace, 1) := rfl
    have htokens := tokenizeAt_of_lexeme hgap' hbrace
    rw [List.drop_nil, hend] at htokens
    exact ⟨_, htokens, rfl⟩
  | cons first before ih =>
    obtain ⟨n, hgap, hstart, hend | ⟨c, rest, length, hdrop, hread, hlast, hrest⟩⟩ := tokenizeAt_eq_cons h
    · exact absurd hend.2.2.1 (by simp)
    have hone : 1 ≤ length := one_le_of_readLexeme hread
    -- the closing brace has its place behind the first token
    have hplace := place_of_mem_tokens hrest (t := close) (List.mem_append_right _ List.mem_cons_self)
    have hinside : n + length < xs.length := by
      have := hplace.2 (by rw [hclose]; decide)
      omega
    obtain ⟨ys, hys, rfl, hlength⟩ := drop_of_append (by omega) hdrop
    have hgap' := skipIgnored_of_append hgap (by omega) p'
    rw [hys] at hgap'
    have hread' := readLexeme_of_append hread (by show length ≤ _; omega) (p' + n)
    rw [List.drop_append_of_le_length (by omega)] at hrest
    obtain ⟨ts, hts, hlexemes⟩ := ih hrest (by rw [List.length_drop]; omega) (p' + n + length)
    have htokens := tokenizeAt_of_lexeme hgap' hread'
    rw [hts] at htokens
    exact ⟨_, htokens, congrArg (first.lexeme :: ·) hlexemes⟩

end TableSchema.Syntax
