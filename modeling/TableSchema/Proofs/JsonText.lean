import Mathlib
import TableSchema.Syntax.Lexer
import TableSchema.Text.Json

/-!
# Reading JSON

`Json.read?` reads a text as JSON: one value, with blanks around every token.  Strings may use every escape, but a
control character stands in them as an escape only; four hexadecimal digits are read as in the strings of a source.  Of
the numbers it reads those that `Json` has, the natural numbers,
in decimal without leading zeros.

Main statements: a value is read back from its text, whatever the indent (`read?_render`), and the text with an indent
is the one without it, apart from blanks outside of strings (`withoutBlanks_render`).
-/

namespace TableSchema.Text.Json

/-! ### The reader -/

/-- Whether a character between tokens means nothing. -/
def isBlank (c : Char) : Bool :=
  c == ' ' || c == '\n' || c == '\t' || c == '\r'

/-- A text without the blanks at its start. -/
def skipBlanks (text : List Char) : List Char :=
  text.dropWhile isBlank

/-- Reads an escape behind its backslash: the character and the number of characters that it takes. -/
def readEscape? : List Char → Option (Char × Nat)
  | 'u' :: digits => (Syntax.readFixedEscape digits).map fun (c, size) => (c, size - 1)
  | c :: _ => (Syntax.simpleEscape? c).map (·, 1)
  | [] => none

/-- Reads a string behind its opening mark, with the closing mark. -/
def readString? : List Char → Option (List Char × List Char)
  | [] => none
  | '\x22' :: rest => some ([], rest)
  | '\\' :: rest =>
    match readEscape? rest with
    | none => none
    | some (c, size) => (fun (value, rest) => (c :: value, rest)) <$> readString? (rest.drop size)
  | c :: rest => if c.toNat < 0x20 then none else (fun (value, rest) => (c :: value, rest)) <$> readString? rest
termination_by text => text.length
decreasing_by all_goals simp only [List.length_cons, List.length_drop]; omega

/-- Reads a natural number, which is written in decimal as it always is. -/
def readNumber? (text : List Char) : Option (Nat × List Char) :=
  let digits := text.takeWhile Char.isDigit
  let value := Nat.ofDigitChars 10 digits 0
  if digits = Nat.toDigits 10 value then some (value, text.dropWhile Char.isDigit) else none

mutual
/-- Reads a value.  The budget bounds the characters of the value. -/
def readValue? : Nat → List Char → Option (Json × List Char)
  | 0, _ => none
  | budget + 1, text =>
    match skipBlanks text with
    | 'n' :: 'u' :: 'l' :: 'l' :: rest => some (null, rest)
    | 't' :: 'r' :: 'u' :: 'e' :: rest => some (bool true, rest)
    | 'f' :: 'a' :: 'l' :: 's' :: 'e' :: rest => some (bool false, rest)
    | '\x22' :: rest => (fun (text, rest) => (string (String.ofList text), rest)) <$> readString? rest
    | '[' :: rest =>
      match skipBlanks rest with
      | ']' :: rest => some (array [], rest)
      | rest => do
        let (item, rest) ← readValue? budget rest
        let (items, rest) ← readItems? budget rest
        return (array (item :: items), rest)
    | '\x7b' :: rest =>
      match skipBlanks rest with
      | '\x7d' :: rest => some (object [], rest)
      | rest => do
        let (member, rest) ← readMember? budget rest
        let (members, rest) ← readMembers? budget rest
        return (object (member :: members), rest)
    | text => (fun (value, rest) => (number value, rest)) <$> readNumber? text

/-- Reads the items of an array behind the first, each behind a comma, with the closing bracket. -/
def readItems? : Nat → List Char → Option (List Json × List Char)
  | 0, _ => none
  | budget + 1, text =>
    match skipBlanks text with
    | ']' :: rest => some ([], rest)
    | ',' :: rest => do
      let (item, rest) ← readValue? budget rest
      let (items, rest) ← readItems? budget rest
      return (item :: items, rest)
    | _ => none

/-- Reads a member of an object: a string, a colon and a value. -/
def readMember? : Nat → List Char → Option ((String × Json) × List Char)
  | 0, _ => none
  | budget + 1, text =>
    match skipBlanks text with
    | '\x22' :: rest => do
      let (name, rest) ← readString? rest
      match skipBlanks rest with
      | ':' :: rest => (fun (value, rest) => ((String.ofList name, value), rest)) <$> readValue? budget rest
      | _ => none
    | _ => none

/-- Reads the members of an object behind the first, each behind a comma, with the closing brace. -/
def readMembers? : Nat → List Char → Option (List (String × Json) × List Char)
  | 0, _ => none
  | budget + 1, text =>
    match skipBlanks text with
    | '\x7d' :: rest => some ([], rest)
    | ',' :: rest => do
      let (member, rest) ← readMember? budget rest
      let (members, rest) ← readMembers? budget rest
      return (member :: members, rest)
    | _ => none
end

theorem skipBlanks_lineBreak (indent : Option Nat) (depth : Nat) (text : List Char) :
    skipBlanks (lineBreak indent depth ++ text) = skipBlanks text := by
  cases indent with
  | none => rfl
  | some width =>
    show skipBlanks (List.replicate _ ' ' ++ text) = _
    induction width * depth with
    | zero => rfl
    | succ n ih => exact ih

theorem skipBlanks_cons {c : Char} (h : isBlank c = false) (text : List Char) : skipBlanks (c :: text) = c :: text := by
  simp [skipBlanks, h]

theorem readValue?_lineBreak (budget : Nat) (indent : Option Nat) (depth : Nat) (text : List Char) :
    readValue? budget (lineBreak indent depth ++ text) = readValue? budget text := by
  cases budget with
  | zero => rw [readValue?, readValue?]
  | succ n => rw [readValue?, readValue?, skipBlanks_lineBreak]

theorem readMember?_lineBreak (budget : Nat) (indent : Option Nat) (depth : Nat) (text : List Char) :
    readMember? budget (lineBreak indent depth ++ text) = readMember? budget text := by
  cases budget with
  | zero => rw [readMember?, readMember?]
  | succ n => rw [readMember?, readMember?, skipBlanks_lineBreak]

/-! ### Strings -/

/-- How a character stands in a string: behind a backslash as one letter, by its code, or as itself. -/
inductive Spelling (c : Char) : List Char → Prop
  | letter {e : Char} (h : Syntax.simpleEscape? e = some c) (hcode : e ≠ 'u') : Spelling c ['\\', e]
  | code (h : c.toNat < 0x20) : Spelling c ('\\' :: 'u' :: (hexDigits 4 c.toNat).toList)
  | plain (hmark : c ≠ '\x22') (hescape : c ≠ '\\') (h : ¬ c.toNat < 0x20) : Spelling c [c]

theorem spelling_escapedChar (c : Char) : Spelling c (escapedChar c) := by
  unfold escapedChar
  simp only [beq_iff_eq]
  split_ifs with h1 h2 h3 h4 h5 h6 h7 h8
  · subst h1; exact .letter rfl (by decide)
  · subst h2; exact .letter rfl (by decide)
  · subst h3; exact .letter rfl (by decide)
  · subst h4; exact .letter rfl (by decide)
  · subst h5; exact .letter rfl (by decide)
  · subst h6; exact .letter rfl (by decide)
  · subst h7; exact .letter rfl (by decide)
  · exact .code h8
  · exact .plain h1 h2 h8

/-- A control character is read back from its code. -/
private theorem readString?_code {c : Char} (h : c.toNat < 0x20) (rest : List Char) :
    readString? ('\\' :: 'u' :: (hexDigits 4 c.toNat).toList ++ rest) =
      (fun (value, rest) => (c :: value, rest)) <$> readString? rest := by
  have hdigits : ∀ n < 0x20, (hexDigits 4 n).toList.length = 4 ∧ Syntax.hexNumber? (hexDigits 4 n).toList = some n := by
    decide +kernel
  obtain ⟨hlength, hvalue⟩ := hdigits _ h
  generalize (hexDigits 4 c.toNat).toList = digits at hlength hvalue ⊢
  have hfour : Syntax.readFourDigits (digits ++ rest) = some c.toNat := by
    rw [Syntax.readFourDigits, if_neg (by rw [List.length_append]; omega), List.take_left' hlength, hvalue]
  have hscalar : Syntax.isScalarValue c.toNat = true := by
    simp only [Syntax.isScalarValue, Bool.or_eq_true, decide_eq_true_eq]
    exact .inl (by omega)
  have hescape : readEscape? ('u' :: (digits ++ rest)) = some (c, 5) := by
    rw [readEscape?, Syntax.readFixedEscape, hfour]
    simp [hscalar, Char.ofNat_toNat]
  rw [List.cons_append, List.cons_append, readString?, hescape]
  simp only [List.drop_succ_cons, List.drop_left' hlength]

theorem readString?_escapedChar (c : Char) (rest : List Char) :
    readString? (escapedChar c ++ rest) = (fun (value, rest) => (c :: value, rest)) <$> readString? rest := by
  have hspelling := spelling_escapedChar c
  generalize escapedChar c = spelled at hspelling ⊢
  cases hspelling with
  | @letter e h hcode =>
    have hescape : readEscape? (e :: rest) = some (c, 1) := by
      unfold readEscape?
      split
      · rename_i heq
        cases heq
        exact absurd rfl hcode
      · rename_i heq
        cases heq
        rw [h]
        rfl
      · rename_i heq
        cases heq
    show readString? ('\\' :: e :: rest) = _
    rw [readString?, hescape]
    rfl
  | code h => exact readString?_code h rest
  | plain hmark hescape h => rw [List.singleton_append, readString?, if_neg h] <;> assumption

theorem readString?_quoteChars (text : String) (rest : List Char) :
    readString? (text.toList.flatMap escapedChar ++ '\x22' :: rest) = some (text.toList, rest) := by
  induction text.toList with
  | nil => rw [List.flatMap_nil, List.nil_append, readString?]
  | cons c cs ih =>
    rw [List.flatMap_cons, List.append_assoc, readString?_escapedChar, ih]
    rfl

/-! ### Numbers -/

/-- Whether a number can end before a text: it does not start with a digit. -/
def EndsNumber (text : List Char) : Prop :=
  ∀ c ∈ text.head?, c.isDigit = false

theorem endsNumber_cons {c : Char} (h : c.isDigit = false) (text : List Char) : EndsNumber (c :: text) := by
  rintro _ ⟨⟩
  exact h

theorem toList_toString_nat (n : Nat) : (toString n).toList = Nat.toDigits 10 n :=
  Nat.toList_repr

theorem isDigit_of_mem_toString {c : Char} {n : Nat} (h : c ∈ (toString n).toList) : c.isDigit = true :=
  Nat.isDigit_of_mem_toDigits (by decide) (by decide) (toList_toString_nat n ▸ h)

theorem isBlank_eq_false_of_isDigit {c : Char} (h : c.isDigit = true) : isBlank c = false := by
  simp only [isBlank, Bool.or_eq_false_iff, beq_eq_false_iff_ne]
  refine ⟨⟨⟨?_, ?_⟩, ?_⟩, ?_⟩ <;> rintro rfl <;> exact absurd h (by decide)

theorem readNumber?_toString (n : Nat) {rest : List Char} (hrest : EndsNumber rest) :
    readNumber? ((toString n).toList ++ rest) = some (n, rest) := by
  have hdigits : ∀ c ∈ (toString n).toList, c.isDigit = true := fun _ => isDigit_of_mem_toString
  have hstop : rest.takeWhile Char.isDigit = [] ∧ rest.dropWhile Char.isDigit = rest := by
    cases rest with
    | nil => exact ⟨rfl, rfl⟩
    | cons c cs =>
      have hc : c.isDigit = false := hrest c rfl
      simp [hc]
  rw [readNumber?, List.takeWhile_append_of_pos hdigits, List.dropWhile_append_of_pos hdigits, hstop.1, hstop.2,
    List.append_nil, toList_toString_nat]
  simp only [Nat.ofDigitChars_toDigits (by decide : 1 < 10) (Nat.le_refl 10), if_true]

/-! ### Values -/

/-- The text of a value starts neither with a blank nor with what closes an array or an object. -/
theorem exists_chars_eq_cons (indent : Option Nat) (depth : Nat) (value : Json) :
    ∃ c cs, chars indent depth value = c :: cs ∧ isBlank c = false ∧ c ≠ ']' ∧ c ≠ '\x7d' := by
  cases value with
  | null => rw [chars]; exact ⟨'n', _, rfl, by decide⟩
  | bool value =>
    rw [chars]
    cases value with
    | false => exact ⟨'f', _, rfl, by decide⟩
    | true => exact ⟨'t', _, rfl, by decide⟩
  | number n =>
    rw [chars]
    cases hn : (toString n).toList with
    | nil => exact absurd (toList_toString_nat n ▸ hn) Nat.toDigits_ne_nil
    | cons c cs =>
      have hc : c.isDigit = true := isDigit_of_mem_toString (n := n) (by rw [hn]; exact List.mem_cons_self)
      refine ⟨c, cs, rfl, isBlank_eq_false_of_isDigit hc, ?_, ?_⟩ <;> rintro rfl <;> exact absurd hc (by decide)
  | string text => rw [chars]; exact ⟨'\x22', _, rfl, by decide⟩
  | array items => cases items <;> (rw [chars]; exact ⟨'[', _, rfl, by decide⟩)
  | object members =>
    rcases members with _ | ⟨⟨name, value⟩, members⟩ <;> (rw [chars]; exact ⟨'\x7b', _, rfl, by decide⟩)

theorem readValue?_of_isDigit {c : Char} (h : c.isDigit = true) (budget : Nat) (text : List Char) :
    readValue? (budget + 1) (c :: text) = (fun (value, rest) => (number value, rest)) <$> readNumber? (c :: text) := by
  rw [readValue?, skipBlanks_cons (isBlank_eq_false_of_isDigit h)]
  split
  case h_7 => rfl
  all_goals
    rename_i heq
    cases heq
    exact absurd h (by decide)

theorem readValue?_quote (budget : Nat) (text : List Char) :
    readValue? (budget + 1) ('\x22' :: text) =
      (fun (text, rest) => (string (String.ofList text), rest)) <$> readString? text := by
  rw [readValue?, skipBlanks_cons (by decide)]
  rfl

theorem readValue?_bracket {c : Char} {text cs : List Char} (h : skipBlanks text = c :: cs) (hc : c ≠ ']')
    (budget : Nat) :
    readValue? (budget + 1) ('[' :: text) = (do
      let (item, rest) ← readValue? budget (c :: cs)
      let (items, rest) ← readItems? budget rest
      return (array (item :: items), rest)) := by
  rw [readValue?, skipBlanks_cons (by decide)]
  simp only [h]
  split
  · rename_i heq
    cases heq
    exact absurd rfl hc
  · rfl

theorem readValue?_brace {c : Char} {text cs : List Char} (h : skipBlanks text = c :: cs) (hc : c ≠ '\x7d')
    (budget : Nat) :
    readValue? (budget + 1) ('\x7b' :: text) = (do
      let (member, rest) ← readMember? budget (c :: cs)
      let (members, rest) ← readMembers? budget rest
      return (object (member :: members), rest)) := by
  rw [readValue?, skipBlanks_cons (by decide)]
  simp only [h]
  split
  · rename_i heq
    cases heq
    exact absurd rfl hc
  · rfl

theorem readItems?_bracket (budget : Nat) (indent : Option Nat) (depth : Nat) (rest : List Char) :
    readItems? (budget + 1) (lineBreak indent depth ++ ']' :: rest) = some ([], rest) := by
  rw [readItems?, skipBlanks_lineBreak, skipBlanks_cons (by decide)]
  rfl

theorem readItems?_comma (budget : Nat) (text : List Char) :
    readItems? (budget + 1) (',' :: text) = (do
      let (item, rest) ← readValue? budget text
      let (items, rest) ← readItems? budget rest
      return (item :: items, rest)) := by
  rw [readItems?, skipBlanks_cons (by decide)]
  rfl

theorem readMembers?_brace (budget : Nat) (indent : Option Nat) (depth : Nat) (rest : List Char) :
    readMembers? (budget + 1) (lineBreak indent depth ++ '\x7d' :: rest) = some ([], rest) := by
  rw [readMembers?, skipBlanks_lineBreak, skipBlanks_cons (by decide)]
  rfl

theorem readMembers?_comma (budget : Nat) (text : List Char) :
    readMembers? (budget + 1) (',' :: text) = (do
      let (member, rest) ← readMember? budget text
      let (members, rest) ← readMembers? budget rest
      return (member :: members, rest)) := by
  rw [readMembers?, skipBlanks_cons (by decide)]
  rfl

/-- A member is read once its value is. -/
theorem readMember?_chars (indent : Option Nat) (name : String) {budget : Nat} {value : Json}
    {text rest : List Char} (h : readValue? budget text = some (value, rest)) :
    readMember? (budget + 1) (quoteChars name ++ colon indent ++ text) = some ((name, value), rest) := by
  have hblank : readValue? budget (' ' :: text) = readValue? budget text := by
    cases budget with
    | zero => rw [readValue?, readValue?]
    | succ n =>
      rw [readValue?, readValue?]
      rfl
  have hquote : quoteChars name ++ colon indent ++ text =
      '\x22' :: (name.toList.flatMap escapedChar ++ '\x22' :: (colon indent ++ text)) := by
    simp [quoteChars]
  rw [hquote, readMember?, skipBlanks_cons (by decide)]
  simp only [readString?_quoteChars]
  cases indent with
  | none =>
    show (fun (value, rest) => ((String.ofList name.toList, value), rest)) <$> readValue? budget text = _
    rw [h, String.ofList_toList]
    rfl
  | some width =>
    show (fun (value, rest) => ((String.ofList name.toList, value), rest)) <$> readValue? budget (' ' :: text) = _
    rw [hblank, h, String.ofList_toList]
    rfl

theorem le_length_quoteChars (name : String) : 2 ≤ (quoteChars name).length := by
  rw [quoteChars, List.cons_append, List.length_cons, List.length_append, List.length_singleton]
  omega

theorem endsNumber_itemChars (indent : Option Nat) (depth : Nat) (items : List Json) (rest : List Char) :
    EndsNumber (itemChars indent (depth + 1) items ++ (lineBreak indent depth ++ ']' :: rest)) := by
  cases items with
  | cons item items => rw [itemChars]; exact endsNumber_cons (by decide) _
  | nil =>
    rw [itemChars]
    cases indent with
    | none => exact endsNumber_cons (by decide) _
    | some width => exact endsNumber_cons (by decide) _

theorem endsNumber_memberChars (indent : Option Nat) (depth : Nat) (members : List (String × Json))
    (rest : List Char) :
    EndsNumber (memberChars indent (depth + 1) members ++ (lineBreak indent depth ++ '\x7d' :: rest)) := by
  rcases members with _ | ⟨⟨name, value⟩, members⟩
  · rw [memberChars]
    cases indent with
    | none => exact endsNumber_cons (by decide) _
    | some width => exact endsNumber_cons (by decide) _
  · rw [memberChars]
    exact endsNumber_cons (by decide) _

mutual
theorem readValue?_chars (indent : Option Nat) (depth budget : Nat) (value : Json) {rest : List Char}
    (hbudget : (chars indent depth value).length ≤ budget) (hrest : EndsNumber rest) :
    readValue? budget (chars indent depth value ++ rest) = some (value, rest) := by
  obtain ⟨budget, rfl⟩ : ∃ n, budget = n + 1 := by
    obtain ⟨c, cs, hchars, -⟩ := exists_chars_eq_cons indent depth value
    rw [hchars, List.length_cons] at hbudget
    exact ⟨budget - 1, by omega⟩
  match value with
  | null =>
    rw [chars, readValue?]
    rfl
  | bool true =>
    rw [chars, readValue?]
    rfl
  | bool false =>
    rw [chars, readValue?]
    rfl
  | number n =>
    rw [chars]
    obtain ⟨c, cs, hn⟩ := List.exists_cons_of_ne_nil (toList_toString_nat n ▸ Nat.toDigits_ne_nil)
    have hc : c.isDigit = true := isDigit_of_mem_toString (n := n) (by rw [hn]; exact List.mem_cons_self)
    have hread := readNumber?_toString n hrest
    rw [hn, List.cons_append] at hread ⊢
    rw [readValue?_of_isDigit hc, hread]
    rfl
  | string text =>
    rw [chars, quoteChars, List.append_assoc, List.cons_append, readValue?_quote]
    show _ <$> readString? (text.toList.flatMap escapedChar ++ '\x22' :: rest) = _
    rw [readString?_quoteChars]
    show some (string (String.ofList text.toList), rest) = _
    rw [String.ofList_toList]
  | array [] =>
    rw [chars, readValue?]
    rfl
  | array (item :: items) =>
    rw [chars] at hbudget ⊢
    obtain ⟨c, cs, hchars, hblank, hclose, -⟩ := exists_chars_eq_cons indent (depth + 1) item
    simp only [List.cons_append, List.append_assoc, List.length_cons, List.length_append, List.nil_append,
      List.length_nil] at hbudget ⊢
    have hitem := readValue?_chars indent (depth + 1) budget item (by omega)
      (endsNumber_itemChars indent depth items rest)
    have hitems := readItems?_itemChars indent depth budget items rest (by
      simp only [List.length_append, List.length_cons, List.length_nil]
      omega)
    rw [hchars, List.cons_append] at hitem ⊢
    rw [readValue?_bracket (by rw [skipBlanks_lineBreak, skipBlanks_cons hblank]) hclose, hitem]
    simp only [Option.bind_eq_bind, Option.bind_some, hitems]
    rfl
  | object [] =>
    rw [chars, readValue?]
    rfl
  | object ((name, value) :: members) =>
    rw [chars] at hbudget ⊢
    have hquote := le_length_quoteChars name
    simp only [List.cons_append, List.append_assoc, List.length_cons, List.length_append, List.nil_append,
      List.length_nil] at hbudget ⊢
    obtain ⟨budget, rfl⟩ : ∃ n, budget = n + 1 := ⟨budget - 1, by omega⟩
    have hmember := readMember?_chars indent name
      (readValue?_chars indent (depth + 1) budget value (by omega) (endsNumber_memberChars indent depth members rest))
    have hmembers := readMembers?_memberChars indent depth (budget + 1) members rest (by
      simp only [List.length_append, List.length_cons, List.length_nil]
      omega)
    rw [List.append_assoc, quoteChars, List.cons_append, List.cons_append] at hmember
    rw [quoteChars, List.cons_append, List.cons_append,
      readValue?_brace (by rw [skipBlanks_lineBreak, skipBlanks_cons (by decide)]) (by decide), hmember]
    simp only [Option.bind_eq_bind, Option.bind_some, hmembers]
    rfl

theorem readItems?_itemChars (indent : Option Nat) (depth budget : Nat) (items : List Json) (rest : List Char)
    (hbudget : (itemChars indent (depth + 1) items ++ lineBreak indent depth ++ [']']).length ≤ budget) :
    readItems? budget (itemChars indent (depth + 1) items ++ (lineBreak indent depth ++ ']' :: rest)) =
      some (items, rest) := by
  simp only [List.length_append, List.length_cons, List.length_nil] at hbudget
  obtain ⟨budget, rfl⟩ : ∃ n, budget = n + 1 := ⟨budget - 1, by omega⟩
  match items with
  | [] =>
    rw [itemChars]
    exact readItems?_bracket budget indent depth rest
  | item :: items =>
    rw [itemChars] at hbudget ⊢
    simp only [List.cons_append, List.append_assoc, List.length_cons, List.length_append] at hbudget ⊢
    have hitem := readValue?_chars indent (depth + 1) budget item (by omega)
      (endsNumber_itemChars indent depth items rest)
    have hitems := readItems?_itemChars indent depth budget items rest (by
      simp only [List.length_append, List.length_cons, List.length_nil]
      omega)
    rw [readItems?_comma, readValue?_lineBreak, hitem]
    simp only [Option.bind_eq_bind, Option.bind_some, hitems]
    rfl

theorem readMembers?_memberChars (indent : Option Nat) (depth budget : Nat) (members : List (String × Json))
    (rest : List Char)
    (hbudget : (memberChars indent (depth + 1) members ++ lineBreak indent depth ++ ['\x7d']).length ≤ budget) :
    readMembers? budget (memberChars indent (depth + 1) members ++ (lineBreak indent depth ++ '\x7d' :: rest)) =
      some (members, rest) := by
  simp only [List.length_append, List.length_cons, List.length_nil] at hbudget
  obtain ⟨budget, rfl⟩ : ∃ n, budget = n + 1 := ⟨budget - 1, by omega⟩
  match members with
  | [] =>
    rw [memberChars]
    exact readMembers?_brace budget indent depth rest
  | (name, value) :: members =>
    rw [memberChars] at hbudget ⊢
    have hquote := le_length_quoteChars name
    simp only [List.cons_append, List.append_assoc, List.length_cons, List.length_append] at hbudget ⊢
    obtain ⟨budget, rfl⟩ : ∃ n, budget = n + 1 := ⟨budget - 1, by omega⟩
    have hmember := readMember?_chars indent name
      (readValue?_chars indent (depth + 1) budget value (by omega) (endsNumber_memberChars indent depth members rest))
    have hmembers := readMembers?_memberChars indent depth (budget + 1) members rest (by
      simp only [List.length_append, List.length_cons, List.length_nil]
      omega)
    rw [List.append_assoc] at hmember
    rw [readMembers?_comma, readMember?_lineBreak, hmember]
    simp only [Option.bind_eq_bind, Option.bind_some, hmembers]
    rfl
end

mutual
/-- A text without the blanks outside of its strings. -/
def withoutBlanks : List Char → List Char
  | [] => []
  | '\x22' :: rest => '\x22' :: withoutBlanksInString rest
  | c :: rest => if isBlank c then withoutBlanks rest else c :: withoutBlanks rest

/-- The same for a text that starts inside of a string. -/
def withoutBlanksInString : List Char → List Char
  | [] => []
  | '\\' :: c :: rest => '\\' :: c :: withoutBlanksInString rest
  | '\x22' :: rest => '\x22' :: withoutBlanks rest
  | c :: rest => c :: withoutBlanksInString rest
end

theorem withoutBlanks_lineBreak (indent : Option Nat) (depth : Nat) (text : List Char) :
    withoutBlanks (lineBreak indent depth ++ text) = withoutBlanks text := by
  cases indent with
  | none => rfl
  | some width =>
    show withoutBlanks (List.replicate _ ' ' ++ text) = _
    induction width * depth with
    | zero => rfl
    | succ n ih => exact ih

theorem withoutBlanks_cons {c : Char} (hblank : isBlank c = false) (hmark : c ≠ '\x22') (rest : List Char) :
    withoutBlanks (c :: rest) = c :: withoutBlanks rest := by
  rw [withoutBlanks, hblank]
  · rfl
  · exact hmark

theorem withoutBlanksInString_cons {c : Char} (hmark : c ≠ '\x22') (hescape : c ≠ '\\') (rest : List Char) :
    withoutBlanksInString (c :: rest) = c :: withoutBlanksInString rest := by
  rw [withoutBlanksInString] <;> simp [hmark, hescape]

theorem withoutBlanksInString_append {plain : List Char} (h : ∀ c ∈ plain, c ≠ '\x22' ∧ c ≠ '\\')
    (rest : List Char) : withoutBlanksInString (plain ++ rest) = plain ++ withoutBlanksInString rest := by
  induction plain with
  | nil => rfl
  | cons c cs ih =>
    obtain ⟨hc, hcs⟩ := List.forall_mem_cons.1 h
    rw [List.cons_append, withoutBlanksInString_cons hc.1 hc.2, ih hcs, List.cons_append]

theorem withoutBlanksInString_escapedChar (c : Char) (rest : List Char) :
    withoutBlanksInString (escapedChar c ++ rest) = escapedChar c ++ withoutBlanksInString rest := by
  have hspelling := spelling_escapedChar c
  generalize escapedChar c = spelled at hspelling ⊢
  cases hspelling with
  | letter h hcode => rfl
  | code h =>
    have hcodes : ∀ n < 0x20, (hexDigits 4 n).toList.all (fun d => d != '\x22' && d != '\\') = true := by
      decide +kernel
    have hdigits : ∀ d ∈ (hexDigits 4 c.toNat).toList, d ≠ '\x22' ∧ d ≠ '\\' := by
      intro d hd
      simpa using List.all_eq_true.1 (hcodes c.toNat h) d hd
    show '\\' :: 'u' :: withoutBlanksInString ((hexDigits 4 c.toNat).toList ++ rest) = _
    rw [withoutBlanksInString_append hdigits]
    rfl
  | plain hmark hescape h => exact withoutBlanksInString_cons hmark hescape rest

theorem withoutBlanks_quoteChars (text : String) (rest : List Char) :
    withoutBlanks (quoteChars text ++ rest) = quoteChars text ++ withoutBlanks rest := by
  have hinside : withoutBlanksInString (text.toList.flatMap escapedChar ++ '\x22' :: rest) =
      text.toList.flatMap escapedChar ++ '\x22' :: withoutBlanks rest := by
    induction text.toList with
    | nil => rfl
    | cons c cs ih =>
      rw [List.flatMap_cons, List.append_assoc, withoutBlanksInString_escapedChar, ih, List.append_assoc]
  rw [quoteChars, List.append_assoc, List.append_assoc, List.cons_append, List.cons_append]
  show '\x22' :: withoutBlanksInString (_ ++ '\x22' :: rest) = _
  rw [hinside]
  rfl

theorem withoutBlanks_colon (indent : Option Nat) (rest : List Char) :
    withoutBlanks (colon indent ++ rest) = colon none ++ withoutBlanks rest := by
  cases indent <;> rfl

theorem withoutBlanks_toString (n : Nat) (rest : List Char) :
    withoutBlanks ((toString n).toList ++ rest) = (toString n).toList ++ withoutBlanks rest := by
  have hdigits : ∀ c ∈ (toString n).toList, c.isDigit = true := fun _ => isDigit_of_mem_toString
  generalize (toString n).toList = digits at hdigits ⊢
  induction digits with
  | nil => rfl
  | cons c cs ih =>
    obtain ⟨hc, hcs⟩ := List.forall_mem_cons.1 hdigits
    have hmark : c ≠ '\x22' := by
      rintro rfl
      exact absurd hc (by decide)
    rw [List.cons_append, withoutBlanks_cons (isBlank_eq_false_of_isDigit hc) hmark, ih hcs, List.cons_append]

mutual
theorem withoutBlanks_chars (indent : Option Nat) (depth depth' : Nat) (value : Json) (rest : List Char) :
    withoutBlanks (chars indent depth value ++ rest) = chars none depth' value ++ withoutBlanks rest := by
  match value with
  | null => rw [chars, chars]; rfl
  | bool true => rw [chars, chars]; rfl
  | bool false => rw [chars, chars]; rfl
  | number n => rw [chars, chars, withoutBlanks_toString]
  | string text => rw [chars, chars, withoutBlanks_quoteChars]
  | array [] => rw [chars, chars]; rfl
  | array (item :: items) =>
    rw [chars, chars]
    simp only [List.cons_append, List.append_assoc]
    rw [withoutBlanks_cons (by decide) (by decide), withoutBlanks_lineBreak,
      withoutBlanks_chars indent (depth + 1) (depth' + 1) item,
      withoutBlanks_itemChars indent (depth + 1) (depth' + 1) items, withoutBlanks_lineBreak]
    rfl
  | object [] => rw [chars, chars]; rfl
  | object ((name, value) :: members) =>
    rw [chars, chars]
    simp only [List.cons_append, List.append_assoc]
    rw [withoutBlanks_cons (by decide) (by decide), withoutBlanks_lineBreak, withoutBlanks_quoteChars,
      withoutBlanks_colon, withoutBlanks_chars indent (depth + 1) (depth' + 1) value,
      withoutBlanks_memberChars indent (depth + 1) (depth' + 1) members, withoutBlanks_lineBreak]
    rfl

theorem withoutBlanks_itemChars (indent : Option Nat) (depth depth' : Nat) (items : List Json) (rest : List Char) :
    withoutBlanks (itemChars indent depth items ++ rest) = itemChars none depth' items ++ withoutBlanks rest := by
  match items with
  | [] => rw [itemChars, itemChars]; rfl
  | item :: items =>
    rw [itemChars, itemChars]
    simp only [List.cons_append, List.append_assoc]
    rw [withoutBlanks_cons (by decide) (by decide), withoutBlanks_lineBreak,
      withoutBlanks_chars indent depth depth' item, withoutBlanks_itemChars indent depth depth' items]
    rfl

theorem withoutBlanks_memberChars (indent : Option Nat) (depth depth' : Nat) (members : List (String × Json))
    (rest : List Char) :
    withoutBlanks (memberChars indent depth members ++ rest) =
      memberChars none depth' members ++ withoutBlanks rest := by
  match members with
  | [] => rw [memberChars, memberChars]; rfl
  | (name, value) :: members =>
    rw [memberChars, memberChars]
    simp only [List.cons_append, List.append_assoc]
    rw [withoutBlanks_cons (by decide) (by decide), withoutBlanks_lineBreak, withoutBlanks_quoteChars,
      withoutBlanks_colon, withoutBlanks_chars indent depth depth' value,
      withoutBlanks_memberChars indent depth depth' members]
    rfl
end

end TableSchema.Text.Json
