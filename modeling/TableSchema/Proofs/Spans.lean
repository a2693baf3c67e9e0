import Mathlib
import TableSchema.Proofs.Arrangement
import TableSchema.Proofs.Pieces
import TableSchema.Proofs.Tokens
import TableSchema.Split

/-!
# Where tables stand in a text

The parser sees tokens only, but every token has its place, and from there on the text has the tokens that come next.
So a definition that was read can be found again in the characters of its text.

* (characters) `Cursor.exists_name` and `Cursor.exists_punctuator` say which characters stand at a token, and
  `exists_text_of_block` which ones a table with a block of fields consists of;
* (documents) `names_of_parse` says that tables and enumerations are called by names, and `Reads.tables` finds the
  tables of a document in its text, one behind the other.

Main statement: the text of a table with a block is a document of its own, with the same table and nothing else
(`exists_parse_of_block`).
-/

namespace TableSchema

open Text Syntax

/-! ### Names and word characters -/

namespace Syntax

theorem toNat_lt_of_isAlphanum {c : Char} (h : c.isAlphanum = true) : c.toNat < 0x80 := by
  simp only [Char.isAlphanum, Char.isAlpha, Char.isUpper, Char.isLower, Char.isDigit, Bool.or_eq_true,
    Bool.and_eq_true, decide_eq_true_eq] at h
  obtain (⟨-, h⟩ | ⟨-, h⟩) | ⟨-, h⟩ := h <;>
    exact Nat.lt_of_le_of_lt (UInt32.le_iff_toNat_le.1 h) (by decide)

theorem isNameContinue_of_isNameStart {c : Char} (h : isNameStart c = true) : isNameContinue c = true := by
  simp only [isNameStart, isNameContinue, Char.isAlphanum, Bool.or_eq_true] at h ⊢
  exact h.imp .inl id

theorem toNat_lt_of_isNameContinue {c : Char} (h : isNameContinue c = true) : c.toNat < 0x80 := by
  simp only [isNameContinue, Bool.or_eq_true, beq_iff_eq] at h
  obtain h | rfl := h
  · exact toNat_lt_of_isAlphanum h
  · decide

theorem isWord_eq_isNameContinue {c : Char} (h : c.toNat < 0x80) : isWord c = isNameContinue c := by
  rw [isWord, isNameContinue, if_pos h, Bool.or_comm]

theorem isWord_of_isNameContinue {c : Char} (h : isNameContinue c = true) : isWord c = true := by
  rw [isWord_eq_isNameContinue (toNat_lt_of_isNameContinue h), h]

/-- Whether a text is a name: a letter or an underscore, and behind it letters, digits and underscores. -/
def IsName (text : String) : Prop :=
  ∃ c rest, text = String.ofList (c :: rest) ∧ isNameStart c = true ∧ ∀ d ∈ rest, isNameContinue d = true

theorem IsName.toList_ne_nil {text : String} (h : IsName text) : text.toList ≠ [] := by
  obtain ⟨c, rest, rfl, -, -⟩ := h
  rw [String.toList_ofList]
  exact List.cons_ne_nil c rest

theorem IsName.forall_isNameContinue {text : String} (h : IsName text) : ∀ c ∈ text.toList, isNameContinue c = true := by
  obtain ⟨c, rest, rfl, hstart, hrest⟩ := h
  rw [String.toList_ofList, List.forall_mem_cons]
  exact ⟨isNameContinue_of_isNameStart hstart, hrest⟩

theorem toNat_lt_of_starts {c : Char} {rest : List Char} {r : Lexeme × Nat} (h : Starts c rest r) : c.toNat < 0x80 := by
  cases h with
  | punctuator h =>
    unfold Punctuator.ofChar? at h
    split at h <;> first | decide | cases h
  | name h => exact toNat_lt_of_isNameContinue (isNameContinue_of_isNameStart h)
  | number hdigit =>
    obtain h | rfl := hdigit
    · exact toNat_lt_of_isAlphanum (by rw [Char.isAlphanum, h, Bool.or_true])
    · decide
  | string hmark => subst hmark; decide
  | blockString hmark => subst hmark; decide
  | ellipsis hdot => subst hdot; decide

/-- Where a name ends and tokens follow, no word goes on. -/
theorem isWord_eq_false_of_tokenizeAt {p : Nat} {c : Char} {rest : List Char} {t : Token} {ts : List Token}
    {e : Option SyntaxError} (h : tokenizeAt p (c :: rest) = ⟨t :: ts, e⟩) (hc : isNameContinue c = false) :
    isWord c = false := by
  by_cases hascii : c.toNat < 0x80
  · rw [isWord_eq_isNameContinue hascii, hc]
  -- beyond ASCII there is only one character that can stand there
  obtain ⟨n, hgap, -, hlast⟩ := tokenizeAt_eq_cons h
  by_cases hnewline : isNewline c = true
  · simp only [isNewline, Bool.or_eq_true, beq_iff_eq] at hnewline
    obtain rfl | rfl := hnewline <;> exact absurd (by decide) hascii
  rw [skipIgnored, if_neg hnewline, if_neg Bool.false_ne_true] at hgap
  split_ifs at hgap with hmark hignored
  · rw [beq_iff_eq] at hmark
    subst hmark
    exact absurd (by decide) hascii
  · simp only [isIgnored, hnewline, Bool.or_false, Bool.or_eq_true, beq_iff_eq] at hignored
    obtain ((rfl | rfl) | rfl) | rfl := hignored
    · exact absurd (by decide) hascii
    · exact absurd (by decide) hascii
    · exact absurd (by decide) hascii
    · decide +kernel
  · obtain ⟨-, hdrop⟩ := Prod.mk.inj hgap
    rw [← hdrop] at hlast
    obtain ⟨hnil, -⟩ | ⟨a, rest', length, heq, hread, -⟩ := hlast
    · cases hnil
    · cases heq
      exact absurd (toNat_lt_of_starts (starts_of_readLexeme hread)) hascii

/-! ### Cursors in a text -/

/-- Whether a cursor has before it the tokens of a text from its place on. -/
def Cursor.StandsIn (text : List Char) (c : Cursor) : Prop :=
  tokenizeAt c.current.start (text.drop c.current.start) = ⟨c.tokens, c.error⟩

namespace Cursor.StandsIn

variable {text : List Char} {c c' : Cursor}

theorem reaches (h : c.StandsIn text) (hreaches : c.Reaches c') : c'.StandsIn text := by
  obtain ⟨⟨before, hbefore⟩, herror⟩ := hreaches
  unfold StandsIn at h ⊢
  rw [← hbefore, ← herror] at h
  obtain ⟨n, hn, htokens⟩ := tokenizeAt_of_append h
  rw [List.drop_drop, ← hn] at htokens
  exact htokens

/-- The tokens behind the current one have their places behind it. -/
theorem stop_le (h : c.StandsIn text) (hend : c.current.lexeme ≠ .endOfText) {t : Token} (ht : t ∈ c.following) :
    c.current.stop ≤ t.start := by
  obtain ⟨n, -, -, hlast | ⟨a, rest, length, -, -, -, hrest⟩⟩ := tokenizeAt_eq_cons h
  · exact absurd hlast.2.1 hend
  · exact (place_of_mem_tokens hrest ht).1

theorem start_le (h : c.StandsIn text) (hreaches : c.Reaches c') : c.current.start ≤ c'.current.start :=
  (place_of_mem_tokens h (hreaches.1.subset List.mem_cons_self)).1

/-- What a cursor has before it, unless it is the end of the text. -/
theorem exists_readLexeme (h : c.StandsIn text) (hend : c.current.lexeme ≠ .endOfText) :
    ∃ a rest length, text.drop c.current.start = a :: rest ∧
      readLexeme c.current.start a rest = .ok (c.current.lexeme, length) ∧
      c.current.stop = c.current.start + length ∧
      tokenizeAt c.current.stop (rest.drop (length - 1)) = ⟨c.following, c.error⟩ := by
  obtain ⟨n, -, hstart, hlast | ⟨a, rest, length, hdrop, hread, hstop, hrest⟩⟩ := tokenizeAt_eq_cons h
  · exact absurd hlast.2.1 hend
  · obtain rfl : n = 0 := by omega
    rw [List.drop_zero] at hdrop
    exact ⟨a, rest, length, hdrop, hread, hstop, hrest⟩

theorem exists_punctuator (h : c.StandsIn text) {p : Punctuator} (hp : p ≠ .ellipsis)
    (hlexeme : c.current.lexeme = .punctuator p) :
    ∃ a rest, text.drop c.current.start = a :: rest ∧ Punctuator.ofChar? a = some p ∧
      c.current.stop = c.current.start + 1 := by
  obtain ⟨a, rest, length, hdrop, hread, hstop, -⟩ := h.exists_readLexeme (by rw [hlexeme]; simp)
  rw [hlexeme] at hread
  obtain ⟨hchar, rfl⟩ := starts_punctuator hp (starts_of_readLexeme hread)
  exact ⟨a, rest, hdrop, hchar, hstop⟩

/-- The parser takes for names what are names. -/
theorem isName (h : c.StandsIn text) {name : String} (hlexeme : c.current.lexeme = .name name) : IsName name := by
  obtain ⟨a, rest, length, -, hread, -⟩ := h.exists_readLexeme (by rw [hlexeme]; simp)
  rw [hlexeme] at hread
  obtain ⟨hstart, rfl, -⟩ := starts_name (starts_of_readLexeme hread)
  exact ⟨a, rest.takeWhile isNameContinue, rfl, hstart, fun _ hd => List.mem_takeWhile_imp hd⟩

theorem exists_name (h : c.StandsIn text) {name : String} (hlexeme : c.current.lexeme = .name name)
    (hfollowing : c.following ≠ []) :
    ∃ behind, text.drop c.current.start = name.toList ++ behind ∧
      c.current.stop = c.current.start + name.toList.length ∧ name.toList ≠ [] ∧
      (∀ a ∈ name.toList, isWord a = true) ∧ ∀ a ∈ behind.head?, isWord a = false := by
  have hname := h.isName hlexeme
  obtain ⟨a, rest, length, hdrop, hread, hstop, htokens⟩ := h.exists_readLexeme (by rw [hlexeme]; simp)
  rw [hlexeme] at hread
  obtain ⟨-, rfl, rfl⟩ := starts_name (starts_of_readLexeme hread)
  rw [Nat.add_sub_cancel] at htokens
  have hbehind : rest.drop (rest.takeWhile isNameContinue).length = rest.dropWhile isNameContinue := by
    calc rest.drop (rest.takeWhile isNameContinue).length
        = (rest.takeWhile isNameContinue ++ rest.dropWhile isNameContinue).drop
            (rest.takeWhile isNameContinue).length := by rw [List.takeWhile_append_dropWhile]
      _ = rest.dropWhile isNameContinue := List.drop_left
  rw [hbehind] at htokens
  refine ⟨rest.dropWhile isNameContinue, ?_, ?_, hname.toList_ne_nil,
    fun x hx => isWord_of_isNameContinue (hname.forall_isNameContinue x hx), ?_⟩
  · rw [hdrop, String.toList_ofList, List.cons_append, List.takeWhile_append_dropWhile]
  · rw [String.toList_ofList, List.length_cons, hstop]
  · intro x hx
    obtain ⟨t, ts, hts⟩ := List.exists_cons_of_ne_nil hfollowing
    have hstop := List.head?_dropWhile_not isNameContinue rest
    rw [hx] at hstop
    obtain ⟨xs, hxs⟩ : ∃ xs, rest.dropWhile isNameContinue = x :: xs := List.head?_eq_some_iff.1 hx
    rw [hxs, hts] at htokens
    exact isWord_eq_false_of_tokenizeAt htokens (by simpa using hstop)

end Cursor.StandsIn

/-! ### Tables in a text -/

/-- A text up to a later place, from where characters go on. -/
theorem exists_drop_eq_append {text : List Char} {i j : Nat} (h : i ≤ j) (hj : text.drop j ≠ []) :
    ∃ between, text.drop i = between ++ text.drop j ∧ between.length = j - i := by
  have hlength := List.length_pos_iff.2 hj
  rw [List.length_drop] at hlength
  refine ⟨(text.drop i).take (j - i), ?_, ?_⟩
  · calc text.drop i = (text.drop i).take (j - i) ++ (text.drop i).drop (j - i) := (List.take_append_drop _ _).symm
      _ = (text.drop i).take (j - i) ++ text.drop j := by rw [List.drop_drop, Nat.add_sub_cancel' h]
  · rw [List.length_take, List.length_drop]
    omega

section Blocks

variable {text : List Char} {c c' : Cursor} {n : Name} {is : List Name} {ds : List Directive}
  {fs : List FieldDeclaration}

/-- The text of a table with a block: a name, then a brace that opens somewhere, and in the end one that closes. -/
theorem exists_text_of_block (h : Parser.block.run c = .ok ((n, is, ds, fs), c')) (hc : c.StandsIn text)
    (hends : Ends c.tokens) :
    ∃ behind after, text.drop n.start = n.text.toList ++ (behind ++ '\x7d' :: after) ∧
      c'.lastStop = n.start + (n.text.toList ++ behind).length + 1 ∧ n.text.toList ≠ [] ∧
      (∀ a ∈ n.text.toList, isWord a = true) ∧ (∀ a ∈ behind.head?, isWord a = false) ∧ '\x7b' ∈ behind := by
  obtain ⟨hname, hstart, opening, close, header, body, hopening, hclose, hlast, hfollowing⟩ :=
    Parser.tokens_of_block h hends
  obtain ⟨rest, hrest, hstop, hne, hword, hnext⟩ := hc.exists_name hname (by simp [hfollowing])
  -- where the braces stand
  have hopen : (⟨opening, body ++ close :: c'.tokens, c.error, 0⟩ : Cursor).StandsIn text :=
    hc.reaches ⟨⟨c.current :: header, by simp [Cursor.tokens, hfollowing]⟩, rfl⟩
  have hend : (⟨close, c'.tokens, c.error, 0⟩ : Cursor).StandsIn text :=
    hopen.reaches ⟨⟨opening :: body, by simp [Cursor.tokens]⟩, rfl⟩
  obtain ⟨a, inside, hinside, ha, hopenStop⟩ := hopen.exists_punctuator (by simp) hopening
  obtain ⟨b, after, hafter, hb, hcloseStop⟩ := hend.exists_punctuator (by simp) hclose
  obtain rfl := eq_of_ofChar?_leftBrace ha
  obtain rfl := eq_of_ofChar?_rightBrace hb
  have hheader : c.current.stop ≤ opening.start :=
    hc.stop_le (by rw [hname]; simp) (by simp [hfollowing])
  have hbody : opening.stop ≤ close.start := hopen.stop_le (by rw [hopening]; simp) (by simp)
  dsimp only at hinside hafter hopenStop hcloseStop
  -- what stands between them
  obtain ⟨before, hbefore, hbeforeLength⟩ :=
    exists_drop_eq_append hheader (hinside ▸ List.cons_ne_nil _ _ : text.drop opening.start ≠ [])
  obtain ⟨between, hbetween, hbetweenLength⟩ :=
    exists_drop_eq_append hbody (hafter ▸ List.cons_ne_nil _ _ : text.drop close.start ≠ [])
  have hrest' : rest = before ++ '\x7b' :: between ++ '\x7d' :: after := by
    have hbehind : rest = text.drop c.current.stop := by
      rw [hstop, ← List.drop_drop, hrest, List.drop_left]
    have htail : inside = text.drop opening.stop := by
      rw [hopenStop, ← List.tail_drop, hinside]
      rfl
    rw [hbehind, hbefore, hinside, htail, hbetween, hafter, List.append_assoc, List.cons_append]
  refine ⟨before ++ '\x7b' :: between, after, by rw [← hstart, hrest, hrest'], ?_, hne, hword, ?_, by simp⟩
  · rw [hlast, hcloseStop]
    simp only [List.length_append, List.length_cons]
    omega
  · intro x hx
    refine hnext x ?_
    rw [hrest', List.head?_append, hx]
    rfl

/-- What stands behind a table with a block starts behind its closing brace. -/
theorem lastStop_le_of_block (h : Parser.block.run c = .ok ((n, is, ds, fs), c')) (hc : c.StandsIn text)
    (hends : Ends c.tokens) : c'.lastStop ≤ c'.current.start := by
  obtain ⟨-, -, opening, close, header, body, -, hclose, hlast, hfollowing⟩ := Parser.tokens_of_block h hends
  have hend : (⟨close, c'.tokens, c.error, 0⟩ : Cursor).StandsIn text :=
    hc.reaches ⟨⟨c.current :: header ++ opening :: body, by simp [Cursor.tokens, hfollowing]⟩, rfl⟩
  rw [hlast]
  exact hend.stop_le (by rw [hclose]; simp) List.mem_cons_self

/-- What follows a keyword and a space is read as it would be on its own. -/
theorem tokenizeAt_keyword {text : List Char} {ts : List Token} {e : Option SyntaxError}
    (h : tokenizeAt 5 text = ⟨ts, e⟩) :
    tokenizeAt 0 (Extract.opening ++ text) = ⟨⟨0, 4, .name "type"⟩ :: ts, e⟩ := by
  obtain ⟨n, hn⟩ := exists_skipIgnored false text
  have hgap : skipIgnored false 4 (' ' :: text) = (5 + n, text.drop n) := hn 5
  have hkeyword : readLexeme 0 't' ('y' :: 'p' :: 'e' :: ' ' :: text) = .ok (.name "type", 4) := rfl
  have hfirst : skipIgnored false 0 (Extract.opening ++ text) = (0, 't' :: 'y' :: 'p' :: 'e' :: ' ' :: text) := rfl
  rw [tokenizeAt_of_lexeme hfirst hkeyword]
  show Tokens.cons _ (tokenizeAt 4 (' ' :: text)) = _
  rw [tokenizeAt_of_gap hgap, ← tokenizeAt_of_gap (hn 5), h]
  rfl

/-- The text of a table with a block is a document of its own with that table. -/
theorem exists_parse_of_block (h : Parser.block.run c = .ok ((n, is, ds, fs), c')) (hc : c.StandsIn text)
    (hends : Ends c.tokens) {piece after : List Char} (hpiece : text.drop n.start = piece ++ after)
    (hstop : c'.lastStop = n.start + piece.length) {source : Source}
    (hbody : source.body.toList = Extract.opening ++ piece) :
    ∃ t, parse source = .ok ⟨source, [.table t]⟩ ∧
      t.bare = ⟨0, 0, none, n.bare, [], ds.map Directive.bare, fs.map FieldDeclaration.bare⟩ := by
  obtain ⟨-, hstart, opening, close, header, body, -, hclose, hlast, hfollowing⟩ := Parser.tokens_of_block h hends
  have hsplit : c.tokens = (c.current :: header ++ opening :: body) ++ close :: c'.tokens := by
    simp [Cursor.tokens, hfollowing]
  have htokens : tokenizeAt n.start (piece ++ after) =
      ⟨(c.current :: header ++ opening :: body) ++ close :: c'.tokens, c.error⟩ := by
    rw [← hpiece, ← hsplit, ← hstart]
    exact hc
  obtain ⟨ts, hts, hlexemes⟩ := tokenizeAt_upTo htokens hclose (hlast.symm.trans hstop) 5
  obtain ⟨first, following, rfl⟩ : ∃ t l, ts = t :: l :=
    List.exists_cons_of_ne_nil fun hnil => by simp [hnil] at hlexemes
  have hagrees : c.Agrees c'.tokens ⟨first, following, none, 4⟩ :=
    ⟨⟨(c.current :: header ++ opening :: body) ++ [close], by simp, by simp [hsplit],
      by simpa [Cursor.tokens, hclose] using hlexemes⟩, rfl, List.cons_ne_nil _ _⟩
  obtain ⟨⟨n', is', ds', fs'⟩, d, hrun, hbare, hend, -⟩ := Parser.closes_block.closes hends hagrees h
  have hdone : d.current.lexeme = .endOfText := (List.cons.inj hend).1
  have htokenize : tokenize source.body = ⟨⟨0, 4, .name "type"⟩ :: first :: following, none⟩ := by
    rw [tokenize, hbody]
    exact tokenizeAt_keyword hts
  have hdocument : Parser.document.run ⟨⟨0, 4, .name "type"⟩, first :: following, none, 0⟩ = _ :=
    Parser.run_document_of_block hrun hdone 0
  refine ⟨⟨0, d.lastStop, none, n', is', ds', fs'⟩, ?_, ?_⟩
  · unfold parse
    rw [htokenize]
    dsimp only
    rw [StateT.run'_eq, hdocument]
    rfl
  · simp only [Prod.mk.injEq] at hbare
    simp only [TableDeclaration.bare, ← hbare.1, ← hbare.2.1, ← hbare.2.2]

end Blocks

/-! ### Tables in a document -/

/-- Whether a table with a block of fields is read somewhere in a text. -/
def TableDeclaration.StandsIn (text : List Char) (t : TableDeclaration) : Prop :=
  ∃ c c' : Cursor, c.StandsIn text ∧ Ends c.tokens ∧ t.stop = c'.lastStop ∧
    Parser.block.run c = .ok ((t.name, t.interfaces, t.directives, t.fields), c')

/-- Whether definitions are read one after the other up to the end of the text. -/
inductive Reads : Cursor → List Definition → Prop
  | done {c : Cursor} (hend : c.current.lexeme = .endOfText) : Reads c []
  | next {c c' : Cursor} {d : Definition} {ds : List Definition} (hfirst : Parser.definition.run c = .ok (d, c'))
      (hothers : Reads c' ds) : Reads c (d :: ds)

theorem reads_of_definitionsToEnd {n : Nat} {c c' : Cursor} {ds : List Definition}
    (h : (Parser.definitionsToEnd n).run c = .ok (ds, c')) : Reads c ds := by
  induction n generalizing c ds with
  | zero => cases h
  | succ n ih =>
    rw [Parser.definitionsToEnd] at h
    obtain ⟨t, c₁, ht, h⟩ := Parser.run_bind_eq_ok_iff.1 h
    cases ht
    split at h
    · rename_i hend
      cases h
      exact .done hend
    · obtain ⟨d, c₂, hd, h⟩ := Parser.run_bind_eq_ok_iff.1 h
      obtain ⟨others, c₃, hothers, h⟩ := Parser.run_bind_eq_ok_iff.1 h
      cases h
      exact .next hd (ih hothers)

theorem reads_of_document {c c' : Cursor} {ds : List Definition} (h : Parser.document.run c = .ok (ds, c')) :
    Reads c ds := by
  obtain ⟨d, c₁, hd, h⟩ := Parser.run_bind_eq_ok_iff.1 h
  obtain ⟨n, c₂, hn, h⟩ := Parser.run_bind_eq_ok_iff.1 h
  cases hn
  obtain ⟨others, c₂, hothers, h⟩ := Parser.run_bind_eq_ok_iff.1 h
  cases h
  exact .next hd (reads_of_definitionsToEnd hothers)

theorem reads_of_parse {source : Source} {document : Document} (h : parse source = .ok document) :
    document.source = source ∧ (document.definitions = [] ∨
      ∃ c : Cursor, c.StandsIn source.body.toList ∧ Reads c document.definitions) := by
  unfold parse at h
  split at h
  · cases h
  · cases h
    exact ⟨rfl, .inl rfl⟩
  · rename_i first following error htokens
    obtain ⟨definitions, hdefinitions, h⟩ := bind_eq_ok_iff.1 h
    cases h
    rw [StateT.run'_eq, map_eq_ok_iff] at hdefinitions
    obtain ⟨⟨ds, c'⟩, hrun, rfl⟩ := hdefinitions
    obtain ⟨n, hn, hstart, -⟩ := tokenizeAt_eq_cons htokens
    refine ⟨rfl, .inr ⟨_, ?_, reads_of_document hrun⟩⟩
    show tokenizeAt first.start (source.body.toList.drop first.start) = ⟨first :: following, error⟩
    rw [Nat.zero_add] at hn hstart
    rw [hstart, ← tokenizeAt_of_gap hn]
    exact htokens

theorem run_definition_table_eq_ok {c c' : Cursor} {t : TableDeclaration}
    (h : Parser.definition.run c = .ok (.table t, c')) :
    ∃ c₁, t.stop = c'.lastStop ∧ c.Reaches c₁ ∧ c₁.Reaches c' ∧ c₁.current.lexeme = .name t.name.text ∧
      (t.fields ≠ [] → Parser.block.run c₁ = .ok ((t.name, t.interfaces, t.directives, t.fields), c')) := by
  obtain ⟨kind, name, start, stop, hother⟩ | h | h := Parser.givesTypes_definition c h
  · cases hother
  · obtain ⟨t', c₁, heq, hstop, hbefore, hbehind, hname, hblock⟩ := Parser.run_typeDefinition_type_eq_ok h
    cases heq
    exact ⟨c₁, hstop, hbefore, hbehind, hname, hblock⟩
  · obtain ⟨e, c₁, heq, -⟩ := Parser.run_typeDefinition_enum_eq_ok h
    cases heq

/-- On the way through a table or an enumeration the parser stands at its name. -/
theorem exists_name_of_run_definition {c c' : Cursor} {d : Definition}
    (h : Parser.definition.run c = .ok (d, c')) (hd : (∃ t, d = .table t) ∨ ∃ e, d = .enumeration e) :
    ∃ c₁ name, c.Reaches c₁ ∧ c₁.Reaches c' ∧ c₁.current.lexeme = .name name ∧ d.name? = some name := by
  obtain ⟨t, rfl⟩ | ⟨e, rfl⟩ := hd
  · obtain ⟨c₁, -, hbefore, hbehind, hname, -⟩ := run_definition_table_eq_ok h
    exact ⟨c₁, _, hbefore, hbehind, hname, rfl⟩
  · obtain ⟨kind, name, start, stop, hother⟩ | h | h := Parser.givesTypes_definition c h
    · cases hother
    · obtain ⟨t, c₁, heq, -⟩ := Parser.run_typeDefinition_type_eq_ok h
      cases heq
    · obtain ⟨e', c₁, heq, hbefore, hbehind, hname⟩ := Parser.run_typeDefinition_enum_eq_ok h
      cases heq
      exact ⟨c₁, _, hbefore, hbehind, hname, rfl⟩

theorem reaches_of_run_definition {c c' : Cursor} {d : Definition} (h : Parser.definition.run c = .ok (d, c'))
    (hd : (∃ t, d = .table t) ∨ ∃ e, d = .enumeration e) : c.Reaches c' := by
  obtain ⟨c₁, _, hbefore, hbehind, -⟩ := exists_name_of_run_definition h hd
  exact hbefore.trans hbehind

namespace Reads

variable {text : List Char} {c : Cursor} {ds : List Definition}

/-- A text that is read up to its end has its tokens up to its end. -/
theorem ends (h : Reads c ds) (hc : c.StandsIn text)
    (hkinds : ∀ d ∈ ds, (∃ t, d = .table t) ∨ ∃ e, d = .enumeration e) : Ends c.tokens := by
  induction h with
  | @done c hend =>
    obtain ⟨n, -, -, ⟨-, -, hlast, -⟩ | ⟨a, rest, length, -, hread, -⟩⟩ := tokenizeAt_eq_cons hc
    · exact ⟨c.current, by rw [Cursor.tokens, hlast]; rfl, hend⟩
    · rw [hend] at hread
      exact absurd (starts_of_readLexeme hread) not_starts_endOfText
  | next hfirst hothers ih =>
    obtain ⟨hd, hkinds⟩ := List.forall_mem_cons.1 hkinds
    have hreaches := reaches_of_run_definition hfirst hd
    exact (ih (hc.reaches hreaches) hkinds).to_suffix hreaches.1

/-- What a table or an enumeration is called by is a name. -/
theorem names (h : Reads c ds) (hc : c.StandsIn text)
    (hkinds : ∀ d ∈ ds, (∃ t, d = .table t) ∨ ∃ e, d = .enumeration e) :
    ∀ d ∈ ds, ∃ name, d.name? = some name ∧ IsName name := by
  induction h with
  | done => simp
  | next hfirst hothers ih =>
    obtain ⟨hd, hkinds⟩ := List.forall_mem_cons.1 hkinds
    obtain ⟨c₁, name, hbefore, hbehind, hlexeme, hname⟩ := exists_name_of_run_definition hfirst hd
    have hrest := ih (hc.reaches (hbefore.trans hbehind)) hkinds
    exact List.forall_mem_cons.2 ⟨⟨name, hname, (hc.reaches hbefore).isName hlexeme⟩, hrest⟩

/-- Tables with a block stand in the text in which they are read, one behind the other. -/
theorem tables (h : Reads c ds) (hc : c.StandsIn text)
    (hkinds : ∀ d ∈ ds, (∃ t, d = .table t) ∨ ∃ e, d = .enumeration e)
    (hfields : ∀ t ∈ tableDeclarations ds, t.fields ≠ []) :
    (∀ t ∈ tableDeclarations ds, c.current.start ≤ t.name.start ∧ t.StandsIn text) ∧
      (tableDeclarations ds).Pairwise fun t t' => t.stop ≤ t'.name.start := by
  induction h with
  | done => exact ⟨by simp [tableDeclarations], .nil⟩
  | @next c c' d ds hfirst hothers ih =>
    have hends := (Reads.next hfirst hothers).ends hc hkinds
    obtain ⟨hd, hrest⟩ := List.forall_mem_cons.1 hkinds
    have hreaches := reaches_of_run_definition hfirst hd
    have hbehind := hc.start_le hreaches
    obtain ⟨t, rfl⟩ | ⟨e, rfl⟩ := hd
    · obtain ⟨ht, hblocks⟩ := List.forall_mem_cons.1 (hfields : ∀ t' ∈ t :: tableDeclarations ds, _)
      obtain ⟨hplaces, horder⟩ := ih (hc.reaches hreaches) hrest hblocks
      obtain ⟨c₁, hstop, hbefore, -, -, hblock⟩ := run_definition_table_eq_ok hfirst
      have hc₁ := hc.reaches hbefore
      have hends₁ := hends.of_suffix hbefore.1 (List.cons_ne_nil _ _)
      have hle := lastStop_le_of_block (hblock ht) hc₁ hends₁
      have hstart : c₁.current.start = t.name.start := (Parser.tokens_of_block (hblock ht) hends₁).2.1
      refine ⟨List.forall_mem_cons.2 ⟨⟨hstart ▸ hc.start_le hbefore, c₁, c', hc₁, hends₁, hstop, hblock ht⟩,
        fun t' ht' => ⟨Nat.le_trans hbehind (hplaces t' ht').1, (hplaces t' ht').2⟩⟩, List.pairwise_cons.2 ⟨?_, horder⟩⟩
      intro t' ht'
      rw [hstop]
      exact Nat.le_trans hle (hplaces t' ht').1
    · obtain ⟨hplaces, horder⟩ := ih (hc.reaches hreaches) hrest hfields
      exact ⟨fun t ht => ⟨Nat.le_trans hbehind (hplaces t ht).1, (hplaces t ht).2⟩, horder⟩

end Reads

/-- What the tables and enumerations of a parsed document are called by are names. -/
theorem names_of_parse {source : Source} {document : Document} (h : parse source = .ok document)
    (hkinds : ∀ d ∈ document.definitions, (∃ t, d = .table t) ∨ ∃ e, d = .enumeration e) :
    ∀ d ∈ document.definitions, ∃ name, d.name? = some name ∧ IsName name := by
  obtain ⟨-, hnil | ⟨c, hc, hreads⟩⟩ := reads_of_parse h
  · simp [hnil]
  · exact hreads.names hc hkinds

/-- The tables of a parsed document stand in its text, one behind the other, if all of them have a block. -/
theorem tables_of_parse {source : Source} {document : Document} (h : parse source = .ok document)
    (hkinds : ∀ d ∈ document.definitions, (∃ t, d = .table t) ∨ ∃ e, d = .enumeration e)
    (hfields : ∀ t ∈ tableDeclarations document.definitions, t.fields ≠ []) :
    (∀ t ∈ tableDeclarations document.definitions, t.StandsIn source.body.toList) ∧
      (tableDeclarations document.definitions).Pairwise fun t t' => t.stop ≤ t'.name.start := by
  obtain ⟨-, hnil | ⟨c, hc, hreads⟩⟩ := reads_of_parse h
  · rw [hnil]
    exact ⟨by simp [tableDeclarations], .nil⟩
  · obtain ⟨hstand, horder⟩ := hreads.tables hc hkinds hfields
    exact ⟨fun t ht => (hstand t ht).2, horder⟩

end Syntax

end TableSchema
