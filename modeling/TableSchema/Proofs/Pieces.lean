import Mathlib
import TableSchema.Proofs.Bare
import TableSchema.Syntax.Grammar

/-!
# Pieces of a document

A parser looks one token ahead and no further.  So it goes through the tokens of a piece as it goes through the same
tokens in the whole document, as long as it stays inside of the piece, and what it makes of them differs in places only.

* (steps) `Transfers` says so of a parser that may end inside of the piece.  It is kept by sequences and repetitions,
  and every parser that a table is made of has it;
* (runs) `Closes` says so of a parser that ends with the piece, at the token that the document goes on behind;
* (definitions) `givesTypes_definition` says that the keywords `type` and `enum` alone lead to tables and enumerations.

Main statements: a table behind its keyword is such a parser if it has a block of fields (`closes_block`), and its
tokens behind the keyword are a document of their own (`run_document_of_block`).
-/

namespace TableSchema.Syntax

variable {α β γ δ : Type}

/-! ### Cursors -/

/-- The tokens from the current one on. -/
def Cursor.tokens (c : Cursor) : List Token := c.current :: c.following

/-- Whether a cursor can come to stand where another one does. -/
def Cursor.Reaches (c c' : Cursor) : Prop := c'.tokens <:+ c.tokens ∧ c'.error = c.error

theorem Cursor.Reaches.refl (c : Cursor) : c.Reaches c := ⟨List.suffix_rfl, rfl⟩

theorem Cursor.Reaches.trans {c c' c'' : Cursor} (h : c.Reaches c') (h' : c'.Reaches c'') : c.Reaches c'' :=
  ⟨h'.1.trans h.1, h'.2.trans h.2⟩

theorem Cursor.Reaches.length_le {c c' : Cursor} (h : c.Reaches c') : c'.tokens.length ≤ c.tokens.length :=
  h.1.length_le

/-- Whether tokens go up to the end of their text. -/
def Ends (ts : List Token) : Prop := ∃ t ∈ ts.getLast?, t.lexeme = .endOfText

theorem Ends.of_suffix {ts ts' : List Token} (h : Ends ts) (hsuffix : ts' <:+ ts) (hne : ts' ≠ []) : Ends ts' := by
  obtain ⟨t, ht, hlexeme⟩ := h
  obtain ⟨before, rfl⟩ := hsuffix
  rw [List.getLast?_append_of_ne_nil _ hne] at ht
  exact ⟨t, ht, hlexeme⟩

theorem Ends.to_suffix {ts ts' : List Token} (h : Ends ts') (hsuffix : ts' <:+ ts) : Ends ts := by
  obtain ⟨t, ht, hlexeme⟩ := h
  obtain ⟨before, rfl⟩ := hsuffix
  exact ⟨t, by rw [List.getLast?_append, ht]; rfl, hlexeme⟩

theorem Ends.lexeme_of_singleton {c : Cursor} (h : Ends c.tokens) (hlast : c.following = []) :
    c.current.lexeme = .endOfText := by
  obtain ⟨t, ht, hend⟩ := h
  rw [Cursor.tokens, hlast, List.getLast?_singleton] at ht
  cases ht
  exact hend

/-- Whether one cursor stands in a piece as another one stands in the document that goes on behind the piece with
`behind`. -/
structure Cursor.Agrees (behind : List Token) (c d : Cursor) : Prop where
  tokens : ∃ piece, piece ≠ [] ∧ c.tokens = piece ++ behind ∧
    d.tokens.map (·.lexeme) = piece.map (·.lexeme) ++ [.endOfText]
  error : d.error = none
  behind_ne : behind ≠ []

namespace Cursor.Agrees

variable {behind : List Token} {c d : Cursor}

theorem current_eq (h : Agrees behind c d) : c.current.lexeme = d.current.lexeme := by
  obtain ⟨⟨_ | ⟨t, piece⟩, hne, hc, hd⟩, -, -⟩ := h
  · exact absurd rfl hne
  · rw [List.cons_append] at hc
    rw [List.map_cons, List.cons_append] at hd
    rw [(List.cons.inj hc).1]
    exact ((List.cons.inj hd).1).symm

theorem length_eq (h : Agrees behind c d) : d.tokens.length + behind.length = c.tokens.length + 1 := by
  obtain ⟨⟨piece, -, hc, hd⟩, -, -⟩ := h
  have := congrArg List.length hc
  have := congrArg List.length hd
  simp only [List.length_append, List.length_map, List.length_singleton] at *
  omega

theorem two_le (h : Agrees behind c d) : 2 ≤ c.tokens.length := by
  obtain ⟨⟨piece, hne, hc, -⟩, -, hbehind⟩ := h
  have := List.length_pos_iff.2 hne
  have := List.length_pos_iff.2 hbehind
  rw [hc, List.length_append]
  omega

end Cursor.Agrees

namespace Parser

/-! ### Runs -/

theorem run_bind_eq_ok_iff {p : Parser α} {f : α → Parser β} {c c' : Cursor} {b : β} :
    (p >>= f).run c = .ok (b, c') ↔ ∃ a c₁, p.run c = .ok (a, c₁) ∧ (f a).run c₁ = .ok (b, c') := by
  rw [StateT.run_bind, bind_eq_ok_iff]
  exact Prod.exists

theorem run_pure_eq_ok_iff {a b : α} {c c' : Cursor} : (pure a : Parser α).run c = .ok (b, c') ↔ a = b ∧ c = c' := by
  rw [StateT.run_pure]
  show Except.ok (a, c) = _ ↔ _
  rw [Except.ok.injEq, Prod.mk.injEq]

theorem run_advance_cons (t next : Token) (ts : List Token) (e : Option SyntaxError) (last : Nat) :
    advance.run ⟨t, next :: ts, e, last⟩ = .ok ((), ⟨next, ts, e, t.stop⟩) := rfl

/-- A token that is consumed is left behind, unless it is the last. -/
theorem run_advance_eq_ok {c c' : Cursor} (h : advance.run c = .ok ((), c')) :
    c'.lastStop = c.current.stop ∧ c'.error = c.error ∧
      (c.following = c'.tokens ∨ c.following = [] ∧ c'.tokens = c.tokens) := by
  obtain ⟨t, following, e, last⟩ := c
  cases following with
  | nil =>
    cases e with
    | none =>
      cases h
      exact ⟨rfl, rfl, .inr ⟨rfl, rfl⟩⟩
    | some e => cases h
  | cons next ts =>
    cases h
    exact ⟨rfl, rfl, .inl rfl⟩

/-! ### Parsers go forward -/

/-- Whether a parser never goes back. -/
def Forward (p : Parser α) : Prop := ∀ ⦃c a c'⦄, p.run c = .ok (a, c') → c.Reaches c'

/-- Whether a parser consumes a token at least, if there is one besides the last. -/
structure Consumes (p : Parser α) : Prop where
  forward : Forward p
  length_lt : ∀ ⦃c a c'⦄, p.run c = .ok (a, c') → 2 ≤ c.tokens.length → c'.tokens.length < c.tokens.length

theorem Forward.pure (a : α) : Forward (pure a : Parser α) := by
  intro c b c' h
  obtain ⟨-, rfl⟩ := run_pure_eq_ok_iff.1 h
  exact .refl c

theorem Forward.bind {p : Parser α} {f : α → Parser β} (hp : Forward p) (hf : ∀ a, Forward (f a)) :
    Forward (p >>= f) := by
  intro c b c' h
  obtain ⟨a, c₁, ha, hb⟩ := run_bind_eq_ok_iff.1 h
  exact (hp ha).trans (hf a hb)

theorem forward_failAt (t : Token) (fault : SyntaxFault) : Forward (failAt t fault : Parser α) := by
  intro c a c' h
  cases h

theorem forward_current : Forward current := by
  intro c t c' h
  cases h
  exact .refl c

theorem forward_advance : Forward advance := by
  intro c a c' h
  obtain ⟨-, herror, hnext | ⟨-, hstay⟩⟩ := run_advance_eq_ok h
  · exact ⟨⟨[c.current], by rw [← hnext]; rfl⟩, herror⟩
  · exact ⟨hstay ▸ List.suffix_rfl, herror⟩

theorem consumes_failAt (t : Token) (fault : SyntaxFault) : Consumes (failAt t fault : Parser α) where
  forward := forward_failAt t fault
  length_lt _ _ _ h := nomatch h

theorem consumes_advance : Consumes advance where
  forward := forward_advance
  length_lt c a c' h hlong := by
    obtain ⟨-, -, hnext | ⟨hlast, -⟩⟩ := run_advance_eq_ok h
    · rw [← hnext]
      exact Nat.lt_succ_self _
    · rw [Cursor.tokens, hlast] at hlong
      exact absurd hlong (by simp)

theorem Consumes.bind_left {p : Parser α} {f : α → Parser β} (hp : Consumes p) (hf : ∀ a, Forward (f a)) :
    Consumes (p >>= f) where
  forward := hp.forward.bind hf
  length_lt c b c' h hlong := by
    obtain ⟨a, c₁, ha, hb⟩ := run_bind_eq_ok_iff.1 h
    exact Nat.lt_of_le_of_lt (hf a hb).length_le (hp.length_lt ha hlong)

theorem Consumes.bind_right {p : Parser α} {f : α → Parser β} (hp : Forward p) (hf : ∀ a, Consumes (f a)) :
    Consumes (p >>= f) where
  forward := hp.bind fun a => (hf a).forward
  length_lt c b c' h hlong := by
    obtain ⟨a, c₁, ha, hb⟩ := run_bind_eq_ok_iff.1 h
    have hle := (hp ha).length_le
    by_cases hlong' : 2 ≤ c₁.tokens.length
    · exact Nat.lt_of_lt_of_le ((hf a).length_lt hb hlong') hle
    · have := ((hf a).forward hb).length_le
      omega

theorem Consumes.discard {p : Parser α} (hp : Consumes p) : Consumes (discard p) := by
  show Consumes ((fun _ => ()) <$> p)
  rw [← bind_pure_comp]
  exact hp.bind_left fun _ => .pure _

/-! ### Parsers in a piece -/

/-- Whether two parsers do the same in a document and in a piece of it, up to what `e` leaves out: if the first one
stays inside of the piece in the document, then the second one gets as far in the piece. -/
structure Transfers (p q : Parser α) (e : α → γ) : Prop where
  forward : Forward p
  agrees : ∀ ⦃behind c d a c'⦄, c.Agrees behind d → p.run c = .ok (a, c') →
    c'.tokens <:+ behind ∨ ∃ b d', q.run d = .ok (b, d') ∧ e a = e b ∧ c'.Agrees behind d'

variable {e : α → γ}

theorem Transfers.pure {a b : α} (h : e a = e b) : Transfers (pure a) (pure b) e where
  forward := .pure a
  agrees _ c d a' c' hagrees hrun := by
    obtain ⟨rfl, rfl⟩ := run_pure_eq_ok_iff.1 hrun
    exact .inr ⟨b, d, rfl, h, hagrees⟩

theorem Transfers.bind {p q : Parser α} {f g : α → Parser β} {e' : β → δ} (hp : Transfers p q e)
    (hf : ∀ a b, e a = e b → Transfers (f a) (g b) e') : Transfers (p >>= f) (q >>= g) e' where
  forward := hp.forward.bind fun a => (hf a a rfl).forward
  agrees _ c d b c' hagrees hrun := by
    obtain ⟨a, c₁, ha, hb⟩ := run_bind_eq_ok_iff.1 hrun
    obtain hbehind | ⟨a', d₁, ha', he, hagrees'⟩ := hp.agrees hagrees ha
    · exact .inl (((hf a a rfl).forward hb).1.trans hbehind)
    · obtain hbehind | ⟨b', d', hb', he', hagrees'⟩ := (hf a a' he).agrees hagrees' hb
      · exact .inl hbehind
      · exact .inr ⟨b', d', run_bind_eq_ok_iff.2 ⟨a', d₁, ha', hb'⟩, he', hagrees'⟩

theorem Transfers.map {p q : Parser α} {f : α → β} {e' : β → δ} (hp : Transfers p q e)
    (hf : ∀ a b, e a = e b → e' (f a) = e' (f b)) : Transfers (f <$> p) (f <$> q) e' := by
  rw [← bind_pure_comp, ← bind_pure_comp]
  exact hp.bind fun a b h => .pure (hf a b h)

theorem Transfers.discard {p q : Parser α} (hp : Transfers p q e) :
    Transfers (discard p) (discard q) (id : PUnit → PUnit) :=
  hp.map fun _ _ _ => rfl

theorem transfers_failAt (t t' : Token) (fault fault' : SyntaxFault) :
    Transfers (failAt t fault) (failAt t' fault') e where
  forward := forward_failAt t fault
  agrees _ _ _ _ _ _ hrun := nomatch hrun

theorem transfers_current : Transfers current current Token.lexeme where
  forward := forward_current
  agrees _ c d t c' hagrees hrun := by
    cases hrun
    exact .inr ⟨d.current, d, rfl, hagrees.current_eq, hagrees⟩

theorem transfers_advance : Transfers advance advance id where
  forward := forward_advance
  agrees behind c d a c' hagrees hrun := by
    obtain ⟨⟨_ | ⟨t, piece⟩, hne, hc, hd⟩, herror, hbehind⟩ := hagrees
    · exact absurd rfl hne
    obtain ⟨-, -, hnext | ⟨hlast, -⟩⟩ := run_advance_eq_ok hrun
    · have hfollowing : c'.tokens = piece ++ behind := hnext ▸ (List.cons.inj hc).2
      cases piece with
      | nil => exact .inl (hfollowing ▸ List.suffix_rfl)
      | cons next piece =>
        right
        obtain ⟨t', following, e, last⟩ := d
        have hd : following.map (·.lexeme) = (next :: piece).map (·.lexeme) ++ [.endOfText] := (List.cons.inj hd).2
        obtain ⟨next', following, rfl⟩ : ∃ n l, following = n :: l :=
          List.exists_cons_of_ne_nil fun h => by simp [h] at hd
        exact ⟨(), _, run_advance_cons t' next' following e last, rfl,
          ⟨next :: piece, List.cons_ne_nil _ _, hfollowing, hd⟩, herror, hbehind⟩
    · have hnil : piece ++ behind = [] := hlast ▸ (List.cons.inj hc).2.symm
      exact absurd (List.append_eq_nil_iff.1 hnil).2 hbehind

/-! ### Tokens and names -/

theorem transfers_at? (p : Punctuator) : Transfers (at? p) (at? p) id :=
  transfers_current.bind fun _ _ h => .pure (by rw [h])

theorem transfers_skip? (p : Punctuator) : Transfers (skip? p) (skip? p) id := by
  refine (transfers_at? p).bind fun found _ h => ?_
  obtain rfl : found = _ := h
  cases found with
  | false => exact .pure rfl
  | true => exact transfers_advance.bind fun _ _ _ => .pure rfl

theorem transfers_unexpected : Transfers (unexpected : Parser α) unexpected e :=
  transfers_current.bind fun _ _ _ => transfers_failAt _ _ _ _

theorem transfers_expect (p : Punctuator) : Transfers (expect p) (expect p) id := by
  refine (transfers_skip? p).bind fun found _ h => ?_
  obtain rfl : found = _ := h
  cases found with
  | false => exact transfers_current.bind fun _ _ _ => transfers_failAt _ _ _ _
  | true => exact .pure rfl

theorem transfers_skipKeyword? (word : String) : Transfers (skipKeyword? word) (skipKeyword? word) id := by
  refine transfers_current.bind fun t t' h => ?_
  rw [h]
  cases (t'.lexeme == .name word) with
  | false => exact .pure rfl
  | true => exact transfers_advance.bind fun _ _ _ => .pure rfl

theorem transfers_name : Transfers name name Name.bare := by
  refine transfers_current.bind fun t t' h => ?_
  rw [h]
  cases t'.lexeme with
  | name text => exact transfers_advance.bind fun _ _ _ => .pure rfl
  | _ => exact transfers_failAt _ _ _ _

theorem transfers_description? : Transfers description? description? id := by
  refine transfers_current.bind fun t t' h => ?_
  rw [h]
  cases t'.lexeme with
  | string value => exact transfers_advance.bind fun _ _ _ => .pure rfl
  | blockString value => exact transfers_advance.bind fun _ _ _ => .pure rfl
  | _ => exact .pure rfl

theorem consumes_name : Consumes name := by
  refine .bind_right forward_current fun t => ?_
  cases t.lexeme with
  | name text => exact consumes_advance.bind_left fun _ => .pure _
  | _ => exact consumes_failAt _ _

theorem run_skip?_eq_ok {p : Punctuator} {c c' : Cursor} {found : Bool} (h : (skip? p).run c = .ok (found, c')) :
    found = false ∧ c.current.lexeme ≠ .punctuator p ∧ c' = c ∨
      found = true ∧ c.current.lexeme = .punctuator p ∧ advance.run c = .ok ((), c') := by
  obtain ⟨found', c₁, hat, hskip⟩ := run_bind_eq_ok_iff.1 h
  cases hat
  cases hfound : c.current.lexeme == .punctuator p with
  | false =>
    rw [hfound] at hskip
    cases hskip
    exact .inl ⟨rfl, beq_eq_false_iff_ne.1 hfound, rfl⟩
  | true =>
    rw [hfound] at hskip
    obtain ⟨_, c₂, hadvance, hskip⟩ := run_bind_eq_ok_iff.1 hskip
    cases hskip
    exact .inr ⟨rfl, beq_iff_eq.1 hfound, hadvance⟩

theorem run_skip?_of_ne {p : Punctuator} {c : Cursor} (h : c.current.lexeme ≠ .punctuator p) :
    (skip? p).run c = .ok (false, c) := by
  refine run_bind_eq_ok_iff.2 ⟨c.current.lexeme == .punctuator p, c, rfl, ?_⟩
  rw [beq_eq_false_iff_ne.2 h]
  rfl

theorem run_skip?_of_eq {p : Punctuator} {c c' : Cursor} (h : c.current.lexeme = .punctuator p)
    (hadvance : advance.run c = .ok ((), c')) : (skip? p).run c = .ok (true, c') := by
  refine run_bind_eq_ok_iff.2 ⟨c.current.lexeme == .punctuator p, c, rfl, ?_⟩
  rw [beq_iff_eq.2 h]
  exact run_bind_eq_ok_iff.2 ⟨(), c', hadvance, rfl⟩

theorem run_expect_eq_ok {p : Punctuator} {c c' : Cursor} {a : Unit} (h : (expect p).run c = .ok (a, c')) :
    c.current.lexeme = .punctuator p ∧ advance.run c = .ok ((), c') := by
  obtain ⟨found, c₁, hskip, hrest⟩ := run_bind_eq_ok_iff.1 h
  obtain ⟨rfl, -, rfl⟩ | ⟨rfl, hat, hadvance⟩ := run_skip?_eq_ok hskip
  · cases hrest
  · cases hrest
    exact ⟨hat, hadvance⟩

/-- A punctuator that must be there is consumed. -/
theorem consumes_expect (p : Punctuator) : Consumes (expect p) where
  forward := (transfers_expect p).forward
  length_lt _ _ _ h hlong := consumes_advance.length_lt (run_expect_eq_ok h).2 hlong

/-! ### Repetitions -/

/-- A repetition: rounds that each read one item, as long as a check in front of them comes out as `more`. -/
structure Loop (check : Parser Bool) (more : Bool) (item : Parser α) (loop : Nat → Parser (List α)) : Prop where
  zero : loop 0 = unexpected
  succ : ∀ n, loop (n + 1) = do
    if (← check) = more then
      let first ← item
      let others ← loop n
      return first :: others
    return []

theorem loop_repeatUntil (item : Parser α) (close : Punctuator) :
    Loop (skip? close) false item (repeatUntil item close) where
  zero := rfl
  succ n := by
    rw [repeatUntil]
    refine bind_congr fun found => ?_
    cases found <;> rfl

theorem loop_whileAt (p : Punctuator) (item : Parser α) : Loop (at? p) true item (whileAt p item) where
  zero := rfl
  succ _ := rfl

theorem loop_separated (separator : Punctuator) (item : Parser α) :
    Loop (skip? separator) true item (separated separator item) where
  zero := rfl
  succ _ := rfl

namespace Loop

variable {check : Parser Bool} {more : Bool} {item : Parser α} {loop : Nat → Parser (List α)}

theorem forward (h : Loop check more item loop) (hcheck : Forward check) (hitem : Forward item) (n : Nat) :
    Forward (loop n) := by
  induction n with
  | zero =>
    rw [h.zero]
    exact forward_current.bind fun t => forward_failAt _ _
  | succ n ih =>
    rw [h.succ]
    refine hcheck.bind fun found => ?_
    split
    · exact hitem.bind fun _ => ih.bind fun _ => .pure _
    · exact .pure _

/-- The rounds that a budget has allowed in a document are allowed by any budget that is enough for the piece. -/
theorem agrees (h : Loop check more item loop) (hcheck : Transfers check check id)
    (hitem : Transfers item item e) (hconsumes : Consumes item) {n m : Nat} {behind : List Token} {c d c' : Cursor}
    {as : List α}
    (hagrees : c.Agrees behind d) (hrun : (loop n).run c = .ok (as, c')) (hm : d.tokens.length < m) :
    c'.tokens <:+ behind ∨ ∃ bs d', (loop m).run d = .ok (bs, d') ∧ as.map e = bs.map e ∧ c'.Agrees behind d' := by
  induction n generalizing m c d as with
  | zero =>
    rw [h.zero] at hrun
    cases hrun
  | succ n ih =>
    obtain ⟨m, rfl⟩ : ∃ k, m = k + 1 := ⟨m - 1, by omega⟩
    rw [h.succ] at hrun ⊢
    obtain ⟨found, c₁, hfound, hrun⟩ := run_bind_eq_ok_iff.1 hrun
    by_cases hmore : found = more
    · rw [if_pos hmore] at hrun
      obtain ⟨a, c₂, ha, hrun⟩ := run_bind_eq_ok_iff.1 hrun
      obtain ⟨others, c₃, hothers, hrun⟩ := run_bind_eq_ok_iff.1 hrun
      obtain ⟨rfl, rfl⟩ := run_pure_eq_ok_iff.1 hrun
      have hothers_forward := h.forward hcheck.forward hitem.forward n hothers
      obtain hbehind | ⟨found', d₁, hfound', heq, hagrees₁⟩ := hcheck.agrees hagrees hfound
      · exact .inl ((hothers_forward.1.trans (hitem.forward ha).1).trans hbehind)
      obtain rfl : found = found' := heq
      obtain hbehind | ⟨a', d₂, ha', heq, hagrees₂⟩ := hitem.agrees hagrees₁ ha
      · exact .inl (hothers_forward.1.trans hbehind)
      -- the item takes as many tokens of the piece as of the document
      have hless : d₂.tokens.length < m := by
        have := hconsumes.length_lt ha hagrees₁.two_le
        have := (hcheck.forward hfound).length_le
        have := hagrees.length_eq
        have := hagrees₂.length_eq
        omega
      obtain hbehind | ⟨others', d₃, hothers', heqs, hagrees₃⟩ := ih hagrees₂ hothers hless
      · exact .inl hbehind
      refine .inr ⟨a' :: others', d₃, ?_, by rw [List.map_cons, List.map_cons, heq, heqs], hagrees₃⟩
      refine run_bind_eq_ok_iff.2 ⟨found, d₁, hfound', ?_⟩
      rw [if_pos hmore]
      exact run_bind_eq_ok_iff.2 ⟨a', d₂, ha', run_bind_eq_ok_iff.2 ⟨others', d₃, hothers', rfl⟩⟩
    · rw [if_neg hmore] at hrun
      obtain ⟨rfl, rfl⟩ := run_pure_eq_ok_iff.1 hrun
      obtain hbehind | ⟨found', d₁, hfound', heq, hagrees₁⟩ := hcheck.agrees hagrees hfound
      · exact .inl hbehind
      obtain rfl : found = found' := heq
      refine .inr ⟨[], d₁, run_bind_eq_ok_iff.2 ⟨found, d₁, hfound', ?_⟩, rfl, hagrees₁⟩
      rw [if_neg hmore]
      rfl

theorem forward_budget (h : Loop check more item loop) (hcheck : Forward check) (hitem : Forward item) :
    Forward (budget >>= loop) := by
  intro c as c' hrun
  obtain ⟨n, c₁, hbudget, hrun⟩ := run_bind_eq_ok_iff.1 hrun
  cases hbudget
  exact h.forward hcheck hitem _ hrun

theorem transfers (h : Loop check more item loop) (hcheck : Transfers check check id)
    (hitem : Transfers item item e) (hconsumes : Consumes item) :
    Transfers (budget >>= loop) (budget >>= loop) (List.map e) where
  forward := h.forward_budget hcheck.forward hitem.forward
  agrees _ c d as c' hagrees hrun := by
    obtain ⟨n, c₁, hbudget, hrun⟩ := run_bind_eq_ok_iff.1 hrun
    cases hbudget
    obtain hbehind | ⟨bs, d', hrun', heqs, hagrees'⟩ :=
      h.agrees hcheck hitem hconsumes hagrees hrun (Nat.lt_succ_self _)
    · exact .inl hbehind
    · exact .inr ⟨bs, d', run_bind_eq_ok_iff.2 ⟨_, d, rfl, hrun'⟩, heqs, hagrees'⟩

theorem transfers_bind (h : Loop check more item loop) (hcheck : Transfers check check id)
    (hitem : Transfers item item e) (hconsumes : Consumes item) {f g : List α → Parser β} {e' : β → δ}
    (hf : ∀ as bs, as.map e = bs.map e → Transfers (f as) (g bs) e') :
    Transfers (budget >>= fun n => loop n >>= f) (budget >>= fun n => loop n >>= g) e' := by
  rw [← bind_assoc, ← bind_assoc]
  exact (h.transfers hcheck hitem hconsumes).bind hf

end Loop

section Repetition

variable {item : Parser α} (hitem : Transfers item item e) (hconsumes : Consumes item)

include hitem hconsumes

theorem transfers_any (opening close : Punctuator) :
    Transfers (any opening item close) (any opening item close) (List.map e) :=
  (transfers_expect opening).bind fun _ _ _ =>
    (loop_repeatUntil item close).transfers (transfers_skip? close) hitem hconsumes

theorem transfers_many (opening close : Punctuator) :
    Transfers (many opening item close) (many opening item close) (List.map e) := by
  refine (transfers_expect opening).bind fun _ _ _ => hitem.bind fun a b hab => ?_
  refine (loop_repeatUntil item close).transfers_bind (transfers_skip? close) hitem hconsumes fun as bs hs => ?_
  exact .pure (by rw [List.map_cons, List.map_cons, hab, hs])

omit hitem in
theorem consumes_any (opening close : Punctuator) : Consumes (any opening item close) :=
  (consumes_expect opening).bind_left fun _ =>
    (loop_repeatUntil item close).forward_budget (transfers_skip? close).forward hconsumes.forward

theorem transfers_optionalMany (opening close : Punctuator) :
    Transfers (optionalMany opening item close) (optionalMany opening item close) (List.map e) := by
  refine (transfers_at? opening).bind fun found _ h => ?_
  obtain rfl : found = _ := h
  cases found with
  | false => exact .pure rfl
  | true => exact transfers_many hitem hconsumes opening close

theorem transfers_delimited (separator : Punctuator) :
    Transfers (delimited separator item) (delimited separator item) (List.map e) := by
  refine (transfers_skip? separator).discard.bind fun _ _ _ => hitem.bind fun a b hab => ?_
  refine (loop_separated separator item).transfers_bind (transfers_skip? separator) hitem hconsumes fun as bs hs => ?_
  exact .pure (by rw [List.map_cons, List.map_cons, hab, hs])

end Repetition

/-! ### Values -/

theorem transfers_leaf {value : Nat → Literal} (h : ∀ m n, (value m).bare = (value n).bare) :
    Transfers (leaf value) (leaf value) Value.bare :=
  transfers_current.bind fun t t' _ => transfers_advance.bind fun _ _ _ =>
    .pure (congrArg Value.literal (h t.start t'.start))

theorem consumes_leaf (value : Nat → Literal) : Consumes (leaf value) :=
  .bind_right forward_current fun _ => consumes_advance.bind_left fun _ => .pure _

theorem transfers_variableValue (constant : Bool) :
    Transfers (variableValue constant) (variableValue constant) Value.bare := by
  refine transfers_current.bind fun t t' h => transfers_advance.bind fun _ _ _ => ?_
  cases constant with
  | true =>
    refine transfers_current.bind fun u u' hu => ?_
    rw [hu]
    cases u'.lexeme <;> exact transfers_failAt _ _ _ _
  | false => exact transfers_name.discard.bind fun _ _ _ => .pure rfl

theorem transfers_plainValue (constant : Bool) :
    Transfers (plainValue constant) (plainValue constant) Value.bare := by
  refine transfers_current.bind fun t t' h => ?_
  rw [h]
  split <;>
    first
    | exact transfers_leaf fun _ _ => rfl
    | exact transfers_variableValue constant
    | exact transfers_unexpected

theorem consumes_variableValue (constant : Bool) : Consumes (variableValue constant) := by
  refine .bind_right forward_current fun t => consumes_advance.bind_left fun _ => ?_
  cases constant with
  | true =>
    refine forward_current.bind fun u => ?_
    cases u.lexeme <;> exact forward_failAt _ _
  | false => exact transfers_name.discard.forward.bind fun _ => .pure _

theorem consumes_plainValue (constant : Bool) : Consumes (plainValue constant) := by
  refine .bind_right forward_current fun t => ?_
  split <;> first
    | exact consumes_leaf _
    | exact consumes_variableValue constant
    | exact .bind_right forward_current fun _ => consumes_failAt _ _

theorem Value.bare_asItem (v : Value) : v.asItem.bare = v.bare.asItem := by
  cases v <;> rfl

theorem transfers_tooDeep : Transfers (tooDeep : Parser α) tooDeep id :=
  transfers_current.bind fun _ _ _ => transfers_failAt _ _ _ _

section Nested

variable {value : Parser Value} (hvalue : Transfers value value Value.bare) (hconsumes : Consumes value)

include hvalue

theorem transfers_objectField : Transfers (objectField value) (objectField value) id :=
  transfers_name.discard.bind fun _ _ _ => (transfers_expect .colon).bind fun _ _ _ => hvalue.discard

theorem consumes_objectField : Consumes (objectField value) :=
  consumes_name.discard.bind_left fun _ => (transfers_expect .colon).forward.bind fun _ => hvalue.discard.forward

include hconsumes

theorem transfers_bracketed : Transfers (bracketed value) (bracketed value) Value.bare := by
  refine transfers_current.bind fun t t' _ => (transfers_at? .leftBracket).bind fun found _ h => ?_
  obtain rfl : found = _ := h
  cases found with
  | true =>
    refine (transfers_any hvalue hconsumes .leftBracket .rightBracket).bind fun items items' hitems => .pure ?_
    have hbare : ∀ items : List Value,
        (items.map Value.asItem).map Literal.bare = (items.map Value.bare).map Value.asItem := by
      intro items
      simp only [List.map_map, Function.comp_def, Value.bare_asItem]
    rw [Value.bare, Value.bare, hbare, hbare, hitems]
  | false =>
    exact (transfers_any (transfers_objectField hvalue) (consumes_objectField hvalue) .leftBrace
      .rightBrace).discard.bind fun _ _ _ => .pure rfl

theorem consumes_bracketed : Consumes (bracketed value) := by
  refine .bind_right forward_current fun t => .bind_right (transfers_at? .leftBracket).forward fun found => ?_
  cases found with
  | true => exact (consumes_any hconsumes .leftBracket .rightBracket).bind_left fun _ => .pure _
  | false =>
    exact (consumes_any (consumes_objectField hvalue) .leftBrace
      .rightBrace).discard.bind_left fun _ => .pure _

end Nested

theorem consumes_tooDeep : Consumes (tooDeep : Parser α) :=
  .bind_right forward_current fun _ => consumes_failAt _ _

/-- A parser of what nests, with the plain values beside it. -/
theorem transfers_consumes_nested {nested : Parser Value} (htransfers : Transfers nested nested Value.bare)
    (hconsumes : Consumes nested) (constant : Bool) :
    let value := do
      if (← at? .leftBracket) || (← at? .leftBrace) then nested else plainValue constant
    Transfers value value Value.bare ∧ Consumes value := by
  refine ⟨(transfers_at? .leftBracket).bind fun a _ ha => (transfers_at? .leftBrace).bind fun b _ hb => ?_,
    .bind_right (transfers_at? .leftBracket).forward fun a =>
      .bind_right (transfers_at? .leftBrace).forward fun b => ?_⟩
  · obtain rfl : a = _ := ha
    obtain rfl : b = _ := hb
    cases a || b with
    | true => exact htransfers
    | false => exact transfers_plainValue constant
  · cases a || b with
    | true => exact hconsumes
    | false => exact consumes_plainValue constant

/-- A value transfers and consumes, with any number of levels. -/
theorem value_transfers_consumes (constant : Bool) (depth : Nat) :
    Transfers (value constant depth) (value constant depth) Value.bare ∧ Consumes (value constant depth) := by
  induction depth with
  | zero =>
    exact transfers_consumes_nested (transfers_tooDeep.bind fun _ _ _ => transfers_plainValue constant)
      (consumes_tooDeep.bind_left fun _ => (transfers_plainValue constant).forward) constant
  | succ depth ih =>
    exact transfers_consumes_nested (transfers_bracketed ih.1 ih.2) (consumes_bracketed ih.1 ih.2) constant

theorem transfers_argument (constant : Bool) (depth : Nat) :
    Transfers (argument constant depth) (argument constant depth) Argument.bare := by
  refine transfers_name.bind fun n m hn => (transfers_expect .colon).bind fun _ _ _ => ?_
  refine (value_transfers_consumes constant depth).1.bind fun v w hv => .pure ?_
  simp only [Argument.bare, hn, hv]

theorem consumes_argument (constant : Bool) (depth : Nat) : Consumes (argument constant depth) :=
  consumes_name.bind_left fun _ => (transfers_expect .colon).forward.bind fun _ =>
    (value_transfers_consumes constant depth).1.forward.bind fun _ => .pure _

theorem transfers_directive (constant : Bool) (depth : Nat) :
    Transfers (directive constant depth) (directive constant depth) Directive.bare := by
  refine transfers_current.bind fun t t' _ => (transfers_expect .atSign).bind fun _ _ _ => ?_
  refine transfers_name.bind fun n m hn => ?_
  refine (transfers_optionalMany (transfers_argument constant depth) (consumes_argument constant depth) .leftParen
    .rightParen).bind fun as bs hs => .pure ?_
  simp only [Directive.bare, hn, hs]

theorem consumes_directive (constant : Bool) (depth : Nat) : Consumes (directive constant depth) :=
  .bind_right forward_current fun _ => (consumes_expect .atSign).bind_left fun _ =>
    transfers_name.forward.bind fun _ =>
      (transfers_optionalMany (transfers_argument constant depth) (consumes_argument constant depth) .leftParen
        .rightParen).forward.bind fun _ => .pure _

theorem transfers_constantDirectives :
    Transfers constantDirectives constantDirectives (List.map Directive.bare) :=
  (loop_whileAt .atSign (directive true maxDepth)).transfers (transfers_at? .atSign) (transfers_directive true maxDepth)
    (consumes_directive true maxDepth)

/-! ### Types -/

theorem transfers_markedNonNull {t t' : TypeExpr} (h : t.bare = t'.bare) :
    Transfers (markedNonNull t) (markedNonNull t') TypeExpr.bare := by
  refine (transfers_skip? .bang).bind fun found _ hfound => .pure ?_
  obtain rfl : found = _ := hfound
  cases found with
  | false => exact h
  | true => exact congrArg TypeExpr.nonNull h

theorem transfers_namedType : Transfers namedType namedType TypeExpr.bare :=
  transfers_name.bind fun n m h => by
    have htext := congrArg Name.text h
    exact transfers_markedNonNull (congrArg (TypeExpr.named 0) htext)

theorem transfers_typeExpr (depth : Nat) : Transfers (typeExpr depth) (typeExpr depth) TypeExpr.bare := by
  induction depth with
  | zero =>
    refine (transfers_skip? .leftBracket).bind fun found _ h => ?_
    obtain rfl : found = _ := h
    cases found with
    | true => exact transfers_tooDeep.bind fun _ _ _ => transfers_namedType
    | false => exact transfers_namedType
  | succ depth ih =>
    refine transfers_current.bind fun t t' _ => (transfers_skip? .leftBracket).bind fun found _ h => ?_
    obtain rfl : found = _ := h
    cases found with
    | true =>
      exact ih.bind fun a b hab => (transfers_expect .rightBracket).bind fun _ _ _ =>
        transfers_markedNonNull (congrArg (TypeExpr.list 0) hab)
    | false => exact transfers_namedType

theorem transfers_type : Transfers type type TypeExpr.bare :=
  transfers_typeExpr maxDepth

/-! ### Fields -/

theorem transfers_after? {part : Parser α} (p : Punctuator) (hpart : Transfers part part e) :
    Transfers (after? p part) (after? p part) (fun _ => ()) := by
  refine (transfers_skip? p).bind fun found _ h => ?_
  obtain rfl : found = _ := h
  cases found with
  | true => exact hpart.bind fun _ _ _ => .pure rfl
  | false => exact .pure rfl

theorem transfers_inputValue : Transfers inputValue inputValue (fun _ => ()) :=
  transfers_current.bind fun _ _ _ => transfers_description?.bind fun _ _ _ => transfers_name.bind fun _ _ _ =>
    (transfers_expect .colon).bind fun _ _ _ => transfers_type.bind fun _ _ _ =>
      (transfers_after? .equals (value_transfers_consumes true maxDepth).1).bind fun _ _ _ =>
        transfers_constantDirectives.bind fun _ _ _ => .pure rfl

theorem consumes_inputValue : Consumes inputValue :=
  .bind_right forward_current fun _ => .bind_right transfers_description?.forward fun _ =>
    consumes_name.bind_left fun _ => (transfers_expect .colon).forward.bind fun _ =>
      transfers_type.forward.bind fun _ =>
        (transfers_after? .equals (value_transfers_consumes true maxDepth).1).forward.bind fun _ =>
          transfers_constantDirectives.forward.bind fun _ => .pure _

theorem transfers_inputValues :
    Transfers (optionalMany .leftParen inputValue .rightParen) (optionalMany .leftParen inputValue .rightParen)
      (List.map fun _ => ()) :=
  transfers_optionalMany transfers_inputValue consumes_inputValue .leftParen .rightParen

theorem transfers_fieldDeclaration : Transfers fieldDeclaration fieldDeclaration FieldDeclaration.bare := by
  refine transfers_current.bind fun t t' _ => transfers_description?.bind fun d d' hd => ?_
  refine transfers_name.bind fun n n' hn => transfers_inputValues.bind fun _ _ _ => ?_
  refine (transfers_expect .colon).bind fun _ _ _ => transfers_type.bind fun u u' hu => ?_
  refine transfers_constantDirectives.bind fun ds ds' hds => .pure ?_
  obtain rfl : d = d' := hd
  simp only [FieldDeclaration.bare, hn, hu, hds]

theorem consumes_fieldDeclaration : Consumes fieldDeclaration :=
  .bind_right forward_current fun _ => .bind_right transfers_description?.forward fun _ =>
    consumes_name.bind_left fun _ => transfers_inputValues.forward.bind fun _ =>
      (transfers_expect .colon).forward.bind fun _ => transfers_type.forward.bind fun _ =>
        transfers_constantDirectives.forward.bind fun _ => .pure _

theorem transfers_interfaces : Transfers interfaces interfaces (List.map Name.bare) := by
  refine (transfers_skipKeyword? "implements").bind fun found _ h => ?_
  obtain rfl : found = _ := h
  cases found with
  | true => exact transfers_delimited transfers_name consumes_name .ampersand
  | false => exact .pure rfl

theorem transfers_fields : Transfers fields fields (List.map FieldDeclaration.bare) :=
  transfers_optionalMany transfers_fieldDeclaration consumes_fieldDeclaration .leftBrace .rightBrace

/-! ### Enumerators -/

theorem forward_enumerator : Forward enumerator := by
  refine forward_current.bind fun t => transfers_description?.forward.bind fun _ => forward_current.bind fun u => ?_
  dsimp only
  split
  · exact (forward_failAt _ _).bind fun _ => transfers_name.forward.bind fun _ =>
      transfers_constantDirectives.forward.bind fun _ => .pure _
  · exact transfers_name.forward.bind fun _ => transfers_constantDirectives.forward.bind fun _ => .pure _

theorem forward_many {item : Parser α} (hitem : Forward item) (opening close : Punctuator) :
    Forward (many opening item close) := by
  refine (transfers_expect opening).forward.bind fun _ => hitem.bind fun _ => ?_
  rw [← bind_assoc]
  exact ((loop_repeatUntil item close).forward_budget (transfers_skip? close).forward hitem).bind fun _ => .pure _

theorem forward_enumerators : Forward enumerators := by
  refine (transfers_at? .leftBrace).forward.bind fun found => ?_
  cases found with
  | false => exact .pure _
  | true => exact forward_many forward_enumerator .leftBrace .rightBrace

/-! ### Blocks -/

/-- A repetition up to a punctuator leaves that punctuator behind as the last token. -/
theorem last_of_repeatUntil {item : Parser α} (hitem : Forward item) {close : Punctuator} {n : Nat} {c c' : Cursor}
    {as : List α} (h : (repeatUntil item close n).run c = .ok (as, c')) (hends : Ends c.tokens) :
    ∃ t, t.lexeme = .punctuator close ∧ c'.lastStop = t.stop ∧ t :: c'.tokens <:+ c.tokens := by
  induction n generalizing c as with
  | zero => cases h
  | succ n ih =>
    rw [(loop_repeatUntil item close).succ] at h
    obtain ⟨found, c₁, hfound, hround⟩ := run_bind_eq_ok_iff.1 h
    obtain ⟨rfl, -, rfl⟩ | ⟨rfl, hclose, hadvance⟩ := run_skip?_eq_ok hfound
    · rw [if_pos rfl] at hround
      obtain ⟨a, c₂, ha, hround⟩ := run_bind_eq_ok_iff.1 hround
      obtain ⟨others, c₃, hothers, hround⟩ := run_bind_eq_ok_iff.1 hround
      cases hround
      have hsuffix := (hitem ha).1
      obtain ⟨t, ht, hstop, hlast⟩ := ih hothers (hends.of_suffix hsuffix (List.cons_ne_nil _ _))
      exact ⟨t, ht, hstop, hlast.trans hsuffix⟩
    · cases hround
      obtain ⟨hstop, -, hnext | ⟨hlast, -⟩⟩ := run_advance_eq_ok hadvance
      · exact ⟨c.current, hclose, hstop, hnext ▸ List.suffix_rfl⟩
      · rw [hends.lexeme_of_singleton hlast] at hclose
        cases hclose

/-- Whether two parsers do the same in a document and in a piece of it whose last token is the last one that they
consume. -/
structure Closes (p q : Parser α) (e : α → γ) : Prop where
  forward : Forward p
  moves : ∀ ⦃c a c'⦄, Ends c.tokens → p.run c = .ok (a, c') → c'.tokens ≠ c.tokens
  closes : ∀ ⦃c d a c'⦄, Ends c.tokens → c.Agrees c'.tokens d → p.run c = .ok (a, c') →
    ∃ b d', q.run d = .ok (b, d') ∧ e a = e b ∧ d'.tokens.map (·.lexeme) = [.endOfText] ∧ d'.error = none

theorem Closes.bind {p q : Parser α} {f g : α → Parser β} {e' : β → δ} (hp : Transfers p q e)
    (hf : ∀ a b, e a = e b → Closes (f a) (g b) e') : Closes (p >>= f) (q >>= g) e' where
  forward := hp.forward.bind fun a => (hf a a rfl).forward
  moves c b c' hends hrun heq := by
    obtain ⟨a, c₁, ha, hb⟩ := run_bind_eq_ok_iff.1 hrun
    have hsuffix := (hp.forward ha).1
    have hsuffix' := ((hf a a rfl).forward hb).1
    rw [heq] at hsuffix'
    have hstay := hsuffix.eq_of_length (Nat.le_antisymm hsuffix.length_le hsuffix'.length_le)
    exact (hf a a rfl).moves (hstay ▸ hends) hb (heq.trans hstay.symm)
  closes c d b c' hends hagrees hrun := by
    obtain ⟨a, c₁, ha, hb⟩ := run_bind_eq_ok_iff.1 hrun
    have hends₁ := hends.of_suffix (hp.forward ha).1 (List.cons_ne_nil _ _)
    obtain hbehind | ⟨a', d₁, ha', he, hagrees₁⟩ := hp.agrees hagrees ha
    · -- the rest has consumed nothing, which it cannot
      have hsuffix := ((hf a a rfl).forward hb).1
      have hstay := hsuffix.eq_of_length (Nat.le_antisymm hsuffix.length_le hbehind.length_le)
      exact absurd hstay ((hf a a rfl).moves hends₁ hb)
    · obtain ⟨b', d', hb', he', hend⟩ := (hf a a' he).closes hends₁ hagrees₁ hb
      exact ⟨b', d', run_bind_eq_ok_iff.2 ⟨a', d₁, ha', hb'⟩, he', hend⟩

theorem Closes.bind_pure {p q : Parser α} {k k' : α → β} {e' : β → δ} (hp : Closes p q e)
    (hk : ∀ a b, e a = e b → e' (k a) = e' (k' b)) :
    Closes (p >>= fun a => pure (k a)) (q >>= fun a => pure (k' a)) e' where
  forward := hp.forward.bind fun a => .pure _
  moves c b c' hends hrun := by
    obtain ⟨a, c₁, ha, hb⟩ := run_bind_eq_ok_iff.1 hrun
    cases hb
    exact hp.moves hends ha
  closes c d b c' hends hagrees hrun := by
    obtain ⟨a, c₁, ha, hb⟩ := run_bind_eq_ok_iff.1 hrun
    cases hb
    obtain ⟨a', d', ha', he, hend⟩ := hp.closes hends hagrees ha
    exact ⟨k' a', d', run_bind_eq_ok_iff.2 ⟨a', d', ha', rfl⟩, hk a a' he, hend⟩

/-- The last token of a piece is consumed in the piece as well, and the end of the text is left. -/
theorem run_advance_of_agrees {c c' d : Cursor} (hagrees : c.Agrees c'.tokens d)
    (hadvance : advance.run c = .ok ((), c')) :
    ∃ d', advance.run d = .ok ((), d') ∧ d'.tokens.map (·.lexeme) = [.endOfText] ∧ d'.error = none := by
  obtain ⟨⟨piece, hne, hc, hd⟩, herror, -⟩ := hagrees
  have hlength : piece.length = 1 := by
    have htokens := congrArg List.length hc
    have hpos := List.length_pos_iff.2 hne
    rw [List.length_append] at htokens
    obtain ⟨-, -, hnext | ⟨-, hstay⟩⟩ := run_advance_eq_ok hadvance
    · rw [← hnext, Cursor.tokens, List.length_cons] at htokens
      omega
    · rw [hstay] at htokens
      omega
  obtain ⟨t, rfl⟩ := List.length_eq_one_iff.1 hlength
  obtain ⟨t', following, e, last⟩ := d
  have hfollowing : following.map (·.lexeme) = [.endOfText] := (List.cons.inj hd).2
  obtain ⟨next, rfl⟩ := List.length_eq_one_iff.1 (by rw [← List.length_map, hfollowing]; rfl)
  exact ⟨_, run_advance_cons t' next [] e last, hfollowing, herror⟩

section Blocks

variable {item : Parser α} (hitem : Transfers item item e) (hconsumes : Consumes item)

include hitem hconsumes

theorem run_repeatUntil_of_agrees {close : Punctuator} {n m : Nat} {c d c' : Cursor} {as : List α}
    (hends : Ends c.tokens) (hagrees : c.Agrees c'.tokens d) (h : (repeatUntil item close n).run c = .ok (as, c'))
    (hm : d.tokens.length < m) :
    ∃ bs d', (repeatUntil item close m).run d = .ok (bs, d') ∧ as.map e = bs.map e ∧
      d'.tokens.map (·.lexeme) = [.endOfText] ∧ d'.error = none := by
  induction n generalizing m c d as with
  | zero => cases h
  | succ n ih =>
    obtain ⟨m, rfl⟩ : ∃ k, m = k + 1 := ⟨m - 1, by omega⟩
    rw [(loop_repeatUntil item close).succ] at h ⊢
    obtain ⟨found, c₁, hfound, hround⟩ := run_bind_eq_ok_iff.1 h
    obtain ⟨rfl, hne, rfl⟩ | ⟨rfl, hclose, hadvance⟩ := run_skip?_eq_ok hfound
    · rw [if_pos rfl] at hround
      obtain ⟨a, c₂, ha, hround⟩ := run_bind_eq_ok_iff.1 hround
      obtain ⟨others, c₃, hothers, hround⟩ := run_bind_eq_ok_iff.1 hround
      cases hround
      have hends₂ := hends.of_suffix (hitem.forward ha).1 (List.cons_ne_nil _ _)
      obtain hbehind | ⟨a', d₂, ha', he, hagrees₂⟩ := hitem.agrees hagrees ha
      · -- the closing punctuator lies inside of the piece
        obtain ⟨t, -, -, hlast⟩ := last_of_repeatUntil hitem.forward hothers hends₂
        have := hlast.length_le
        have := hbehind.length_le
        simp only [List.length_cons] at *
        omega
      · have hless : d₂.tokens.length < m := by
          have := hconsumes.length_lt ha hagrees.two_le
          have := hagrees.length_eq
          have := hagrees₂.length_eq
          omega
        obtain ⟨bs, d', hbs, hes, hend⟩ := ih hends₂ hagrees₂ hothers hless
        refine ⟨a' :: bs, d', run_bind_eq_ok_iff.2 ⟨false, d, run_skip?_of_ne (hagrees.current_eq ▸ hne), ?_⟩,
          by rw [List.map_cons, List.map_cons, he, hes], hend⟩
        rw [if_pos rfl]
        exact run_bind_eq_ok_iff.2 ⟨a', d₂, ha', run_bind_eq_ok_iff.2 ⟨bs, d', hbs, rfl⟩⟩
    · cases hround
      obtain ⟨d', hd', hend⟩ := run_advance_of_agrees hagrees hadvance
      exact ⟨[], d', run_bind_eq_ok_iff.2 ⟨true, d', run_skip?_of_eq (hagrees.current_eq ▸ hclose) hd', rfl⟩, rfl,
        hend⟩

theorem closes_repeatUntil (close : Punctuator) :
    Closes (budget >>= repeatUntil item close) (budget >>= repeatUntil item close) (List.map e) where
  forward := (loop_repeatUntil item close).forward_budget (transfers_skip? close).forward hitem.forward
  moves c as c' hends hrun heq := by
    obtain ⟨n, c₁, hbudget, hrun⟩ := run_bind_eq_ok_iff.1 hrun
    cases hbudget
    obtain ⟨t, -, -, hlast⟩ := last_of_repeatUntil hitem.forward hrun hends
    have := hlast.length_le
    rw [← heq, List.length_cons] at this
    omega
  closes c d as c' hends hagrees hrun := by
    obtain ⟨n, c₁, hbudget, hrun⟩ := run_bind_eq_ok_iff.1 hrun
    cases hbudget
    obtain ⟨bs, d', hbs, hend⟩ :=
      run_repeatUntil_of_agrees hitem hconsumes hends hagrees hrun (Nat.lt_succ_self _)
    exact ⟨bs, d', run_bind_eq_ok_iff.2 ⟨_, d, rfl, hbs⟩, hend⟩

theorem closes_many (opening close : Punctuator) :
    Closes (many opening item close) (many opening item close) (List.map e) := by
  refine .bind (transfers_expect opening) fun _ _ _ => .bind hitem fun a b hab => ?_
  rw [← bind_assoc, ← bind_assoc]
  exact (closes_repeatUntil hitem hconsumes close).bind_pure fun as bs hs => by
    rw [List.map_cons, List.map_cons, hab, hs]

end Blocks

/-! ### Tables with a block -/

/-- What stands behind the keyword of a table that has a block of fields. -/
def block : Parser (Name × List Name × List Directive × List FieldDeclaration) := do
  let n ← name
  let interfaces ← interfaces
  let directives ← constantDirectives
  let fields ← many .leftBrace fieldDeclaration .rightBrace
  return (n, interfaces, directives, fields)

theorem closes_block :
    Closes block block fun (n, _, directives, fields) =>
      (n.bare, directives.map Directive.bare, fields.map FieldDeclaration.bare) := by
  refine .bind transfers_name fun n m hn => .bind transfers_interfaces fun _ _ _ => ?_
  refine .bind transfers_constantDirectives fun ds ds' hds => ?_
  refine (closes_many transfers_fieldDeclaration consumes_fieldDeclaration .leftBrace .rightBrace).bind_pure ?_
  intro fs fs' hfs
  simp only [hn, hds, hfs]

theorem run_name_eq_ok {c c' : Cursor} {n : Name} (h : name.run c = .ok (n, c')) :
    c.current.lexeme = .name n.text ∧ c.current.start = n.start ∧ advance.run c = .ok ((), c') := by
  obtain ⟨t, c₁, ht, h⟩ := run_bind_eq_ok_iff.1 h
  cases ht
  split at h
  · rename_i text hlexeme
    obtain ⟨_, c₂, hadvance, h⟩ := run_bind_eq_ok_iff.1 h
    cases h
    exact ⟨hlexeme, rfl, hadvance⟩
  · cases h

theorem following_eq_of_advance {c c' : Cursor} (hends : Ends c.tokens) (hend : c.current.lexeme ≠ .endOfText)
    (h : advance.run c = .ok ((), c')) : c.following = c'.tokens := by
  obtain ⟨-, -, hnext | ⟨hlast, -⟩⟩ := run_advance_eq_ok h
  · exact hnext
  · exact absurd (hends.lexeme_of_singleton hlast) hend

/-- The tokens of a table with a block: its name, a header, and the block between its braces. -/
theorem tokens_of_block {c c' : Cursor} {n : Name} {is : List Name} {ds : List Directive} {fs : List FieldDeclaration}
    (h : block.run c = .ok ((n, is, ds, fs), c')) (hends : Ends c.tokens) :
    c.current.lexeme = .name n.text ∧ c.current.start = n.start ∧ ∃ opening close header body,
      opening.lexeme = .punctuator .leftBrace ∧ close.lexeme = .punctuator .rightBrace ∧ c'.lastStop = close.stop ∧
        c.following = header ++ opening :: (body ++ close :: c'.tokens) := by
  obtain ⟨n', c₁, hn, h⟩ := run_bind_eq_ok_iff.1 h
  obtain ⟨is', c₂, his, h⟩ := run_bind_eq_ok_iff.1 h
  obtain ⟨ds', c₃, hds, h⟩ := run_bind_eq_ok_iff.1 h
  obtain ⟨fs', c₄, hfs, h⟩ := run_bind_eq_ok_iff.1 h
  cases h
  obtain ⟨_, c₅, hexpect, hfs⟩ := run_bind_eq_ok_iff.1 hfs
  obtain ⟨f, c₆, hf, hfs⟩ := run_bind_eq_ok_iff.1 hfs
  obtain ⟨budget, c₇, hbudget, hfs⟩ := run_bind_eq_ok_iff.1 hfs
  cases hbudget
  obtain ⟨others, c₈, hothers, hfs⟩ := run_bind_eq_ok_iff.1 hfs
  cases hfs
  obtain ⟨hname, hstart, hadvance⟩ := run_name_eq_ok hn
  have hfollowing := following_eq_of_advance hends (by rw [hname]; simp) hadvance
  have hheader : c₃.tokens <:+ c₁.tokens :=
    ((transfers_interfaces.forward his).trans (transfers_constantDirectives.forward hds)).1
  have hends₁ := hends.of_suffix (transfers_name.forward hn).1 (List.cons_ne_nil _ _)
  have hends₃ := hends₁.of_suffix hheader (List.cons_ne_nil _ _)
  obtain ⟨hbrace, hadvance⟩ := run_expect_eq_ok hexpect
  have hinside := following_eq_of_advance hends₃ (by rw [hbrace]; simp) hadvance
  have hfirst := (transfers_fieldDeclaration.forward hf).1
  have hends₅ := hends₃.of_suffix ((transfers_expect _).forward hexpect).1 (List.cons_ne_nil _ _)
  have hends₆ := hends₅.of_suffix hfirst (List.cons_ne_nil _ _)
  obtain ⟨close, hclose, hstop, hlast⟩ := last_of_repeatUntil transfers_fieldDeclaration.forward hothers hends₆
  obtain ⟨header, hheader⟩ := hheader
  obtain ⟨body, hbody⟩ := hlast.trans hfirst
  refine ⟨hname, hstart, c₃.current, close, header, body, hbrace, hclose, hstop, ?_⟩
  rw [hfollowing, ← hheader, hbody, ← hinside]
  rfl

/-! ### Definitions -/

/-- Whether a parser gives neither tables nor enumerations. -/
def GivesOthers (p : Parser Definition) : Prop :=
  ∀ ⦃c d c'⦄, p.run c = .ok (d, c') → ∃ kind name start stop, d = .other kind name start stop

namespace GivesOthers

theorem bind {p : Parser α} {f : α → Parser Definition} (hf : ∀ a, GivesOthers (f a)) : GivesOthers (p >>= f) := by
  intro c d c' h
  obtain ⟨a, c₁, -, hd⟩ := run_bind_eq_ok_iff.1 h
  exact hf a hd

theorem pure (kind : OtherDefinition) (name : Option String) (start stop : Nat) :
    GivesOthers (pure (.other kind name start stop)) := by
  intro c d c' h
  obtain ⟨rfl, -⟩ := run_pure_eq_ok_iff.1 h
  exact ⟨kind, name, start, stop, rfl⟩

theorem failAt (t : Token) (fault : SyntaxFault) : GivesOthers (failAt t fault) := by
  intro c d c' h
  cases h

theorem executable (kind : OtherDefinition) (body : Parser (Option String)) : GivesOthers (executable kind body) :=
  .bind fun _ => .bind fun _ => .bind fun _ => .pure _ _ _ _

theorem directiveDefinition : GivesOthers directiveDefinition :=
  .bind fun _ => .bind fun _ => .bind fun _ => .bind fun _ => .bind fun _ => .bind fun _ => .bind fun _ =>
    .bind fun _ => .bind fun _ => .bind fun _ => .pure _ _ _ _

theorem fieldsExtension (kind : OtherDefinition) (start : Nat) : GivesOthers (extension.fieldsExtension kind start) :=
  .bind fun _ => .bind fun _ => .bind fun _ => .bind fun _ => .bind fun _ => .bind fun _ => .pure _ _ _ _

theorem extension (keyword : TypeKeyword) : GivesOthers (extension keyword) := by
  refine .bind fun _ => .bind fun _ => .bind fun _ => ?_
  cases keyword with
  | schema => exact .bind fun _ => .bind fun _ => .bind fun _ => .bind fun _ => .pure _ _ _ _
  | scalar => exact .bind fun _ => .bind fun _ => .bind fun _ => .bind fun _ => .pure _ _ _ _
  | type => exact fieldsExtension _ _
  | interface => exact fieldsExtension _ _
  | union => exact .bind fun _ => .bind fun _ => .bind fun _ => .bind fun _ => .bind fun _ => .pure _ _ _ _
  | enum => exact .bind fun _ => .bind fun _ => .bind fun _ => .bind fun _ => .bind fun _ => .pure _ _ _ _
  | input => exact .bind fun _ => .bind fun _ => .bind fun _ => .bind fun _ => .bind fun _ => .pure _ _ _ _

theorem typeDefinition {keyword : TypeKeyword} (htype : keyword ≠ .type) (henum : keyword ≠ .enum) :
    GivesOthers (typeDefinition keyword) := by
  refine .bind fun _ => .bind fun _ => .bind fun _ => ?_
  cases keyword with
  | schema => exact .bind fun _ => .bind fun _ => .bind fun _ => .pure _ _ _ _
  | scalar => exact .bind fun _ => .bind fun _ => .bind fun _ => .pure _ _ _ _
  | type => exact absurd rfl htype
  | interface => exact .bind fun _ => .bind fun _ => .bind fun _ => .bind fun _ => .bind fun _ => .pure _ _ _ _
  | union => exact .bind fun _ => .bind fun _ => .bind fun _ => .bind fun _ => .pure _ _ _ _
  | enum => exact absurd rfl henum
  | input => exact .bind fun _ => .bind fun _ => .bind fun _ => .bind fun _ => .pure _ _ _ _

end GivesOthers

/-- Whether the tables and enumerations that a parser gives at a cursor are those of the definition of a type there. -/
def GivesTypes (c : Cursor) (p : Parser Definition) : Prop :=
  ∀ ⦃d c'⦄, p.run c = .ok (d, c') → (∃ kind name start stop, d = .other kind name start stop) ∨
    (typeDefinition .type).run c = .ok (d, c') ∨ (typeDefinition .enum).run c = .ok (d, c')

namespace GivesTypes

variable {c : Cursor}

theorem ofOthers {p : Parser Definition} (h : GivesOthers p) : GivesTypes c p :=
  fun _ _ hrun => .inl (h hrun)

theorem failAt (t : Token) (fault : SyntaxFault) : GivesTypes c (failAt t fault) :=
  ofOthers (GivesOthers.failAt t fault)

theorem typeDefinition (keyword : TypeKeyword) : GivesTypes c (typeDefinition keyword) := by
  intro d c' hrun
  by_cases htype : keyword = .type
  · exact .inr (.inl (htype ▸ hrun))
  by_cases henum : keyword = .enum
  · exact .inr (.inr (henum ▸ hrun))
  · exact .inl (GivesOthers.typeDefinition htype henum hrun)

/-- Looking at tokens without consuming them comes before the definition itself. -/
theorem bind {p : Parser α} {f : α → Parser Definition} (hp : ∀ ⦃a c'⦄, p.run c = .ok (a, c') → c' = c)
    (hf : ∀ a, GivesTypes c (f a)) : GivesTypes c (p >>= f) := by
  intro d c' hrun
  obtain ⟨a, c₁, ha, hd⟩ := run_bind_eq_ok_iff.1 hrun
  obtain rfl := hp ha
  exact hf a hd

theorem lookahead {f : Token → Parser Definition} (hf : ∀ t, GivesTypes c (f t)) :
    GivesTypes c (lookahead >>= f) := by
  refine bind (fun t c' h => ?_) hf
  obtain ⟨current, following, e, last⟩ := c
  cases following with
  | nil =>
    cases e with
    | none => cases h; rfl
    | some e => cases h
  | cons next ts => cases h; rfl

end GivesTypes

/-- A definition that is a table or an enumeration is read as such from where it starts. -/
theorem givesTypes_definition (c : Cursor) : GivesTypes c definition := by
  refine .bind (fun a c' h => by cases h; rfl) fun found => ?_
  split
  · exact .ofOthers (.executable _ _)
  refine .bind (fun a c' h => by cases h; rfl) fun t => ?_
  -- the keyword is the token behind a description, of either kind, or else the first one
  have hkeyword : ∀ {b : Bool} {f : Token → Parser Definition}, (∀ keyword, GivesTypes c (f keyword)) →
      GivesTypes c (if b = true then Parser.lookahead >>= f else pure t >>= f) := by
    intro b f hf
    split
    · exact .lookahead hf
    · exact .bind (fun a c' h => by cases h; rfl) hf
  refine hkeyword fun keyword => ?_
  dsimp only
  split
  · exact .failAt _ _
  · split
    · exact .typeDefinition _
    · split_ifs
      · exact .ofOthers .directiveDefinition
      · exact .ofOthers (.executable _ _)
      · exact .ofOthers (.executable _ _)
      · exact .failAt _ _
      · refine .lookahead fun next => ?_
        split
        · split
          · exact .ofOthers (.extension _)
          · exact .failAt _ _
        · exact .failAt _ _
      · exact .failAt _ _
  · exact .failAt _ _

theorem forward_expectKeyword (word : String) : Forward (expectKeyword word) := by
  refine (transfers_skipKeyword? word).forward.bind fun found => ?_
  cases found with
  | false => exact forward_current.bind fun _ => forward_failAt _ _
  | true => exact .pure _

theorem run_fields_eq_ok {c c' : Cursor} {fs : List FieldDeclaration} (h : fields.run c = .ok (fs, c'))
    (hne : fs ≠ []) : (many .leftBrace fieldDeclaration .rightBrace).run c = .ok (fs, c') := by
  obtain ⟨found, c₁, hfound, h⟩ := run_bind_eq_ok_iff.1 h
  cases hfound
  split at h
  · exact h
  · obtain ⟨rfl, -⟩ := run_pure_eq_ok_iff.1 h
    exact absurd rfl hne

/-- A table is read behind its keyword, from its name on, and with a block if it has fields. -/
theorem run_typeDefinition_type_eq_ok {c c' : Cursor} {d : Definition}
    (h : (typeDefinition .type).run c = .ok (d, c')) :
    ∃ t c₁, d = .table t ∧ t.stop = c'.lastStop ∧ c.Reaches c₁ ∧ c₁.Reaches c' ∧
      c₁.current.lexeme = .name t.name.text ∧
      (t.fields ≠ [] → block.run c₁ = .ok ((t.name, t.interfaces, t.directives, t.fields), c')) := by
  obtain ⟨t, c₁, ht, h⟩ := run_bind_eq_ok_iff.1 h
  cases ht
  obtain ⟨description, c₂, hdescription, h⟩ := run_bind_eq_ok_iff.1 h
  obtain ⟨_, c₃, hkeyword, h⟩ := run_bind_eq_ok_iff.1 h
  obtain ⟨n, c₄, hn, h⟩ := run_bind_eq_ok_iff.1 h
  obtain ⟨is, c₅, his, h⟩ := run_bind_eq_ok_iff.1 h
  obtain ⟨ds, c₆, hds, h⟩ := run_bind_eq_ok_iff.1 h
  obtain ⟨fs, c₇, hfs, h⟩ := run_bind_eq_ok_iff.1 h
  cases h
  refine ⟨_, c₃, rfl, rfl, (transfers_description?.forward hdescription).trans (forward_expectKeyword _ hkeyword),
    (transfers_name.forward hn).trans ((transfers_interfaces.forward his).trans
      ((transfers_constantDirectives.forward hds).trans (transfers_fields.forward hfs))), (run_name_eq_ok hn).1,
    fun hne => ?_⟩
  exact run_bind_eq_ok_iff.2 ⟨n, c₄, hn, run_bind_eq_ok_iff.2 ⟨is, c₅, his, run_bind_eq_ok_iff.2 ⟨ds, c₆, hds,
    run_bind_eq_ok_iff.2 ⟨fs, _, run_fields_eq_ok hfs hne, rfl⟩⟩⟩⟩

/-- An enumeration is read behind its keyword, from its name on. -/
theorem run_typeDefinition_enum_eq_ok {c c' : Cursor} {d : Definition}
    (h : (typeDefinition .enum).run c = .ok (d, c')) :
    ∃ e c₁, d = .enumeration e ∧ c.Reaches c₁ ∧ c₁.Reaches c' ∧ c₁.current.lexeme = .name e.name.text := by
  obtain ⟨t, c₁, ht, h⟩ := run_bind_eq_ok_iff.1 h
  cases ht
  obtain ⟨description, c₂, hdescription, h⟩ := run_bind_eq_ok_iff.1 h
  obtain ⟨_, c₃, hkeyword, h⟩ := run_bind_eq_ok_iff.1 h
  obtain ⟨n, c₄, hn, h⟩ := run_bind_eq_ok_iff.1 h
  obtain ⟨ds, c₅, hds, h⟩ := run_bind_eq_ok_iff.1 h
  obtain ⟨vs, c₆, hvs, h⟩ := run_bind_eq_ok_iff.1 h
  cases h
  exact ⟨_, c₃, rfl, (transfers_description?.forward hdescription).trans (forward_expectKeyword _ hkeyword),
    (transfers_name.forward hn).trans ((transfers_constantDirectives.forward hds).trans (forward_enumerators hvs)),
    (run_name_eq_ok hn).1⟩

theorem run_definition_of_keyword (start stop : Nat) (ts : List Token) (e : Option SyntaxError) (last : Nat) :
    definition.run ⟨⟨start, stop, .name "type"⟩, ts, e, last⟩ =
      (typeDefinition .type).run ⟨⟨start, stop, .name "type"⟩, ts, e, last⟩ := rfl

theorem run_fields_of_many {c : Cursor} {r : List FieldDeclaration × Cursor}
    (h : (many .leftBrace fieldDeclaration .rightBrace).run c = .ok r) : fields.run c = .ok r := by
  obtain ⟨_, c₁, hexpect, -⟩ := run_bind_eq_ok_iff.1 h
  obtain ⟨hat, -⟩ := run_expect_eq_ok hexpect
  refine run_bind_eq_ok_iff.2 ⟨c.current.lexeme == .punctuator .leftBrace, c, rfl, ?_⟩
  rw [beq_iff_eq.2 hat]
  exact h

/-- A text that is a keyword and a table with a block is read as that table. -/
theorem run_document_of_block {d d' : Cursor} {n : Name} {is : List Name} {ds : List Directive}
    {fs : List FieldDeclaration} {start : Nat} (hblock : block.run d = .ok ((n, is, ds, fs), d'))
    (hend : d'.current.lexeme = .endOfText) (last : Nat) :
    document.run ⟨⟨start, d.lastStop, .name "type"⟩, d.tokens, d.error, last⟩ =
      .ok ([.table ⟨start, d'.lastStop, none, n, is, ds, fs⟩], d') := by
  have hdefinition : definition.run ⟨⟨start, d.lastStop, .name "type"⟩, d.tokens, d.error, last⟩ =
      .ok (.table ⟨start, d'.lastStop, none, n, is, ds, fs⟩, d') := by
    rw [run_definition_of_keyword]
    obtain ⟨n', c₁, hn, hblock⟩ := run_bind_eq_ok_iff.1 hblock
    obtain ⟨is', c₂, his, hblock⟩ := run_bind_eq_ok_iff.1 hblock
    obtain ⟨ds', c₃, hds, hblock⟩ := run_bind_eq_ok_iff.1 hblock
    obtain ⟨fs', c₄, hfs, hblock⟩ := run_bind_eq_ok_iff.1 hblock
    cases hblock
    refine run_bind_eq_ok_iff.2 ⟨_, _, rfl, run_bind_eq_ok_iff.2 ⟨none, _, rfl, run_bind_eq_ok_iff.2 ⟨(), d, rfl, ?_⟩⟩⟩
    exact run_bind_eq_ok_iff.2 ⟨n, c₁, hn, run_bind_eq_ok_iff.2 ⟨is, c₂, his, run_bind_eq_ok_iff.2 ⟨ds, c₃, hds,
        run_bind_eq_ok_iff.2 ⟨fs, d', run_fields_of_many hfs, rfl⟩⟩⟩⟩
  refine run_bind_eq_ok_iff.2 ⟨_, d', hdefinition, run_bind_eq_ok_iff.2 ⟨_, d', rfl, ?_⟩⟩
  refine run_bind_eq_ok_iff.2 ⟨[], d', ?_, rfl⟩
  rw [definitionsToEnd]
  refine run_bind_eq_ok_iff.2 ⟨_, d', rfl, ?_⟩
  rw [if_pos hend]
  rfl

end Parser

end TableSchema.Syntax
