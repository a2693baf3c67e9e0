import Mathlib.Data.List.Basic
import Mathlib.Data.List.Infix
import Mathlib.Data.List.TakeWhile
import TableSchema.Split

/-!
# Finding extracts

A text starts with an extract exactly if it starts like one and a brace opens and closes behind it
(`Extract.isSome_at?_iff`).  So the search from left to right needs no looking back: it cuts a text into extracts and
gaps in the only way that overlooks none (`Cutting.exists_exact`, `Cutting.Exact.eq_of_text_eq`).

Main statements: `splitTables` gives the extracts of this cutting, the last one of each name in the order of the first
ones (`splitTables_exact`).  What it gives is split into the same tables again, each table on its own and all of them
joined with separators (`splitTables_stable`).
-/

namespace TableSchema

open Text

namespace Extract

/-! ### What an extract looks like -/

/-- An extract that consists of what it should: behind the opening comes a name that is as long as it can be, the header
ends at the first brace that opens, and the body at the first brace behind it that closes. -/
structure Shaped (e : Extract) : Prop where
  name_ne_nil : e.name ≠ []
  name : ∀ c ∈ e.name, isWord c = true
  maximal : ∀ c ∈ e.header.head?, isWord c = false
  header : '\x7b' ∉ e.header
  body : '\x7d' ∉ e.body

/-- A text starts with an opening and a word character behind it. -/
def Starts (text : List Char) : Prop :=
  ∃ c rest, text = opening ++ c :: rest ∧ isWord c = true

theorem chars_append (e : Extract) (rest : List Char) :
    e.chars ++ rest = opening ++ (e.name ++ (e.header ++ '\x7b' :: (e.body ++ '\x7d' :: rest))) := by
  simp [chars]

theorem chars_ne_nil (e : Extract) : e.chars ≠ [] := by
  simp [chars]

/-- A run of characters of a class ends where a text goes on with another one. -/
theorem takeWhile_append {p : Char → Bool} {xs ys : List Char} (hxs : ∀ x ∈ xs, p x = true)
    (hys : ∀ y ∈ ys.head?, p y = false) : (xs ++ ys).takeWhile p = xs ∧ (xs ++ ys).dropWhile p = ys := by
  rw [List.takeWhile_append_of_pos hxs, List.dropWhile_append_of_pos hxs]
  cases ys with
  | nil => simp
  | cons y ys =>
    have hy := hys y rfl
    simp [hy]

/-- The search for a character stops at the first one. -/
theorem takeWhile_ne_append {c : Char} {before : List Char} (hbefore : c ∉ before) (rest : List Char) :
    (before ++ c :: rest).takeWhile (· ≠ c) = before ∧ (before ++ c :: rest).dropWhile (· ≠ c) = c :: rest :=
  takeWhile_append (fun _ hx => decide_eq_true fun heq => hbefore (heq ▸ hx)) (by simp)

theorem eq_false_of_mem_head?_dropWhile {p : Char → Bool} {text : List Char} {c : Char}
    (hc : c ∈ (text.dropWhile p).head?) : p c = false := by
  have hnot := List.head?_dropWhile_not p text
  rw [Option.mem_def.1 hc] at hnot
  exact hnot

/-- The word characters that a text starts with, what is behind them up to a brace that opens, and a text without a
brace that closes make an extract. -/
theorem shaped_of_dropWhile {text header inside body : List Char} (hname : text.takeWhile isWord ≠ [])
    (hbehind : text.dropWhile isWord = header ++ '\x7b' :: inside) (hheader : '\x7b' ∉ header)
    (hbody : '\x7d' ∉ body) : Shaped ⟨text.takeWhile isWord, header, body⟩ := by
  refine ⟨hname, fun c hc => List.mem_takeWhile_imp hc, fun c hc => ?_, hheader, hbody⟩
  have hhead : c ∈ (text.dropWhile isWord).head? := by
    rw [hbehind, List.head?_append, Option.mem_def.1 hc]
    rfl
  exact eq_false_of_mem_head?_dropWhile hhead

theorem afterOpening?_eq_some_iff {text : List Char} {e : Extract} : afterOpening? text = some e ↔
    e.Shaped ∧ ∃ rest, text = e.name ++ (e.header ++ '\x7b' :: (e.body ++ '\x7d' :: rest)) := by
  constructor
  · intro h
    simp only [afterOpening?] at h
    split at h
    · cases h
    · cases h
    · rename_i c inside hbrace hname
      split at h
      · rename_i hclose
        have hopen : '\x7b' ∈ text.dropWhile isWord := by
          obtain rfl : c = '\x7b' := by
            have hhead : c ∈ ((text.dropWhile isWord).dropWhile (· ≠ '\x7b')).head? := by rw [hbrace]; rfl
            simpa using eq_false_of_mem_head?_dropWhile hhead
          exact (List.dropWhile_sublist _).subset (hbrace ▸ List.mem_cons_self)
        obtain ⟨header, inside', hbehind, hheader⟩ := List.eq_append_cons_of_mem hopen
        obtain ⟨htake, hdrop⟩ := takeWhile_ne_append hheader inside'
        rw [← hbehind] at htake hdrop
        obtain ⟨-, rfl⟩ := List.cons.inj (hdrop.symm.trans hbrace)
        obtain ⟨body, rest, hinside, hbody⟩ := List.eq_append_cons_of_mem hclose
        rw [htake, hinside, (takeWhile_ne_append hbody rest).1] at h
        cases h
        refine ⟨shaped_of_dropWhile hname hbehind hheader hbody, rest, ?_⟩
        dsimp only
        rw [← hinside, ← hbehind, List.takeWhile_append_dropWhile]
      · cases h
  · rintro ⟨h, rest, rfl⟩
    have hnext : ∀ c ∈ (e.header ++ '\x7b' :: (e.body ++ '\x7d' :: rest)).head?, isWord c = false := by
      cases hheader : e.header with
      | nil => exact fun c hc => Option.some.inj hc ▸ by decide
      | cons first header => exact fun c hc => h.maximal c (by rw [hheader]; exact hc)
    obtain ⟨hname, hbehind⟩ := takeWhile_append h.name hnext
    obtain ⟨hheader, hinside⟩ := takeWhile_ne_append h.header (e.body ++ '\x7d' :: rest)
    obtain ⟨c, name, hcons⟩ := List.exists_cons_of_ne_nil h.name_ne_nil
    simp only [afterOpening?]
    rw [hname, hbehind, hheader, hinside, hcons]
    dsimp only
    rw [if_pos (List.mem_append_right _ List.mem_cons_self), (takeWhile_ne_append h.body rest).1, ← hcons]

/-- A text starts with an extract if it starts with the characters of one. -/
theorem at?_eq_some_iff {text : List Char} {e : Extract} : at? text = some e ↔ e.Shaped ∧ e.chars <+: text := by
  constructor
  · intro h
    unfold at? at h
    split at h
    · rename_i behind
      obtain ⟨hshaped, rest, rfl⟩ := afterOpening?_eq_some_iff.1 h
      exact ⟨hshaped, rest, e.chars_append rest⟩
    · cases h
  · rintro ⟨hshaped, rest, rfl⟩
    rw [chars_append]
    exact afterOpening?_eq_some_iff.2 ⟨hshaped, rest, rfl⟩

/-- Where no extract starts with the characters of another one, both are the same. -/
theorem Shaped.eq_of_append {e e' : Extract} (h : e.Shaped) (h' : e'.Shaped) {rest rest' : List Char}
    (heq : e.chars ++ rest = e'.chars ++ rest') : e = e' ∧ rest = rest' := by
  have he := at?_eq_some_iff.2 ⟨h, List.prefix_append e.chars rest⟩
  have he' := at?_eq_some_iff.2 ⟨h', List.prefix_append e'.chars rest'⟩
  rw [heq, he', Option.some.injEq] at he
  subst he
  exact ⟨rfl, List.append_cancel_left heq⟩

/-! ### Where extracts start -/

/-- A search for the first character of some class keeps what starts with one. -/
theorem sublist_dropWhile_iff {p : Char → Bool} {c : Char} (hc : p c = false) (cs text : List Char) :
    (c :: cs).Sublist (text.dropWhile p) ↔ (c :: cs).Sublist text := by
  induction text with
  | nil => rfl
  | cons first text ih =>
    by_cases hfirst : p first = true
    · have hne : c ≠ first := fun h => by rw [h, hfirst] at hc; cases hc
      rw [List.dropWhile_cons_of_pos hfirst, ih, List.sublist_cons_iff]
      exact (or_iff_left fun ⟨_, heq, _⟩ => hne (List.cons.inj heq).1).symm
    · rw [List.dropWhile_cons_of_neg hfirst]

theorem sublist_append_iff_of_not_mem {c : Char} {before : List Char} (hc : c ∉ before) (cs text : List Char) :
    (c :: cs).Sublist (before ++ text) ↔ (c :: cs).Sublist text := by
  have hne : ∀ x ∈ before, decide (x ≠ c) = true := fun x hx => decide_eq_true fun heq => hc (heq ▸ hx)
  rw [← sublist_dropWhile_iff (p := (· ≠ c)) (by simp), List.dropWhile_append_of_pos hne,
    sublist_dropWhile_iff (by simp)]

theorem Shaped.starts_append {e : Extract} (h : e.Shaped) (rest : List Char) : Starts (e.chars ++ rest) := by
  obtain ⟨c, name, hname⟩ := List.exists_cons_of_ne_nil h.name_ne_nil
  refine ⟨c, name ++ (e.header ++ '\x7b' :: (e.body ++ '\x7d' :: rest)), ?_, h.name c (hname ▸ List.mem_cons_self)⟩
  rw [chars_append, hname]
  rfl

theorem braces_sublist_append (e : Extract) (rest : List Char) : ['\x7b', '\x7d'].Sublist (e.chars ++ rest) := by
  have hbody : ['\x7d'].Sublist (e.body ++ '\x7d' :: rest) := List.singleton_sublist.2 (by simp)
  rw [chars_append]
  exact ((hbody.cons_cons '\x7b').trans (List.sublist_append_right _ _)).trans
    ((List.sublist_append_right _ _).trans (List.sublist_append_right _ _))

/-- What starts like an extract is one if a brace opens behind it and one closes. -/
theorem isSome_at?_iff {text : List Char} :
    (at? text).isSome = true ↔ Starts text ∧ ['\x7b', '\x7d'].Sublist text := by
  constructor
  · intro h
    obtain ⟨e, he⟩ := Option.isSome_iff_exists.1 h
    obtain ⟨hshaped, rest, rfl⟩ := at?_eq_some_iff.1 he
    exact ⟨hshaped.starts_append rest, e.braces_sublist_append rest⟩
  · rintro ⟨⟨c, behind, rfl, hc⟩, hbraces⟩
    rw [sublist_append_iff_of_not_mem (by decide), ← sublist_dropWhile_iff (p := isWord) (by decide)] at hbraces
    obtain ⟨header, inside, hbehind, hheader⟩ := List.eq_append_cons_of_mem (hbraces.subset List.mem_cons_self)
    rw [hbehind, sublist_append_iff_of_not_mem hheader, List.cons_sublist_cons, List.singleton_sublist] at hbraces
    obtain ⟨body, rest, hinside, hbody⟩ := List.eq_append_cons_of_mem hbraces
    have hfound : afterOpening? (c :: behind) = some ⟨(c :: behind).takeWhile isWord, header, body⟩ := by
      refine afterOpening?_eq_some_iff.2 ⟨shaped_of_dropWhile (by simp [hc]) hbehind hheader hbody, rest, ?_⟩
      rw [← hinside, ← hbehind, List.takeWhile_append_dropWhile]
    exact Option.isSome_iff_exists.2 ⟨_, hfound⟩

theorem prefix_of_starts {text : List Char} (h : Starts text) : opening <+: text := by
  obtain ⟨c, rest, rfl, -⟩ := h
  exact List.prefix_append opening (c :: rest)

/-- No opening begins in characters that hold none and goes on in an extract behind them, since its first character is
not repeated in it. -/
theorem not_starts_append_chars {before : List Char} (hne : before ≠ []) (hbefore : ¬opening <:+: before)
    (e : Extract) (rest : List Char) : ¬Starts (before ++ (e.chars ++ rest)) := by
  intro hstarts
  have hbegins := prefix_of_starts hstarts
  rw [chars_append] at hbegins
  by_cases hlength : opening.length ≤ before.length
  · exact hbefore (List.prefix_of_prefix_length_le hbegins (List.prefix_append _ _) hlength).isInfix
  · match before, hlength with
    | [], _ => exact hne rfl
    | [_], _ => simp [opening] at hbegins
    | [_, _], _ => simp [opening] at hbegins
    | [_, _, _], _ => simp [opening] at hbegins
    | [_, _, _, _], _ => simp [opening] at hbegins
    | _ :: _ :: _ :: _ :: _ :: _, hlength => simp [opening] at hlength

end Extract

/-! ### Cutting texts -/

/-- A text that is cut up: extracts, each with the gap in front of it, and a rest. -/
structure Cutting where
  pieces : List (List Char × Extract)
  rest : List Char

namespace Cutting

/-- The text that is cut up. -/
def text (c : Cutting) : List Char :=
  (c.pieces.flatMap fun piece => piece.1 ++ piece.2.chars) ++ c.rest

/-- The extracts of a cutting. -/
def extracts (c : Cutting) : List Extract :=
  c.pieces.map (·.2)

/-- A cutting that overlooks no extract: in no gap there is a position at which the text starts like an extract, and in
the rest there is none with a pair of braces behind it. -/
structure Exact (c : Cutting) : Prop where
  shaped : ∀ piece ∈ c.pieces, piece.2.Shaped
  gaps : ∀ gap e behind, (gap, e) :: behind <:+ c.pieces →
    ∀ p < gap.length, ¬Extract.Starts ((gap ++ (e.chars ++ text ⟨behind, c.rest⟩)).drop p)
  rest : ∀ p < c.rest.length, Extract.Starts (c.rest.drop p) → ¬['\x7b', '\x7d'].Sublist (c.rest.drop p)

theorem text_cons (gap : List Char) (e : Extract) (pieces : List (List Char × Extract)) (rest : List Char) :
    text ⟨(gap, e) :: pieces, rest⟩ = gap ++ (e.chars ++ text ⟨pieces, rest⟩) := by
  simp [text]

theorem text_cons_cons (first : Char) (gap : List Char) (e : Extract) (pieces : List (List Char × Extract))
    (rest : List Char) : text ⟨(first :: gap, e) :: pieces, rest⟩ = first :: text ⟨(gap, e) :: pieces, rest⟩ :=
  rfl

theorem exact_nil_iff {rest : List Char} :
    Exact ⟨[], rest⟩ ↔ ∀ p < rest.length, Extract.at? (rest.drop p) = none := by
  simp only [← Option.not_isSome_iff_eq_none, Extract.isSome_at?_iff, not_and]
  exact ⟨fun h => h.rest, fun h => ⟨by simp, by simp, h⟩⟩

theorem exact_cons_iff {gap rest : List Char} {e : Extract} {pieces : List (List Char × Extract)} :
    Exact ⟨(gap, e) :: pieces, rest⟩ ↔ e.Shaped ∧
      (∀ p < gap.length, ¬Extract.Starts ((text ⟨(gap, e) :: pieces, rest⟩).drop p)) ∧ Exact ⟨pieces, rest⟩ := by
  constructor
  · intro h
    obtain ⟨he, hshaped⟩ := List.forall_mem_cons.1 h.shaped
    refine ⟨he, ?_, hshaped, fun gap' e' behind hbehind => h.gaps gap' e' behind (hbehind.trans (List.suffix_cons _ _)),
      h.rest⟩
    rw [text_cons]
    exact h.gaps gap e pieces List.suffix_rfl
  · rintro ⟨he, hgap, h⟩
    refine ⟨List.forall_mem_cons.2 ⟨he, h.shaped⟩, fun gap' e' behind hbehind => ?_, h.rest⟩
    rcases List.suffix_cons_iff.1 hbehind with heq | hbehind
    · cases heq
      rwa [text_cons] at hgap
    · exact h.gaps gap' e' behind hbehind

/-- An extract that comes first comes no later than any extract that stands in the text. -/
theorem Exact.length_gap_le {gap gap' behind rest : List Char} {e e' : Extract} {pieces : List (List Char × Extract)}
    (h : Exact ⟨(gap, e) :: pieces, rest⟩) (he' : e'.Shaped)
    (htext : text ⟨(gap, e) :: pieces, rest⟩ = gap' ++ (e'.chars ++ behind)) : gap.length ≤ gap'.length := by
  by_contra hlt
  refine (exact_cons_iff.1 h).2.1 gap'.length (by omega) ?_
  rw [htext, List.drop_left]
  exact he'.starts_append behind

theorem Exact.rest_ne {gap behind rest : List Char} {e : Extract} (h : Exact ⟨[], rest⟩) (he : e.Shaped) :
    rest ≠ gap ++ (e.chars ++ behind) := by
  rintro rfl
  have hfound := Extract.at?_eq_some_iff.2 ⟨he, List.prefix_append e.chars behind⟩
  have hlength := List.length_pos_iff.2 e.chars_ne_nil
  have hnone := exact_nil_iff.1 h gap.length (by simp only [List.length_append]; omega)
  rw [List.drop_left, hfound] at hnone
  cases hnone

/-- A text has one cutting at most that overlooks no extract. -/
theorem Exact.eq_of_text_eq {c c' : Cutting} (h : c.Exact) (h' : c'.Exact) (heq : c.text = c'.text) : c = c' := by
  obtain ⟨pieces, rest⟩ := c
  obtain ⟨pieces', rest'⟩ := c'
  induction pieces generalizing pieces' with
  | nil =>
    cases pieces' with
    | nil => exact congrArg (Cutting.mk []) heq
    | cons piece' pieces' =>
      rw [text_cons] at heq
      exact absurd heq (h.rest_ne (exact_cons_iff.1 h').1)
  | cons piece pieces ih =>
    obtain ⟨gap, e⟩ := piece
    obtain ⟨he, -, hpieces⟩ := exact_cons_iff.1 h
    cases pieces' with
    | nil =>
      rw [text_cons] at heq
      exact absurd heq.symm (h'.rest_ne he)
    | cons piece' pieces' =>
      obtain ⟨gap', e'⟩ := piece'
      obtain ⟨he', -, hpieces'⟩ := exact_cons_iff.1 h'
      have hlength : gap.length = gap'.length :=
        Nat.le_antisymm (h.length_gap_le he' (by rw [heq, text_cons])) (h'.length_gap_le he (by rw [← heq, text_cons]))
      rw [text_cons, text_cons] at heq
      obtain ⟨rfl, hbehind⟩ := List.append_inj heq hlength
      obtain ⟨rfl, hrest⟩ := he.eq_of_append he' hbehind
      cases ih hpieces pieces' hpieces' hrest
      rfl

/-- The extracts that are found from left to right are those of a cutting that overlooks none. -/
theorem exists_exact (text : List Char) :
    ∃ c : Cutting, c.Exact ∧ c.text = text ∧ c.extracts = Extract.all text := by
  fun_induction Extract.all text with
  | case1 => exact ⟨⟨[], []⟩, exact_nil_iff.2 (by simp), rfl, rfl⟩
  | case2 first text e hfound ih =>
    obtain ⟨⟨pieces, rest⟩, hexact, htext, hextracts⟩ := ih
    obtain ⟨hshaped, behind, hbehind⟩ := Extract.at?_eq_some_iff.1 hfound
    have hdrop : text.drop (e.chars.length - 1) = behind := by
      have hlength := List.length_pos_iff.2 e.chars_ne_nil
      rw [← List.drop_succ_cons (a := first), ← hbehind, Nat.sub_add_cancel hlength, List.drop_left]
    refine ⟨⟨([], e) :: pieces, rest⟩, exact_cons_iff.2 ⟨hshaped, by simp, hexact⟩, ?_, ?_⟩
    · rw [text_cons, htext, hdrop, ← hbehind]
      rfl
    · rw [← hextracts]
      rfl
  | case3 first text hnone ih =>
    obtain ⟨⟨pieces, rest⟩, hexact, rfl, hextracts⟩ := ih
    cases pieces with
    | nil =>
      refine ⟨⟨[], first :: rest⟩, exact_nil_iff.2 fun p hp => ?_, rfl, hextracts⟩
      cases p with
      | zero => exact hnone
      | succ p => exact exact_nil_iff.1 hexact p (Nat.lt_of_succ_lt_succ hp)
    | cons piece pieces =>
      obtain ⟨gap, e⟩ := piece
      obtain ⟨he, hgap, hpieces⟩ := exact_cons_iff.1 hexact
      refine ⟨⟨(first :: gap, e) :: pieces, rest⟩, exact_cons_iff.2 ⟨he, fun p hp hstarts => ?_, hpieces⟩, ?_,
        hextracts⟩
      · rw [text_cons_cons] at hstarts
        cases p with
        | zero =>
          rw [List.drop_zero] at hstarts
          have hbraces : ['\x7b', '\x7d'].Sublist (first :: text ⟨(gap, e) :: pieces, rest⟩) := by
            rw [text_cons, ← List.cons_append]
            exact (e.braces_sublist_append _).trans (List.sublist_append_right _ _)
          have hsome := Extract.isSome_at?_iff.2 ⟨hstarts, hbraces⟩
          rw [hnone] at hsome
          cases hsome
        | succ p => exact hgap p (Nat.lt_of_succ_lt_succ hp) hstarts
      · exact text_cons_cons first gap e pieces rest

/-- A cutting that overlooks no extract has the extracts that are found from left to right. -/
theorem Exact.all_text {c : Cutting} (h : c.Exact) : Extract.all c.text = c.extracts := by
  obtain ⟨c', h', htext, hextracts⟩ := exists_exact c.text
  rw [← hextracts, h'.eq_of_text_eq h htext]

end Cutting

/-! ### What is found in a text -/

theorem Extract.shaped_of_mem_all {text : List Char} {e : Extract} (he : e ∈ all text) : e.Shaped := by
  obtain ⟨c, hc, -, hextracts⟩ := Cutting.exists_exact text
  rw [← hextracts] at he
  obtain ⟨piece, hpiece, rfl⟩ := List.mem_map.1 he
  exact hc.shaped piece hpiece

/-- Of the extracts of a name the last one counts. -/
theorem mem_splitTables_iff {text : String} {table : String × String} : table ∈ splitTables text ↔
    ∃ before e behind, Extract.all text.toList = before ++ e :: behind ∧ e.entry = table ∧
      ∀ later ∈ behind, later.name ≠ e.name := by
  have hnames : ∀ (e : Extract) (behind : List Extract), e.entry.1 ∉ (behind.map Extract.entry).map (·.1) ↔
      ∀ later ∈ behind, later.name ≠ e.name := by
    intro e behind
    simp [Extract.entry, String.ofList_inj]
  rw [splitTables, Dictionary.mem_ofList_iff]
  constructor
  · rintro ⟨before', behind', hentries, hlast⟩
    obtain ⟨before, others, hall, rfl, hothers⟩ := List.map_eq_append_iff.1 hentries
    obtain ⟨e, behind, rfl, rfl, rfl⟩ := List.map_eq_cons_iff.1 hothers
    exact ⟨before, e, behind, hall, rfl, (hnames e behind).1 hlast⟩
  · rintro ⟨before, e, behind, hall, rfl, hlast⟩
    exact ⟨before.map Extract.entry, behind.map Extract.entry, by rw [hall]; simp, (hnames e behind).2 hlast⟩

theorem Extract.exists_shaped_of_mem_splitTables {text : String} {table : String × String}
    (htable : table ∈ splitTables text) : ∃ e : Extract, e.Shaped ∧ e.entry = table := by
  obtain ⟨before, e, behind, hall, hentry, -⟩ := mem_splitTables_iff.1 htable
  exact ⟨e, shaped_of_mem_all (hall ▸ List.mem_append_right _ List.mem_cons_self), hentry⟩

/-- The extracts of a text are those of the only cutting that overlooks none.  The last extract of a name counts, and
names stand in the order of their first extracts. -/
theorem splitTables_exact (text : String) : ∃ c : Cutting, (c.Exact ∧ c.text = text.toList) ∧
    (∀ c' : Cutting, c'.Exact ∧ c'.text = text.toList → c' = c) ∧ Extract.all text.toList = c.extracts ∧
    (∀ table, table ∈ splitTables text ↔ ∃ before e behind, c.extracts = before ++ e :: behind ∧ e.entry = table ∧
      ∀ later ∈ behind, later.name ≠ e.name) ∧
    ((splitTables text).map (·.1)).Pairwise fun a b =>
      (c.extracts.map (·.entry.1)).idxOf a < (c.extracts.map (·.entry.1)).idxOf b := by
  obtain ⟨c, hexact, htext, hextracts⟩ := Cutting.exists_exact text.toList
  refine ⟨c, ⟨hexact, htext⟩, fun c' h' => h'.1.eq_of_text_eq hexact (h'.2.trans htext.symm), hextracts.symm, ?_, ?_⟩
  · rw [hextracts]
    exact fun table => mem_splitTables_iff
  · have horder := Dictionary.pairwise_keys_ofList ((Extract.all text.toList).map Extract.entry)
    rw [List.map_map, ← hextracts] at horder
    rw [splitTables, ← hextracts]
    exact horder

/-! ### Joining what was found -/

/-- The texts of tables one after the other, each with a separator in front of it, and one more behind the last. -/
def joinTables (separators : List String) (last : String) (tables : List (String × String)) : String :=
  String.join (List.zipWith (fun separator table => separator ++ table.2) separators tables) ++ last

theorem toList_joinTables_cons (separator last : String) (separators : List String) (table : String × String)
    (tables : List (String × String)) : (joinTables (separator :: separators) last (table :: tables)).toList =
      separator.toList ++ (table.2.toList ++ (joinTables separators last tables).toList) := by
  simp [joinTables, String.toList_join]

/-- No text without an opening starts an extract, whatever is dropped of it. -/
theorem Extract.at?_drop_eq_none {text : List Char} (htext : ¬opening <:+: text) (p : Nat) :
    at? (text.drop p) = none := by
  rw [← Option.not_isSome_iff_eq_none, isSome_at?_iff]
  exact fun h => htext ((prefix_of_starts h.1).isInfix.trans (List.drop_suffix p text).isInfix)

/-- Texts of tables that are joined with separators without an opening are cut up where they were joined. -/
theorem Cutting.exists_joinTables {separators : List String} {last : String} {tables : List (String × String)}
    (htables : ∀ table ∈ tables, ∃ e : Extract, e.Shaped ∧ e.entry = table)
    (hlength : separators.length = tables.length)
    (hseparators : ∀ separator ∈ separators, ¬Extract.opening <:+: separator.toList)
    (hlast : ¬Extract.opening <:+: last.toList) :
    ∃ c : Cutting, c.Exact ∧ c.text = (joinTables separators last tables).toList ∧
      c.extracts.map Extract.entry = tables := by
  induction tables generalizing separators with
  | nil =>
    obtain rfl := List.length_eq_zero_iff.1 hlength
    exact ⟨⟨[], last.toList⟩, exact_nil_iff.2 fun p _ => Extract.at?_drop_eq_none hlast p, rfl, rfl⟩
  | cons table tables ih =>
    obtain ⟨separator, separators, rfl⟩ := List.exists_cons_of_length_eq_add_one hlength
    rw [List.forall_mem_cons] at htables hseparators
    obtain ⟨⟨e, he, rfl⟩, htables⟩ := htables
    obtain ⟨⟨pieces, rest⟩, hexact, htext, hentries⟩ := ih htables (Nat.succ.inj hlength) hseparators.2
    refine ⟨⟨(separator.toList, e) :: pieces, rest⟩, exact_cons_iff.2 ⟨he, fun p hp => ?_, hexact⟩, ?_,
      congrArg (e.entry :: ·) hentries⟩
    · rw [text_cons, List.drop_append_of_le_length hp.le]
      refine Extract.not_starts_append_chars (List.drop_eq_nil_iff.not.2 hp.not_ge) (fun h => ?_) e _
      exact hseparators.1 (h.trans (List.drop_suffix p _).isInfix)
    · rw [text_cons, htext, toList_joinTables_cons, Extract.entry, String.toList_ofList]

theorem splitTables_joinTables {separators : List String} {last : String} {tables : List (String × String)}
    (htables : ∀ table ∈ tables, ∃ e : Extract, e.Shaped ∧ e.entry = table) (hnodup : (tables.map (·.1)).Nodup)
    (hlength : separators.length = tables.length)
    (hseparators : ∀ separator ∈ separators, ¬Extract.opening <:+: separator.toList)
    (hlast : ¬Extract.opening <:+: last.toList) : splitTables (joinTables separators last tables) = tables := by
  obtain ⟨c, hexact, htext, hentries⟩ := Cutting.exists_joinTables htables hlength hseparators hlast
  rw [splitTables, ← htext, hexact.all_text, hentries, Dictionary.ofList_eq_self hnodup]

/-- The text of an extract is split into this extract alone. -/
theorem Extract.Shaped.splitTables_eq {e : Extract} (he : e.Shaped) : splitTables e.entry.2 = [e.entry] := by
  have hjoin : joinTables [""] "" [e.entry] = e.entry.2 := by simp [joinTables]
  have hempty : ¬Extract.opening <:+: "".toList := by decide
  have hone : splitTables (joinTables [""] "" [e.entry]) = [e.entry] :=
    splitTables_joinTables (List.forall_mem_singleton.2 ⟨e, he, rfl⟩) (by simp) rfl
      (List.forall_mem_singleton.2 hempty) hempty
  rwa [hjoin] at hone

/-- The text of a table is split into this table alone, and the texts of all tables, joined with any separators that
hold no opening, are split into the same tables again. -/
theorem splitTables_stable (text : String) : (∀ table ∈ splitTables text, splitTables table.2 = [table]) ∧
    ∀ (separators : List String) (last : String), separators.length = (splitTables text).length →
      (∀ separator ∈ separators, ¬Extract.opening <:+: separator.toList) → ¬Extract.opening <:+: last.toList →
        splitTables (joinTables separators last (splitTables text)) = splitTables text := by
  have hshaped : ∀ table ∈ splitTables text, ∃ e : Extract, e.Shaped ∧ e.entry = table :=
    fun table htable => Extract.exists_shaped_of_mem_splitTables htable
  constructor
  · intro table htable
    obtain ⟨e, he, rfl⟩ := hshaped table htable
    exact he.splitTables_eq
  · intro separators last hlength hseparators hlast
    exact splitTables_joinTables hshaped (Dictionary.nodup_keys_ofList _) hlength hseparators hlast

/-- A table whose text holds the beginning of another one, and separators that almost are openings. -/
theorem splitTables_stable_almost_openings :
    splitTables "type B \x7b1\x7d type A type C \x7btype B \x7b\x7d type B \x7b2\x7d" =
        [("B", "type B \x7b2\x7d"), ("A", "type A type C \x7btype B \x7b\x7d")] ∧
      splitTables "type A type C \x7btype B \x7b\x7d" = [("A", "type A type C \x7btype B \x7b\x7d")] ∧
      splitTables "typtype B \x7b2\x7d\x7btypetype A type C \x7btype B \x7b\x7dtype" =
        [("B", "type B \x7b2\x7d"), ("A", "type A type C \x7btype B \x7b\x7d")] := by
  have htables : splitTables "type B \x7b1\x7d type A type C \x7btype B \x7b\x7d type B \x7b2\x7d" =
      [("B", "type B \x7b2\x7d"), ("A", "type A type C \x7btype B \x7b\x7d")] := by decide +kernel
  obtain ⟨hone, hjoin⟩ := splitTables_stable "type B \x7b1\x7d type A type C \x7btype B \x7b\x7d type B \x7b2\x7d"
  rw [htables] at hone hjoin
  have hjoined : joinTables ["typ", "\x7btype"] "type"
      [("B", "type B \x7b2\x7d"), ("A", "type A type C \x7btype B \x7b\x7d")] =
        "typtype B \x7b2\x7d\x7btypetype A type C \x7btype B \x7b\x7dtype" := by decide +kernel
  refine ⟨htables, hone _ (.tail _ (.head _)), ?_⟩
  rw [← hjoined]
  exact hjoin ["typ", "\x7btype"] "type" rfl (by decide) (by decide)

end TableSchema
