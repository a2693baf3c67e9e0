import TableSchema.Proofs.Marks
import TableSchema.Proofs.Resolution
import TableSchema.Proofs.Tokens

/-!
# Integers that are too long to be read

An integer with more digits than an integer may have cannot be read, and whoever reads it breaks off: the fault is no
problem that is reported.

* (directives) Only the number of the first enumerator is read as an integer, so that the fault is that of a directive
  that gives it (`readMark_eq_integerTooLong_iff`), and behind well-formed ones that of the whole list
  (`readMarks_eq_integerTooLong_iff`);
* (declarations) tables do not have it (`resolveTable_ne_integerTooLong`), and enumerations have it exactly where their
  directives do (`resolveEnumeration_eq_integerTooLong_iff`);
* (a source) `onesSource count` holds an integer of so many digits, and the analysis breaks off with it once they are
  too many (`analyze_onesSource`).
-/

namespace TableSchema

open Syntax Analysis

/-! ### Directives -/

/-- A directive with an integer that is too long: it may give the number of the first enumerator at its site, and its
first argument has the right name and an integer of so many digits, which are too many. -/
structure Syntax.Directive.TooLong (site : Site) (count : Nat) (d : Directive) : Prop where
  legal : .indexing ∈ site.legal
  name : d.name.text = MarkKind.indexing.name
  argument : ∃ position start spelling others,
    d.arguments = ⟨⟨position, "first"⟩, .literal (.int start spelling)⟩ :: others ∧ Text.digitCount spelling = count
  limit : Text.maxDigits < count

/-- The first directive that is not well formed has an integer that is too long. -/
def FirstTooLong (site : Site) (count : Nat) (directives : List Directive) : Prop :=
  ∃ before d after, directives = before ++ d :: after ∧ (∀ b ∈ before, b.WellFormed site) ∧ d.TooLong site count

/-- A check that fails with problems only. -/
def OnlyProblems {α : Type} (r : Except Fault α) : Prop :=
  ∀ fault, r = .error fault → ∃ p, fault = .problem p

theorem onlyProblems_readLiteral (value : Literal) : OnlyProblems (readLiteral value) := by
  intro fault h
  cases value <;> cases h <;> exact ⟨_, rfl⟩

theorem onlyProblems_readString (value : Value) : OnlyProblems (readString value) := by
  cases value with
  | literal value => exact onlyProblems_readLiteral value
  | list start items =>
    intro fault h
    cases h
    exact ⟨_, rfl⟩

theorem onlyProblems_readStrings (expected : Expectation) (value : Value) :
    OnlyProblems (readStrings expected value) := by
  intro fault h
  cases value with
  | literal value =>
    cases h
    exact ⟨_, rfl⟩
  | list start items =>
    obtain ⟨_, item, _, _, _, hitem⟩ := mapM_eq_error_iff.1 h
    exact onlyProblems_readLiteral item fault hitem

theorem onlyProblems_readTags (value : Value) : OnlyProblems (readTags value) := by
  match value with
  | .literal value => exact onlyProblems_readStrings .tags (.literal value)
  | .list start [] =>
    intro fault h
    cases h
    exact ⟨_, rfl⟩
  | .list start (item :: items) => exact onlyProblems_readStrings .tags (.list start (item :: items))

section Reading

variable {α : Type} {d : Directive} {parameter : Parameter} {name : String} {read : Value → Except Fault α}
  {fault : Fault}

/-- What fails with an argument is a problem, unless it is the reading of the value of the first one. -/
theorem exists_of_readArgument_eq_error (h : readArgument d parameter name read = .error fault) :
    (∃ p, fault = .problem p) ∨
      ∃ first others, d.arguments = first :: others ∧ first.name.text = name ∧ read first.value = .error fault := by
  unfold readArgument at h
  cases harguments : d.arguments with
  | nil =>
    rw [harguments] at h
    cases h
    exact .inl ⟨_, rfl⟩
  | cons first others =>
    rw [harguments] at h
    dsimp only at h
    by_cases hname : first.name.text = name
    · rw [if_neg (not_not_intro hname)] at h
      rcases bind_eq_error_iff.1 h with hfirst | ⟨value, -, hothers⟩
      · exact .inr ⟨first, others, rfl, hname, hfirst⟩
      · left
        cases others with
        | nil => cases hothers
        | cons second others =>
          dsimp only at hothers
          split at hothers <;> cases hothers <;> exact ⟨_, rfl⟩
    · rw [if_pos hname] at h
      cases h
      exact .inl ⟨_, rfl⟩

theorem onlyProblems_readArgument (hread : ∀ value, OnlyProblems (read value)) :
    OnlyProblems (readArgument d parameter name read) := by
  intro fault h
  rcases exists_of_readArgument_eq_error h with hproblem | ⟨first, _, -, -, hfirst⟩
  · exact hproblem
  · exact hread first.value fault hfirst

theorem onlyProblems_readNothing : OnlyProblems (readNothing d) := by
  intro fault h
  unfold readNothing at h
  cases harguments : d.arguments with
  | nil =>
    rw [harguments] at h
    cases h
  | cons first others =>
    rw [harguments] at h
    cases h
    exact ⟨_, rfl⟩

theorem exists_of_readIndexBase_eq_error {value : Value} (h : readIndexBase value = .error fault) :
    (∃ p, fault = .problem p) ∨
      ∃ start spelling, value = .literal (.int start spelling) ∧ readInteger spelling = .error fault := by
  match value with
  | .literal (.int start spelling) =>
    rcases bind_eq_error_iff.1 h with hread | ⟨n, -, hn⟩
    · exact .inr ⟨start, spelling, rfl, hread⟩
    · left
      split at hn
      · cases hn
      · split at hn <;> cases hn
        exact ⟨_, rfl⟩
  | .literal (.string _ _) => cases h; exact .inl ⟨_, rfl⟩
  | .literal (.other _ _) => cases h; exact .inl ⟨_, rfl⟩
  | .list _ _ => cases h; exact .inl ⟨_, rfl⟩

/-- Directives of the other kinds hold nothing that is read as an integer. -/
theorem onlyProblems_read {kind : MarkKind} (hkind : kind ≠ .indexing) : OnlyProblems (kind.read d) := by
  intro fault h
  cases kind with
  | ref => exact onlyProblems_readArgument onlyProblems_readString fault (map_eq_error_iff.1 h)
  | unique => exact onlyProblems_readNothing fault (map_eq_error_iff.1 h)
  | localized => exact onlyProblems_readNothing fault (map_eq_error_iff.1 h)
  | file => exact onlyProblems_readArgument onlyProblems_readString fault (map_eq_error_iff.1 h)
  | files => exact onlyProblems_readArgument (onlyProblems_readStrings .extensions) fault (map_eq_error_iff.1 h)
  | indexing => exact absurd rfl hkind
  | tags => exact onlyProblems_readArgument onlyProblems_readTags fault (map_eq_error_iff.1 h)

/-- What fails with a directive is a problem, or an integer that is too long. -/
theorem exists_of_readMark_eq_error {site : Site} (h : readMark site d = .error fault) :
    (∃ p, fault = .problem p) ∨ ∃ count, fault = .integerTooLong count ∧ d.TooLong site count := by
  unfold readMark at h
  cases hkind : site.kind? d.name.text with
  | none =>
    rw [hkind] at h
    cases h
    exact .inl ⟨_, rfl⟩
  | some kind =>
    rw [hkind] at h
    obtain ⟨hlegal, hname⟩ := Site.kind?_eq_some_iff.1 hkind
    have hread := map_eq_error_iff.1 h
    by_cases hindexing : kind = .indexing
    · subst hindexing
      rcases exists_of_readArgument_eq_error (map_eq_error_iff.1 hread) with hproblem | ⟨first, others, harguments,
        hfirst, hvalue⟩
      · exact .inl hproblem
      · rcases exists_of_readIndexBase_eq_error hvalue with hproblem | ⟨start, spelling, hint, hlong⟩
        · exact .inl hproblem
        · obtain ⟨hlimit, rfl⟩ := readInteger_eq_error_iff.1 hlong
          obtain ⟨⟨position, _⟩, _⟩ := first
          cases hfirst
          cases hint
          exact .inr ⟨_, rfl, hlegal, hname.symm, ⟨position, start, spelling, others, harguments, rfl⟩, hlimit⟩
    · exact .inl (onlyProblems_read hindexing fault hread)

end Reading

/-- A directive cannot be read for the length of an integer exactly if it has one that is too long. -/
theorem readMark_eq_integerTooLong_iff {site : Site} {d : Directive} {count : Nat} :
    readMark site d = .error (.integerTooLong count) ↔ d.TooLong site count := by
  constructor
  · intro h
    rcases exists_of_readMark_eq_error h with ⟨_, hproblem⟩ | ⟨_, hcount, hlong⟩
    · cases hproblem
    · cases hcount
      exact hlong
  · rintro ⟨hlegal, hname, ⟨position, start, spelling, others, harguments, rfl⟩, hlimit⟩
    have hread : readInteger spelling = .error (.integerTooLong (Text.digitCount spelling)) :=
      readInteger_eq_error_iff.2 ⟨hlimit, rfl⟩
    unfold readMark
    rw [Site.kind?_eq_some_iff.2 ⟨hlegal, hname.symm⟩]
    simp only [MarkKind.read, readArgument, harguments, readIndexBase, hread]
    rfl

section Lists

variable {site : Site} {directives : List Directive} {count : Nat}

/-- Reading directives fails as that of the first one does that is not well formed. -/
theorem readMarks_eq_error_iff {fault : Fault} :
    readMarks site directives = .error fault ↔
      ∃ before d after, directives = before ++ d :: after ∧ (∀ b ∈ before, b.WellFormed site) ∧
        readMark site d = .error fault := by
  rw [(readMarks_reports site directives).eq_error_iff, head?_flatMap_eq_some_iff]
  simp only [directiveViolations_eq_nil_iff, ← (readMark_reports site _).eq_error_iff]

theorem readMarks_eq_integerTooLong_iff :
    readMarks site directives = .error (.integerTooLong count) ↔ FirstTooLong site count directives := by
  rw [readMarks_eq_error_iff]
  simp only [readMark_eq_integerTooLong_iff]
  rfl

/-- What fails with directives is a problem, or an integer that is too long, which only some sites can have. -/
theorem exists_of_readMarks_eq_error {fault : Fault} (h : readMarks site directives = .error fault) :
    (∃ p, fault = .problem p) ∨ ∃ count, fault = .integerTooLong count ∧ .indexing ∈ site.legal := by
  obtain ⟨_, _, _, _, _, hd⟩ := readMarks_eq_error_iff.1 h
  rcases exists_of_readMark_eq_error hd with hproblem | ⟨count, hcount, hlong⟩
  · exact .inl hproblem
  · exact .inr ⟨count, hcount, hlong.legal⟩

/-- No directive of a field or a table holds an integer. -/
theorem onlyProblems_readMarks (hsite : .indexing ∉ site.legal) : OnlyProblems (readMarks site directives) := by
  intro fault h
  rcases exists_of_readMarks_eq_error h with hproblem | ⟨_, -, hlegal⟩
  · exact hproblem
  · exact absurd hlegal hsite

end Lists

/-! ### Declarations -/

section Declarations

variable {catalog : Catalog} {table : String} {count : Nat}

theorem resolveColumn_ne_integerTooLong (field : FieldDeclaration) :
    resolveColumn catalog table field ≠ .error (.integerTooLong count) := by
  intro h
  rcases bind_eq_error_iff.1 h with hmarks | ⟨marks, -, h⟩
  · obtain ⟨_, hproblem⟩ := onlyProblems_readMarks (by decide) _ hmarks
    cases hproblem
  · rcases bind_eq_error_iff.1 h with hclass | ⟨c, -, h⟩
    · cases hclassify : classify catalog table field.type <;> simp [hclassify, Except.mapError] at hclass
    · rcases bind_eq_error_iff.1 h with href | ⟨_, -, hpure⟩
      · unfold applyRef at href
        split at href
        · cases href
        · cases href
        · split at href <;> cases href
      · cases hpure

theorem resolveFields_ne_integerTooLong (seen : List String) (fields : List FieldDeclaration) :
    resolveFields catalog table seen fields ≠ .error (.integerTooLong count) := by
  induction fields generalizing seen with
  | nil => exact nofun
  | cons field fields ih =>
    intro h
    rw [resolveFields] at h
    rcases bind_eq_error_iff.1 h with hcolumn | ⟨column, -, h⟩
    · exact resolveColumn_ne_integerTooLong field hcolumn
    · split at h
      · exact ih seen (map_eq_error_iff.1 h)
      · split at h
        · cases h
        · exact ih _ (map_eq_error_iff.1 h)

/-- No table has an integer that is read. -/
theorem resolveTable_ne_integerTooLong (t : TableDeclaration) :
    resolveTable catalog t ≠ .error (.integerTooLong count) := by
  intro h
  rcases bind_eq_error_iff.1 h with htags | ⟨_, -, h⟩
  · obtain ⟨_, hproblem⟩ := onlyProblems_readMarks (by decide) _ (map_eq_error_iff.1 htags)
    cases hproblem
  · rcases bind_eq_error_iff.1 h with hfields | ⟨_, -, hpure⟩
    · exact resolveFields_ne_integerTooLong [] t.fields hfields
    · cases hpure

/-- What fails with an enumeration is a problem, or the reading of its directives. -/
theorem exists_of_resolveEnumeration_eq_error {e : EnumerationDeclaration} {fault : Fault}
    (h : resolveEnumeration e = .error fault) :
    (∃ p, fault = .problem p) ∨ readMarks .enumeration e.directives = .error fault := by
  rcases bind_eq_error_iff.1 h with hmarks | ⟨marks, -, h⟩
  · exact .inr hmarks
  · left
    split at h
    · cases h
      exact ⟨_, rfl⟩
    · rcases bind_eq_error_iff.1 h with hvalues | ⟨_, -, hpure⟩
      · obtain ⟨p, -, rfl⟩ := mapError_eq_error_iff.1 hvalues
        exact ⟨p, rfl⟩
      · cases hpure

/-- An enumeration does not resolve for the length of an integer exactly if its directives cannot be read for it. -/
theorem resolveEnumeration_eq_integerTooLong_iff {e : EnumerationDeclaration} :
    resolveEnumeration e = .error (.integerTooLong count) ↔ FirstTooLong .enumeration count e.directives := by
  rw [← readMarks_eq_integerTooLong_iff]
  constructor
  · intro h
    rcases exists_of_resolveEnumeration_eq_error h with ⟨_, hproblem⟩ | hmarks
    · cases hproblem
    · exact hmarks
  · intro h
    exact bind_eq_error_iff.2 (.inl h)

/-- A reference without a table is not what fails with an enumeration. -/
theorem resolveEnumeration_ne_refWithoutTable {e : EnumerationDeclaration} {name : String} :
    resolveEnumeration e ≠ .error (.refWithoutTable name) := by
  intro h
  rcases exists_of_resolveEnumeration_eq_error h with ⟨_, hproblem⟩ | hmarks
  · cases hproblem
  · rcases exists_of_readMarks_eq_error hmarks with ⟨_, hproblem⟩ | ⟨_, hcount, -⟩
    · cases hproblem
    · cases hcount

end Declarations

/-! ### A source -/

/-- The source of an enumeration whose first number is written with so many ones. -/
def onesSource (count : Nat) : Source :=
  .numbered 1 (String.ofList
    ("enum E @indexing(first: ".toList ++ (List.replicate count '1' ++ ") \x7b A \x7d".toList)))

/-- The tokens of this source, behind the first one. -/
def onesTokens (count : Nat) : List Token :=
  [⟨5, 6, .name "E"⟩, ⟨7, 8, .punctuator .atSign⟩, ⟨8, 16, .name "indexing"⟩, ⟨16, 17, .punctuator .leftParen⟩,
    ⟨17, 22, .name "first"⟩, ⟨22, 23, .punctuator .colon⟩,
    ⟨24, 24 + count, .int (String.ofList (List.replicate count '1'))⟩,
    ⟨24 + count, 24 + count + 1, .punctuator .rightParen⟩, ⟨24 + count + 2, 24 + count + 3, .punctuator .leftBrace⟩,
    ⟨24 + count + 4, 24 + count + 5, .name "A"⟩, ⟨24 + count + 6, 24 + count + 7, .punctuator .rightBrace⟩,
    ⟨24 + count + 7, 24 + count + 7, .endOfText⟩]

/-- The directive of this enumeration. -/
def onesDirective (count : Nat) : Directive :=
  ⟨7, ⟨8, "indexing"⟩, [⟨⟨17, "first"⟩, .literal (.int 24 (String.ofList (List.replicate count '1')))⟩]⟩

/-- The enumeration in this source. -/
def onesEnumeration (count : Nat) : EnumerationDeclaration :=
  ⟨0, 24 + count + 7, none, ⟨5, "E"⟩, [onesDirective count], [⟨24 + count + 4, none, ⟨24 + count + 4, "A"⟩, []⟩]⟩

theorem readNumber_ones (position n : Nat) (more : List Char) :
    readNumber position (List.replicate (n + 1) '1' ++ ')' :: more) =
      .ok (.int (String.ofList (List.replicate (n + 1) '1')), n + 1) := by
  have hdigits : ((List.replicate (n + 1) '1' ++ ')' :: more).takeWhile Char.isDigit).length = n + 1 := by
    have hones : ∀ c ∈ List.replicate (n + 1) '1', c.isDigit = true := fun c hc => List.eq_of_mem_replicate hc ▸ rfl
    rw [List.takeWhile_append_of_pos hones]
    simp [show Char.isDigit ')' = false from rfl]
  have hdrop : (List.replicate (n + 1) '1' ++ ')' :: more).drop (n + 1) = ')' :: more :=
    List.drop_left' List.length_replicate
  have htake : (List.replicate (n + 1) '1' ++ ')' :: more).take (n + 1) = List.replicate (n + 1) '1' :=
    List.take_left' List.length_replicate
  have hnext : (List.replicate (n + 1) '1' ++ ')' :: more)[n + 1]? = some ')' := by
    simp
  have hhead : (List.replicate (n + 1) '1' ++ ')' :: more).head? = some '1' := rfl
  have hwhole : readWhole position (List.replicate (n + 1) '1' ++ ')' :: more) = .ok (n + 1) := by
    rw [readWhole, hhead, if_neg (by decide), readDigits, hdigits]
    exact if_neg (Nat.succ_ne_zero n)
  -- a parenthesis begins neither a fraction nor an exponent
  have hfraction : ∀ p, readFraction p (')' :: more) = .ok 0 := fun _ => rfl
  have hexponent : ∀ p, readExponent p (')' :: more) = .ok 0 := fun _ => rfl
  unfold readNumber
  rw [hhead, if_neg (by decide)]
  simp only [List.drop_zero, Nat.add_zero, Nat.zero_add, hwhole, hdrop, hfraction, hexponent, hnext, htake, Bind.bind,
    Except.bind]
  rfl

theorem tokenize_onesSource (n : Nat) :
    tokenize (onesSource (n + 1)).body = ⟨⟨0, 4, .name "enum"⟩ :: onesTokens (n + 1), none⟩ := by
  have hdrop : (List.append (List.replicate n '1') ") \x7b A \x7d".toList).drop n = ") \x7b A \x7d".toList :=
    List.drop_left' List.length_replicate
  rw [tokenize, show (onesSource (n + 1)).body = String.ofList _ from rfl, String.toList_ofList]
  -- the number is the only token whose text is not at hand
  iterate 7 refine tokenizeAt_cons rfl rfl rfl ?_
  refine tokenizeAt_cons rfl (readNumber_ones _ n _) rfl ?_
  rw [Nat.add_sub_cancel, hdrop]
  iterate 4 refine tokenizeAt_cons rfl rfl rfl ?_
  exact tokenizeAt_of_end rfl

theorem parse_onesSource (n : Nat) :
    parse (onesSource (n + 1)) = .ok ⟨onesSource (n + 1), [.enumeration (onesEnumeration (n + 1))]⟩ := by
  unfold parse
  rw [tokenize_onesSource]
  rfl

theorem onesDirective_tooLong {count : Nat} (h : Text.maxDigits < count) :
    (onesDirective count).TooLong .enumeration count where
  legal := by decide
  name := rfl
  argument := by
    have hcount : Text.digitCount (String.ofList (List.replicate count '1')) = count := by
      have hsign : (List.replicate count '1').head? ≠ some '-' := by
        cases count <;> simp [List.replicate_succ]
      rw [Text.digitCount, Text.digitsOf, String.toList_ofList, if_neg hsign, List.length_replicate]
    exact ⟨17, 24, _, [], rfl, hcount⟩
  limit := h

/-- With too many ones the analysis breaks off. -/
theorem analyze_onesSource {count : Nat} (h : Text.maxDigits < count) :
    analyze [onesSource count] = .error (.integerTooLong count) := by
  obtain ⟨n, rfl⟩ := Nat.exists_eq_succ_of_ne_zero (Nat.ne_zero_of_lt h)
  have hresolve : resolveEnumeration (onesEnumeration (n + 1)) = .error (.integerTooLong (n + 1)) :=
    resolveEnumeration_eq_integerTooLong_iff.2 ⟨[], _, [], rfl, by simp, onesDirective_tooLong h⟩
  have hparse : [onesSource (n + 1)].mapM parseSource =
      .ok [⟨onesSource (n + 1), [.enumeration (onesEnumeration (n + 1))]⟩] := by
    simp only [List.mapM_cons, List.mapM_nil, parseSource, parse_onesSource]
    rfl
  rw [analyze_eq_bind, hparse]
  show (schemaOf ⟨[], [⟨onesSource (n + 1), onesEnumeration (n + 1)⟩]⟩).outcome = _
  rw [outcome_schemaOf]
  simp only [List.mapM_cons, List.mapM_nil, enumerationOf, hresolve]
  rfl

end TableSchema
