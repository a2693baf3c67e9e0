import TableSchema.Report
import TableSchema.Proofs.LongIntegers

/-!
# What is told of a refused directive

`Directive.Refused` lists the rules by which a directive is refused at a site, each with the report that tells it: that
it may not stand there, or else what is wrong with its arguments.  Arguments are looked at in order, each for its name
first; an argument behind one that was accepted is always refused, whatever its value.  An integer that is too long is
not refused by any rule.

Main statement: reading the directives of a site gives what they say, one by one, if all of them are well formed, and
otherwise the report of the first that is not, unless this one has an integer that is too long (`readMarks_tells`).
-/

namespace TableSchema

open Syntax

/-! ### Rules -/

/-- A report that points at nodes and has no cause. -/
def Report.plain (source : Source) (kind : ProblemKind) (message : String) (nodes : List Node) : Report :=
  ⟨⟨kind, message, source, .nodes nodes⟩, none⟩

/-- The argument that directives of a kind take: its name, and what is told where it is missing. -/
def MarkKind.argument? : MarkKind → Option (String × String)
  | ref => some ("column", "Missing referenced column name.")
  | unique => none
  | localized => none
  | file => some ("ext", "Missing file extension.")
  | files => some ("ext", "Missing file extensions.")
  | indexing => some ("first", "Missing first enumerator index.")
  | tags => some ("list", "Missing list of tags.")

/-- An argument with which alone a directive of a kind says something. -/
def MarkKind.Takes (kind : MarkKind) (a : Argument) : Prop :=
  ∃ m : Mark, m.kind = kind ∧ m.WrittenWith [a]

/-- What is told of a value that the argument of a directive cannot have. -/
inductive MarkKind.RefusesValue (source : Source) : MarkKind → Value → Report → Prop
  | noString {kind : MarkKind} {value : Value} (hkind : kind = .ref ∨ kind = .file)
      (h : ∀ start text, value ≠ .literal (.string start text)) :
    RefusesValue source kind value (.plain source .invalidArgument "String expected." [value.node])
  | noExtensions {value : Value} (h : ∀ start items, value ≠ .list start items) :
    RefusesValue source .files value (.plain source .invalidArgument "List of extensions expected." [value.node])
  | noTags {value : Value} (h : ∀ start items, value ≠ .list start items) :
    RefusesValue source .tags value (.plain source .invalidArgument "List of tags expected." [value.node])
  | emptyTags (start : Nat) :
    RefusesValue source .tags (.list start [])
      (.plain source .emptyList "At least one tag should be in the list." [⟨.list, start⟩])
  | item {kind : MarkKind} {start : Nat} {items before after : List Literal} {item : Literal}
      (hkind : kind = .files ∨ kind = .tags) (hitems : items = before ++ item :: after)
      (hbefore : ∀ i ∈ before, ∃ start text, i = .string start text) (h : ∀ start text, item ≠ .string start text) :
    RefusesValue source kind (.list start items) (.plain source .invalidArgument "String expected." [item.node])
  | noIndexBase {value : Value}
      (h : ∀ start spelling, value = .literal (.int start spelling) → ∃ n, Spells spelling n ∧ n ≠ 0 ∧ n ≠ 1) :
    RefusesValue source .indexing value (.plain source .invalidArgument "Integer 0 or 1 expected." [value.node])

/-- What is told of the arguments of a directive of a kind.  At most two of them are looked at. -/
inductive MarkKind.Refuses (source : Source) (kind : MarkKind) (d : Directive) : Report → Prop
  | arguments (hkind : kind.argument? = none) (h : d.arguments ≠ []) :
    Refuses source kind d
      (.plain source .unknownArgument "Directive doesn't accept arguments." (d.arguments.map Argument.node))
  | missing {name message : String} (hkind : kind.argument? = some (name, message)) (h : d.arguments = []) :
    Refuses source kind d (.plain source .missingArgument message [d.node])
  | firstName {name message : String} {first : Argument} {others : List Argument}
      (hkind : kind.argument? = some (name, message)) (h : d.arguments = first :: others)
      (hname : first.name.text ≠ name) :
    Refuses source kind d
      (.plain source .unknownArgument s!"Unknown argument \"{first.name.text}\"." [first.name.node])
  | firstValue {name message : String} {first : Argument} {others : List Argument} {report : Report}
      (hkind : kind.argument? = some (name, message)) (h : d.arguments = first :: others)
      (hname : first.name.text = name) (hvalue : kind.RefusesValue source first.value report) :
    Refuses source kind d report
  | secondName {name message : String} {first second : Argument} {others : List Argument}
      (hkind : kind.argument? = some (name, message)) (h : d.arguments = first :: second :: others)
      (hfirst : kind.Takes first) (hname : second.name.text ≠ name) :
    Refuses source kind d
      (.plain source .unknownArgument s!"Unknown argument \"{second.name.text}\"." [second.name.node])
  | duplicate {name message : String} {first second : Argument} {others : List Argument}
      (hkind : kind.argument? = some (name, message)) (h : d.arguments = first :: second :: others)
      (hfirst : kind.Takes first) (hname : second.name.text = name) :
    Refuses source kind d
      (.plain source .duplicateArgument s!"Duplicate argument \"{second.name.text}\"." [second.name.node])

/-- What is told of a directive that does not fit at a site. -/
inductive Syntax.Directive.Refused (source : Source) (site : Site) (d : Directive) : Report → Prop
  | unknown (h : ∀ kind ∈ site.legal, kind.name ≠ d.name.text) :
    Refused source site d
      (.plain source .unknownDirective s!"Unknown directive \"{d.name.text}\"." [d.name.node])
  | malformed {kind : MarkKind} {report : Report} (hlegal : kind ∈ site.legal) (hname : kind.name = d.name.text)
      (h : kind.Refuses source d report) :
    Refused source site d report

/-! ### Checks that tell something -/

/-- A check that fails with a problem, and what is told then. -/
def Tells {α : Type} (source : Source) (r : Except Fault α) (report : Report) : Prop :=
  ∃ p, r = .error (.problem p) ∧ p.report source = report

section Tells

variable {α β : Type} {source : Source} {report : Report}

@[simp] theorem not_tells_ok {a : α} : ¬ Tells source (.ok a) report := by
  rintro ⟨p, h, -⟩
  cases h

@[simp] theorem tells_error_iff {p : Problem} :
    Tells source (.error (.problem p) : Except Fault α) report ↔ p.report source = report := by
  simp [Tells]

@[simp] theorem tells_map_iff {r : Except Fault α} {g : α → β} :
    Tells source (g <$> r) report ↔ Tells source r report := by
  simp only [Tells, map_eq_error_iff]

/-- A check of a list that fails as the check of its first bad item does tells the same as this one. -/
theorem tells_iff_of_split {γ : Type} {r : Except Fault α} {check : β → Except Fault γ} {items : List β}
    {fine : β → Prop}
    (h : ∀ fault, r = .error fault ↔
      ∃ before item after, items = before ++ item :: after ∧ (∀ b ∈ before, fine b) ∧ check item = .error fault) :
    Tells source r report ↔
      ∃ before item after, items = before ++ item :: after ∧ (∀ b ∈ before, fine b) ∧
        Tells source (check item) report := by
  constructor
  · rintro ⟨p, hp, hreport⟩
    obtain ⟨before, item, after, heq, hbefore, hitem⟩ := (h _).1 hp
    exact ⟨before, item, after, heq, hbefore, p, hitem, hreport⟩
  · rintro ⟨before, item, after, heq, hbefore, p, hitem, hreport⟩
    exact ⟨p, (h _).2 ⟨before, item, after, heq, hbefore, hitem⟩, hreport⟩

end Tells

/-! ### Values -/

section Values

variable {source : Source} {value : Value} {report : Report}

theorem tells_readLiteral_iff {item : Literal} :
    Tells source (readLiteral item) report ↔
      (∀ start text, item ≠ .string start text) ∧
        Report.plain source .invalidArgument "String expected." [item.node] = report := by
  cases item with
  | string start text => simp [readLiteral]
  | int start spelling =>
    simp only [readLiteral, tells_error_iff, ne_eq, reduceCtorEq, not_false_eq_true, implies_true, true_and]
    rfl
  | other start kind =>
    simp only [readLiteral, tells_error_iff, ne_eq, reduceCtorEq, not_false_eq_true, implies_true, true_and]
    rfl

theorem tells_readString_iff :
    Tells source (readString value) report ↔
      (∀ start text, value ≠ .literal (.string start text)) ∧
        Report.plain source .invalidArgument "String expected." [value.node] = report := by
  cases value with
  | literal item =>
    simp only [readString, ne_eq, Value.literal.injEq]
    exact tells_readLiteral_iff
  | list start items =>
    simp only [readString, tells_error_iff, ne_eq, reduceCtorEq, not_false_eq_true, implies_true, true_and]
    rfl

/-- A list of strings fails at its first item that is none. -/
theorem tells_mapM_readLiteral_iff {items : List Literal} :
    Tells source (items.mapM readLiteral) report ↔
      ∃ before item after, items = before ++ item :: after ∧ (∀ i ∈ before, ∃ start text, i = .string start text) ∧
        Tells source (readLiteral item) report := by
  have hstring : ∀ i : Literal, textViolations i = [] ↔ ∃ start text, i = .string start text := by
    intro i
    cases i <;> simp [textViolations]
  have hreports : Reports (items.mapM readLiteral) (items.flatMap textViolations) :=
    .mapM fun item _ => readLiteral_reports item
  refine tells_iff_of_split fun fault => ?_
  simp only [hreports.eq_error_iff, head?_flatMap_eq_some_iff, hstring, ← (readLiteral_reports _).eq_error_iff]

theorem tells_readStrings_iff {expected : Expectation} :
    Tells source (readStrings expected value) report ↔
      ((∀ start items, value ≠ .list start items) ∧
        Report.plain source .invalidArgument expected.message [value.node] = report) ∨
      ∃ start items before item after, value = .list start items ∧ items = before ++ item :: after ∧
        (∀ i ∈ before, ∃ start text, i = .string start text) ∧ (∀ start text, item ≠ .string start text) ∧
        Report.plain source .invalidArgument "String expected." [item.node] = report := by
  cases value with
  | literal item =>
    simp only [readStrings, tells_error_iff, ne_eq, reduceCtorEq, not_false_eq_true, implies_true, true_and,
      false_and, exists_false, or_false]
    rfl
  | list start items =>
    simp only [readStrings, tells_mapM_readLiteral_iff, tells_readLiteral_iff, ne_eq, Value.list.injEq]
    constructor
    · rintro ⟨before, item, after, rfl, hbefore, hitem, hreport⟩
      exact .inr ⟨start, _, before, item, after, ⟨rfl, rfl⟩, rfl, hbefore, hitem, hreport⟩
    · rintro (⟨hnot, -⟩ | ⟨_, _, before, item, after, ⟨-, rfl⟩, heq, hbefore, hitem, hreport⟩)
      · exact absurd ⟨rfl, rfl⟩ (hnot start items)
      · exact ⟨before, item, after, heq, hbefore, hitem, hreport⟩

theorem tells_readString_iff_refusesValue {kind : MarkKind} (hkind : kind = .ref ∨ kind = .file) :
    Tells source (readString value) report ↔ kind.RefusesValue source value report := by
  rw [tells_readString_iff]
  constructor
  · rintro ⟨h, rfl⟩
    exact .noString hkind h
  · intro h
    cases h with
    | noString _ h => exact ⟨h, rfl⟩
    | item hkind' => rcases hkind with rfl | rfl <;> simp at hkind'
    | _ => simp at hkind

theorem tells_readExtensions_iff_refusesValue :
    Tells source (readStrings .extensions value) report ↔ MarkKind.files.RefusesValue source value report := by
  rw [tells_readStrings_iff]
  constructor
  · rintro (⟨h, rfl⟩ | ⟨start, items, before, item, after, rfl, hitems, hbefore, hitem, rfl⟩)
    · exact .noExtensions h
    · exact .item (.inl rfl) hitems hbefore hitem
  · intro h
    cases h with
    | noString hkind => simp at hkind
    | noExtensions h => exact .inl ⟨h, rfl⟩
    | item _ hitems hbefore hitem => exact .inr ⟨_, _, _, _, _, rfl, hitems, hbefore, hitem, rfl⟩

theorem tells_readTags_iff_refusesValue :
    Tells source (readTags value) report ↔ MarkKind.tags.RefusesValue source value report := by
  -- an empty list is refused before its items are looked at
  have hread : (∃ start, value = .list start []) ∨ readTags value = readStrings .tags value := by
    match value with
    | .literal _ => exact .inr rfl
    | .list start [] => exact .inl ⟨start, rfl⟩
    | .list _ (_ :: _) => exact .inr rfl
  rcases hread with ⟨start, rfl⟩ | hread
  · rw [readTags, tells_error_iff]
    constructor
    · rintro rfl
      exact .emptyTags start
    · intro h
      cases h with
      | noString hkind => simp at hkind
      | noTags h => exact absurd rfl (h start [])
      | emptyTags => rfl
      | item _ hitems => simp at hitems
  · rw [hread, tells_readStrings_iff]
    constructor
    · rintro (⟨h, rfl⟩ | ⟨start, items, before, item, after, rfl, hitems, hbefore, hitem, rfl⟩)
      · exact .noTags h
      · exact .item (.inr rfl) hitems hbefore hitem
    · intro h
      cases h with
      | noString hkind => simp at hkind
      | noTags h => exact .inl ⟨h, rfl⟩
      | emptyTags start => cases hread
      | item _ hitems hbefore hitem => exact .inr ⟨_, _, _, _, _, rfl, hitems, hbefore, hitem, rfl⟩

theorem exists_spells_iff {spelling : String} {fine : Int → Prop} :
    (∃ n, Spells spelling n ∧ fine n) ↔
      Text.digitCount spelling ≤ Text.maxDigits ∧ fine (Text.integerOf spelling) := by
  constructor
  · rintro ⟨_, ⟨rfl, hlength⟩, hfine⟩
    exact ⟨hlength, hfine⟩
  · rintro ⟨hlength, hfine⟩
    exact ⟨_, ⟨rfl, hlength⟩, hfine⟩

/-- An integer is refused only where it can be read. -/
theorem readIndexBase_eq_problem_iff {p : Problem} :
    readIndexBase value = .error (.problem p) ↔
      (∀ start spelling, value = .literal (.int start spelling) → ∃ n, Spells spelling n ∧ n ≠ 0 ∧ n ≠ 1) ∧
        .unexpectedValue value.node .indexBase = p := by
  rw [(readIndexBase_reports value).eq_error_iff]
  match value with
  | .literal (.int start spelling) =>
    have hrefused : (∀ start' spelling', Value.literal (.int start spelling) = .literal (.int start' spelling') →
        ∃ n, Spells spelling' n ∧ n ≠ 0 ∧ n ≠ 1) ↔ ∃ n, Spells spelling n ∧ n ≠ 0 ∧ n ≠ 1 :=
      ⟨fun h => h start spelling rfl, fun h _ _ heq => by cases heq; exact h⟩
    rw [hrefused, exists_spells_iff, ← not_lt, ← not_or]
    unfold indexBaseViolations integerViolations
    by_cases hlong : Text.maxDigits < Text.digitCount spelling
    · simp [hlong]
    · by_cases hbase : Text.integerOf spelling = 0 ∨ Text.integerOf spelling = 1
      · simp [hlong, hbase]
      · simp [hlong, hbase]
  | .literal (.string _ _) => simp [indexBaseViolations]
  | .literal (.other _ _) => simp [indexBaseViolations]
  | .list _ _ => simp [indexBaseViolations]

theorem tells_readIndexBase_iff_refusesValue :
    Tells source (readIndexBase value) report ↔ MarkKind.indexing.RefusesValue source value report := by
  unfold Tells
  simp only [readIndexBase_eq_problem_iff]
  constructor
  · rintro ⟨_, ⟨h, rfl⟩, rfl⟩
    exact .noIndexBase h
  · intro h
    cases h with
    | noString hkind => simp at hkind
    | item hkind => simp at hkind
    | noIndexBase h => exact ⟨_, ⟨h, rfl⟩, rfl⟩

end Values

/-! ### Arguments -/

section Arguments

variable {α : Type} {source : Source} {report : Report} {kind : MarkKind} {d : Directive} {parameter : Parameter}
  {name : String} {read : Value → Except Fault α} {mark : α → Mark}

theorem readArgument_of_nil (h : d.arguments = []) :
    readArgument d parameter name read = .error (.problem (.missingArgument d parameter)) := by
  unfold readArgument
  rw [h]

theorem readArgument_of_name_ne {first : Argument} {others : List Argument} (h : d.arguments = first :: others)
    (hname : first.name.text ≠ name) :
    readArgument d parameter name read = .error (.problem (.unknownArgument first.name)) := by
  unfold readArgument
  rw [h]
  exact if_pos hname

theorem readArgument_of_error {first : Argument} {others : List Argument} {fault : Fault}
    (h : d.arguments = first :: others) (hname : first.name.text = name) (hfirst : read first.value = .error fault) :
    readArgument d parameter name read = .error fault := by
  unfold readArgument
  rw [h]
  dsimp only
  rw [if_neg (not_not_intro hname), hfirst]
  rfl

theorem readArgument_singleton {first : Argument} {x : α} (h : d.arguments = [first]) (hname : first.name.text = name)
    (hfirst : read first.value = .ok x) : readArgument d parameter name read = .ok x := by
  unfold readArgument
  rw [h]
  dsimp only
  rw [if_neg (not_not_intro hname), hfirst]
  rfl

/-- A second argument fails by its name, whichever it is. -/
theorem readArgument_of_second {first second : Argument} {others : List Argument} {x : α}
    (h : d.arguments = first :: second :: others) (hname : first.name.text = name)
    (hfirst : read first.value = .ok x) :
    readArgument d parameter name read =
      .error (.problem (if second.name.text = name then .duplicateArgument second.name
        else .unknownArgument second.name)) := by
  unfold readArgument
  rw [h]
  dsimp only
  rw [if_neg (not_not_intro hname), hfirst]
  by_cases hsecond : second.name.text = name
  · rw [if_pos hsecond]
    exact if_neg (not_not_intro hsecond)
  · rw [if_neg hsecond]
    exact if_pos hsecond

/-- An argument is taken exactly if it has the name and its value can be read. -/
theorem takes_iff (hread : ∀ d, kind.read d = mark <$> readArgument d parameter name read) (a : Argument) :
    kind.Takes a ↔ a.name.text = name ∧ ∃ x, read a.value = .ok x := by
  obtain ⟨⟨position, text⟩, value⟩ := a
  -- the directive with this argument alone
  let single : Directive := ⟨0, ⟨0, ""⟩, [⟨⟨position, text⟩, value⟩]⟩
  have hsingle : ∀ m : Mark, m.kind = kind ∧ m.WrittenWith single.arguments ↔
      text = name ∧ ∃ x, read value = .ok x ∧ mark x = m := by
    intro m
    rw [← MarkKind.read_eq_ok_iff, hread, map_readArgument_eq_ok_iff]
    simp [single]
  constructor
  · rintro ⟨m, hm⟩
    obtain ⟨hname, x, hx, -⟩ := (hsingle m).1 hm
    exact ⟨hname, x, hx⟩
  · rintro ⟨hname, x, hx⟩
    exact ⟨mark x, (hsingle (mark x)).2 ⟨hname, x, hx, rfl⟩⟩

/-- The rules for a directive that takes an argument, from those for its value. -/
theorem tells_read_iff_of_argument (hread : ∀ d, kind.read d = mark <$> readArgument d parameter name read)
    (hkind : kind.argument? = some (name, parameter.message))
    (hvalue : ∀ value report, Tells source (read value) report ↔ kind.RefusesValue source value report) :
    Tells source (kind.read d) report ↔ kind.Refuses source d report := by
  rw [hread, tells_map_iff]
  constructor
  · intro h
    cases harguments : d.arguments with
    | nil =>
      rw [readArgument_of_nil harguments, tells_error_iff] at h
      exact h ▸ .missing hkind harguments
    | cons first others =>
      by_cases hname : first.name.text = name
      · cases hfirst : read first.value with
        | error fault =>
          rw [readArgument_of_error harguments hname hfirst, ← hfirst, hvalue] at h
          exact .firstValue hkind harguments hname h
        | ok x =>
          have htakes := (takes_iff hread first).2 ⟨hname, x, hfirst⟩
          cases others with
          | nil =>
            rw [readArgument_singleton harguments hname hfirst] at h
            exact absurd h not_tells_ok
          | cons second others =>
            rw [readArgument_of_second harguments hname hfirst, tells_error_iff] at h
            by_cases hsecond : second.name.text = name
            · rw [if_pos hsecond] at h
              exact h ▸ .duplicate hkind harguments htakes hsecond
            · rw [if_neg hsecond] at h
              exact h ▸ .secondName hkind harguments htakes hsecond
      · rw [readArgument_of_name_ne harguments hname, tells_error_iff] at h
        exact h ▸ .firstName hkind harguments hname
  · intro h
    cases h with
    | arguments hnone => simp [hkind] at hnone
    | missing hkind' harguments =>
      cases hkind.symm.trans hkind'
      rw [readArgument_of_nil harguments]
      exact tells_error_iff.2 rfl
    | firstName hkind' harguments hname =>
      cases hkind.symm.trans hkind'
      rw [readArgument_of_name_ne harguments hname]
      exact tells_error_iff.2 rfl
    | firstValue hkind' harguments hname hrefuses =>
      cases hkind.symm.trans hkind'
      obtain ⟨p, hp, hreport⟩ := (hvalue _ report).2 hrefuses
      rw [readArgument_of_error harguments hname hp]
      exact tells_error_iff.2 hreport
    | secondName hkind' harguments htakes hsecond =>
      cases hkind.symm.trans hkind'
      obtain ⟨hname, x, hx⟩ := (takes_iff hread _).1 htakes
      rw [readArgument_of_second harguments hname hx, if_neg hsecond]
      exact tells_error_iff.2 rfl
    | duplicate hkind' harguments htakes hsecond =>
      cases hkind.symm.trans hkind'
      obtain ⟨hname, x, hx⟩ := (takes_iff hread _).1 htakes
      rw [readArgument_of_second harguments hname hx, if_pos hsecond]
      exact tells_error_iff.2 rfl

theorem tells_readNothing_iff (hkind : kind.argument? = none) :
    Tells source (readNothing d) report ↔ kind.Refuses source d report := by
  unfold readNothing
  constructor
  · intro h
    cases harguments : d.arguments with
    | nil =>
      rw [harguments] at h
      exact absurd h not_tells_ok
    | cons first others =>
      rw [harguments] at h
      have hrefuses : kind.Refuses source d _ := .arguments hkind (by simp [harguments])
      rw [harguments] at hrefuses
      exact tells_error_iff.1 h ▸ hrefuses
  · intro h
    cases h with
    | arguments _ hne =>
      cases harguments : d.arguments with
      | nil => exact absurd harguments hne
      | cons first others => exact tells_error_iff.2 rfl
    | _ hsome => simp [hkind] at hsome

theorem tells_read_iff : Tells source (kind.read d) report ↔ kind.Refuses source d report := by
  cases kind with
  | ref => exact tells_read_iff_of_argument (fun _ => rfl) rfl fun _ _ => tells_readString_iff_refusesValue (.inl rfl)
  | unique => exact tells_map_iff.trans (tells_readNothing_iff rfl)
  | localized => exact tells_map_iff.trans (tells_readNothing_iff rfl)
  | file => exact tells_read_iff_of_argument (fun _ => rfl) rfl fun _ _ => tells_readString_iff_refusesValue (.inr rfl)
  | files => exact tells_read_iff_of_argument (fun _ => rfl) rfl fun _ _ => tells_readExtensions_iff_refusesValue
  | indexing => exact tells_read_iff_of_argument (fun _ => rfl) rfl fun _ _ => tells_readIndexBase_iff_refusesValue
  | tags => exact tells_read_iff_of_argument (fun _ => rfl) rfl fun _ _ => tells_readTags_iff_refusesValue

end Arguments

/-! ### Directives -/

section Directives

variable {source : Source} {site : Site} {report : Report}

theorem tells_readMark_iff {d : Directive} :
    Tells source (readMark site d) report ↔ d.Refused source site report := by
  unfold readMark
  constructor
  · intro h
    cases hkind : site.kind? d.name.text with
    | none =>
      rw [hkind] at h
      obtain rfl := tells_error_iff.1 h
      refine .unknown fun kind hlegal hname => ?_
      have hsome := Site.kind?_eq_some_iff.2 ⟨hlegal, hname⟩
      rw [hkind] at hsome
      cases hsome
    | some kind =>
      rw [hkind] at h
      obtain ⟨hlegal, hname⟩ := Site.kind?_eq_some_iff.1 hkind
      exact .malformed hlegal hname (tells_read_iff.1 (tells_map_iff.1 h))
  · intro h
    cases h with
    | unknown hnone =>
      have hkind : site.kind? d.name.text = none := by
        rw [Option.eq_none_iff_forall_ne_some]
        intro kind hkind
        obtain ⟨hlegal, hname⟩ := Site.kind?_eq_some_iff.1 hkind
        exact hnone kind hlegal hname
      rw [hkind]
      exact tells_error_iff.2 rfl
    | malformed hlegal hname hrefuses =>
      rw [Site.kind?_eq_some_iff.2 ⟨hlegal, hname⟩]
      exact tells_map_iff.2 (tells_read_iff.2 hrefuses)

end Directives

/-- The directives of a site can be read exactly if all of them are well formed, and they give what they say, in order.
Otherwise the first one that is not well formed is told, by the rules, or it has an integer that is too long. -/
theorem readMarks_tells (site : Site) (directives : List Directive) :
    ((∃ marks, readMarks site directives = .ok marks) ↔ ∀ d ∈ directives, d.WellFormed site) ∧
      (∀ marks, readMarks site directives = .ok marks ↔
        List.Forall₂ (fun d a => a.directive = d ∧ d.Says a.mark ∧ a.mark.kind ∈ site.legal) directives marks) ∧
      (∀ source report,
        (∃ p, readMarks site directives = .error (.problem p) ∧ p.report source = report) ↔
          ∃ before d after, directives = before ++ d :: after ∧ (∀ b ∈ before, b.WellFormed site) ∧
            d.Refused source site report) ∧
      (∀ count, readMarks site directives = .error (.integerTooLong count) ↔ FirstTooLong site count directives) ∧
      ∀ fault, readMarks site directives = .error fault →
        (∃ p, fault = .problem p) ∨ ∃ count, fault = .integerTooLong count := by
  refine ⟨exists_readMarks_eq_ok_iff, fun marks => readMarks_eq_ok_iff, fun source report => ?_,
    fun count => readMarks_eq_integerTooLong_iff, fun fault h => ?_⟩
  · simp only [← tells_readMark_iff]
    exact tells_iff_of_split fun fault => readMarks_eq_error_iff
  · exact (exists_of_readMarks_eq_error h).imp_right fun ⟨count, hcount, _⟩ => ⟨count, hcount⟩

/-- Directives that cannot be read need not be told: one of them has an integer that is too long. -/
theorem not_readMarks_told :
    ¬ ∀ site directives, (∃ marks, readMarks site directives = .ok marks) ∨
      ∃ p, readMarks site directives = .error (.problem p) := by
  intro h
  have hlong : readMarks .enumeration [onesDirective (Text.maxDigits + 1)] = .error (.integerTooLong _) :=
    readMarks_eq_integerTooLong_iff.2 ⟨[], _, [], rfl, by simp, onesDirective_tooLong (Nat.lt_succ_self _)⟩
  rcases h .enumeration [onesDirective (Text.maxDigits + 1)] with ⟨marks, hmarks⟩ | ⟨p, hp⟩
  · cases hmarks.symm.trans hlong
  · cases hp.symm.trans hlong

-- the value of the first argument is told before the name of the second
example : readMark .table ⟨0, ⟨1, "tags"⟩, [⟨⟨6, "list"⟩, .list 12 [.string 13 "a", .int 18 "2"]⟩,
    ⟨⟨22, "other"⟩, .list 29 []⟩]⟩ = .error (.problem (.unexpectedValue ⟨.int, 18⟩ .string)) := by decide

end TableSchema
