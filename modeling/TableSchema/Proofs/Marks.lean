import TableSchema.Mark
import TableSchema.Proofs.FirstFinding

/-!
# What directives say

`Directive.Says d m` is the meaning of directives as they are written: the name of the mark, and exactly the arguments
that it is written with.

* (exactness) `readMark_eq_ok_iff`: reading a directive at a site gives the mark that it says, provided that the mark
  may stand there, and fails for every other directive;
* (findings) `readMarks_reports`: reading the directives of a site reports the first of all their violations, directive
  by directive and argument by argument;
* (look-up) `firstRef_eq_reference?` and `hasKind_eq_isSome_firstNamed`: among directives that could be read, looking
  for a mark and looking for a name come to the same.
-/

namespace TableSchema

open Syntax

/-! ### Meaning -/

/-- The values of a list that are strings with the given texts. -/
def AreTexts (items : List Literal) (texts : List String) : Prop :=
  List.Forall₂ (fun item text => ∃ start, item = .string start text) items texts

/-- A spelling of an integer that can be read. -/
structure Spells (spelling : String) (n : Int) : Prop where
  value : Text.integerOf spelling = n
  length : Text.digitCount spelling ≤ Text.maxDigits

/-- The arguments that a mark is written with. -/
inductive Mark.WrittenWith : Mark → List Argument → Prop
  | ref (position start : Nat) (column : String) :
    WrittenWith (.ref column) [⟨⟨position, "column"⟩, .literal (.string start column)⟩]
  | unique : WrittenWith .unique []
  | localized : WrittenWith .localized []
  | file (position start : Nat) (extension : String) :
    WrittenWith (.file extension) [⟨⟨position, "ext"⟩, .literal (.string start extension)⟩]
  | files (position start : Nat) {items : List Literal} {extensions : List String} (h : AreTexts items extensions) :
    WrittenWith (.files extensions) [⟨⟨position, "ext"⟩, .list start items⟩]
  | indexing (position start : Nat) {spelling : String} {first : Fin 2} (h : Spells spelling (first : Nat)) :
    WrittenWith (.indexing first) [⟨⟨position, "first"⟩, .literal (.int start spelling)⟩]
  | tags (position start : Nat) {items : List Literal} {tags : List String} (h : AreTexts items tags)
      (hne : tags ≠ []) :
    WrittenWith (.tags tags) [⟨⟨position, "list"⟩, .list start items⟩]

/-- A directive that says a mark: it has its name and is written with its arguments. -/
structure Syntax.Directive.Says (d : Directive) (m : Mark) : Prop where
  name : d.name.text = m.kind.name
  arguments : m.WrittenWith d.arguments

/-- A directive that says something that may be said at a site. -/
def Syntax.Directive.WellFormed (site : Site) (d : Directive) : Prop :=
  ∃ m, d.Says m ∧ m.kind ∈ site.legal

/-! ### Violations -/

/-- What is wrong with a value that should be a string. -/
def textViolations : Literal → List Fault
  | .string .. => []
  | value => [.problem (.unexpectedValue value.node .string)]

/-- What is wrong with an argument that should be a string. -/
def stringViolations : Value → List Fault
  | .literal value => textViolations value
  | value => [.problem (.unexpectedValue value.node .string)]

/-- What is wrong with an argument that should be a list of strings: every item that is none. -/
def stringsViolations (expected : Expectation) : Value → List Fault
  | .list _ items => items.flatMap textViolations
  | value => [.problem (.unexpectedValue value.node expected)]

/-- What is wrong with an argument that should be a list of at least one string. -/
def tagsViolations : Value → List Fault
  | .list start [] => [.problem (.noTags ⟨.list, start⟩)]
  | value => stringsViolations .tags value

/-- What is wrong with the spelling of an integer: that it is too long. -/
def integerViolations (spelling : String) : List Fault :=
  if Text.maxDigits < Text.digitCount spelling then [.integerTooLong (Text.digitCount spelling)] else []

/-- What is wrong with an argument that should be the number 0 or 1: that it is too long to be read, and that it is no
integer or another one. -/
def indexBaseViolations (value : Value) : List Fault :=
  match value with
  | .literal (.int _ spelling) =>
    integerViolations spelling ++
      if Text.integerOf spelling = 0 ∨ Text.integerOf spelling = 1 then []
      else [.problem (.unexpectedValue value.node .indexBase)]
  | _ => [.problem (.unexpectedValue value.node .indexBase)]

/-- What is wrong with an argument behind others: its name, or that the name came before, or else its value. -/
def argumentViolations (name : String) (find : Value → List Fault) (before : List Argument) (a : Argument) :
    List Fault :=
  if a.name.text ≠ name then [.problem (.unknownArgument a.name)]
  else if ∃ b ∈ before, b.name.text = name then [.problem (.duplicateArgument a.name)]
  else find a.value

/-- What is wrong with the arguments of a directive that takes a single one. -/
def singleViolations (d : Directive) (parameter : Parameter) (name : String) (find : Value → List Fault) :
    List Fault :=
  if d.arguments = [] then [.problem (.missingArgument d parameter)]
  else inOrder (argumentViolations name find) [] d.arguments

/-- What is wrong with the arguments of a directive that takes none. -/
def refusedViolations (d : Directive) : List Fault :=
  match d.arguments with
  | [] => []
  | first :: others => [.problem (.argumentsRefused first others)]

/-- What is wrong with the arguments of a directive of a kind. -/
def MarkKind.violations (kind : MarkKind) (d : Directive) : List Fault :=
  match kind with
  | ref => singleViolations d .referencedColumn "column" stringViolations
  | unique => refusedViolations d
  | localized => refusedViolations d
  | file => singleViolations d .extension "ext" stringViolations
  | files => singleViolations d .extensions "ext" (stringsViolations .extensions)
  | indexing => singleViolations d .indexBase "first" indexBaseViolations
  | tags => singleViolations d .tags "list" tagsViolations

/-- What is wrong with a directive at a site: that it may not stand there, or else its arguments. -/
def directiveViolations (site : Site) (d : Directive) : List Fault :=
  match site.kind? d.name.text with
  | none => [.problem (.unknownDirective d.name)]
  | some kind => kind.violations d

/-! ### Reading values -/

theorem readLiteral_eq_ok_iff {value : Literal} {text : String} :
    readLiteral value = .ok text ↔ ∃ start, value = .string start text := by
  cases value <;> simp [readLiteral]

theorem readString_eq_ok_iff {value : Value} {text : String} :
    readString value = .ok text ↔ ∃ start, value = .literal (.string start text) := by
  cases value with
  | literal value => simp [readString, readLiteral_eq_ok_iff]
  | list start items => simp [readString]

theorem readStrings_eq_ok_iff {expected : Expectation} {value : Value} {texts : List String} :
    readStrings expected value = .ok texts ↔ ∃ start items, value = .list start items ∧ AreTexts items texts := by
  cases value with
  | literal value => simp [readStrings]
  | list start items => simp [readStrings, mapM_eq_ok_iff, readLiteral_eq_ok_iff, AreTexts]

theorem readTags_eq_ok_iff {value : Value} {texts : List String} :
    readTags value = .ok texts ↔
      ∃ start items, value = .list start items ∧ AreTexts items texts ∧ texts ≠ [] := by
  match value with
  | .literal value => simp [readTags, readStrings]
  | .list start [] =>
    simp only [readTags, reduceCtorEq, false_iff, not_exists, not_and]
    rintro _ _ ⟨⟩ h hne
    cases h
    exact hne rfl
  | .list start (item :: items) =>
    rw [readTags, readStrings_eq_ok_iff]
    · constructor
      · rintro ⟨_, _, ⟨⟩, h⟩
        refine ⟨_, _, rfl, h, ?_⟩
        rintro rfl
        cases h
      · rintro ⟨_, _, hv, h, _⟩
        exact ⟨_, _, hv, h⟩
    · simp

theorem readInteger_eq_ok_iff {spelling : String} {n : Int} : readInteger spelling = .ok n ↔ Spells spelling n := by
  unfold readInteger
  constructor
  · intro h
    split at h
    · cases h
    · rename_i hlength
      exact ⟨Except.ok.inj h, Nat.le_of_not_lt hlength⟩
  · rintro ⟨rfl, hlength⟩
    exact if_neg (Nat.not_lt_of_le hlength)

/-- Reading an integer fails in one way only. -/
theorem readInteger_eq_error_iff {spelling : String} {e : Fault} :
    readInteger spelling = .error e ↔
      Text.maxDigits < Text.digitCount spelling ∧ .integerTooLong (Text.digitCount spelling) = e := by
  unfold readInteger
  split <;> simp [*]

theorem readIndexBase_eq_ok_iff {value : Value} {first : Fin 2} :
    readIndexBase value = .ok first ↔
      ∃ start spelling, value = .literal (.int start spelling) ∧ Spells spelling (first : Nat) := by
  match value with
  | .literal (.int start spelling) =>
    simp only [readIndexBase, bind_eq_ok_iff, readInteger_eq_ok_iff]
    constructor
    · rintro ⟨n, hspells, h⟩
      refine ⟨start, spelling, rfl, ?_⟩
      split at h
      · rename_i hzero
        cases h
        exact ⟨hspells.value.trans hzero, hspells.length⟩
      · split at h
        · rename_i hone
          cases h
          exact ⟨hspells.value.trans hone, hspells.length⟩
        · cases h
    · rintro ⟨_, _, ⟨⟩, hspells⟩
      refine ⟨_, hspells, ?_⟩
      match first with
      | 0 => rfl
      | 1 => rfl
  | .literal (.string _ _) => simp [readIndexBase]
  | .literal (.other _ _) => simp [readIndexBase]
  | .list _ _ => simp [readIndexBase]

theorem readLiteral_reports (value : Literal) : Reports (readLiteral value) (textViolations value) := by
  cases value with
  | string start text => exact .ok text
  | int start n => exact .error _ _
  | other start kind => exact .error _ _

theorem readString_reports (value : Value) : Reports (readString value) (stringViolations value) := by
  cases value with
  | literal value => exact readLiteral_reports value
  | list start items => exact .error _ _

theorem readStrings_reports (expected : Expectation) (value : Value) :
    Reports (readStrings expected value) (stringsViolations expected value) := by
  cases value with
  | literal value => exact .error _ _
  | list start items => exact .mapM fun item _ => readLiteral_reports item

theorem readTags_reports (value : Value) : Reports (readTags value) (tagsViolations value) := by
  match value with
  | .literal value => exact readStrings_reports .tags (.literal value)
  | .list start [] => exact .error _ _
  | .list start (item :: items) => exact readStrings_reports .tags (.list start (item :: items))

theorem readInteger_reports (spelling : String) : Reports (readInteger spelling) (integerViolations spelling) := by
  unfold readInteger integerViolations
  split
  · exact .error _ _
  · exact .ok _

theorem readIndexBase_reports (value : Value) : Reports (readIndexBase value) (indexBaseViolations value) := by
  match value with
  | .literal (.int start spelling) =>
    refine (readInteger_reports spelling).bind fun n hn => ?_
    rw [(readInteger_eq_ok_iff.1 hn).value]
    by_cases hzero : n = 0
    · rw [if_pos hzero, if_pos (.inl hzero)]
      exact .ok 0
    · rw [if_neg hzero]
      by_cases hone : n = 1
      · rw [if_pos hone, if_pos (.inr hone)]
        exact .ok 1
      · rw [if_neg hone, if_neg (not_or.2 ⟨hzero, hone⟩)]
        exact .error _ _
  | .literal (.string _ _) => exact .error _ _
  | .literal (.other _ _) => exact .error _ _
  | .list _ _ => exact .error _ _

/-! ### Reading arguments -/

section Arguments

variable {α : Type} {d : Directive} {parameter : Parameter} {name : String} {read : Value → Except Fault α}

/-- A single argument is read exactly if it stands alone, has the name and can be read itself. -/
theorem map_readArgument_eq_ok_iff {mark : α → Mark} {m : Mark} :
    mark <$> readArgument d parameter name read = .ok m ↔
      ∃ position value a, d.arguments = [⟨⟨position, name⟩, value⟩] ∧ read value = .ok a ∧ mark a = m := by
  unfold readArgument
  rw [map_eq_ok_iff]
  cases d.arguments with
  | nil => simp
  | cons first others =>
    obtain ⟨⟨position, text⟩, value⟩ := first
    by_cases hname : text = name
    · subst hname
      cases others with
      | nil => simp [bind_eq_ok_iff, Pure.pure, Except.pure]
      | cons second others =>
        by_cases hsecond : second.name.text = text <;>
          simp [hsecond, bind_eq_ok_iff, throw, throwThe, MonadExceptOf.throw]
    · simp [hname]

theorem readArgument_reports {find : Value → List Fault} (h : ∀ value, Reports (read value) (find value)) :
    Reports (readArgument d parameter name read) (singleViolations d parameter name find) := by
  unfold readArgument singleViolations
  cases d.arguments with
  | nil => exact .error _ _
  | cons first others =>
    rw [if_neg (List.cons_ne_nil _ _), inOrder]
    dsimp only
    by_cases hname : first.name.text = name
    · have hfirst : argumentViolations name find [] first = find first.value := by
        simp [argumentViolations, hname]
      rw [hfirst, if_neg (not_not_intro hname)]
      refine (h first.value).bind fun a _ => ?_
      -- a second argument fails whatever it holds, as the name of the first is taken
      cases others with
      | nil => exact .ok a
      | cons second others =>
        by_cases hsecond : second.name.text = name
        · simp only [inOrder, argumentViolations, hsecond, hname, List.nil_append, List.mem_singleton,
            exists_eq_left, ne_eq, not_true_eq_false, if_true, if_false]
          exact .error _ _
        · simp only [inOrder, argumentViolations, hsecond, ne_eq, not_false_eq_true, if_true]
          exact .error _ _
    · have hfirst : argumentViolations name find [] first = [.problem (.unknownArgument first.name)] := by
        simp [argumentViolations, hname]
      rw [hfirst, if_pos hname]
      exact .error _ _

end Arguments

/-! ### Reading marks -/

theorem MarkKind.name_injective {k k' : MarkKind} (h : k.name = k'.name) : k = k' := by
  cases k <;> cases k' <;> first | rfl | simp [MarkKind.name] at h

theorem MarkKind.read_eq_ok_iff {kind : MarkKind} {d : Directive} {m : Mark} :
    kind.read d = .ok m ↔ m.kind = kind ∧ m.WrittenWith d.arguments := by
  have hnothing : ∀ m', (fun _ => m') <$> readNothing d = .ok m ↔ d.arguments = [] ∧ m' = m := by
    intro m'
    unfold readNothing
    rw [map_eq_ok_iff]
    cases d.arguments <;> simp
  constructor
  · intro h
    cases kind with
    | ref =>
      obtain ⟨position, _, column, hargs, hvalue, rfl⟩ := map_readArgument_eq_ok_iff.1 h
      obtain ⟨start, rfl⟩ := readString_eq_ok_iff.1 hvalue
      exact ⟨rfl, hargs ▸ .ref position start column⟩
    | unique =>
      obtain ⟨hargs, rfl⟩ := (hnothing .unique).1 h
      exact ⟨rfl, hargs ▸ .unique⟩
    | localized =>
      obtain ⟨hargs, rfl⟩ := (hnothing .localized).1 h
      exact ⟨rfl, hargs ▸ .localized⟩
    | file =>
      obtain ⟨position, _, extension, hargs, hvalue, rfl⟩ := map_readArgument_eq_ok_iff.1 h
      obtain ⟨start, rfl⟩ := readString_eq_ok_iff.1 hvalue
      exact ⟨rfl, hargs ▸ .file position start extension⟩
    | files =>
      obtain ⟨position, _, extensions, hargs, hvalue, rfl⟩ := map_readArgument_eq_ok_iff.1 h
      obtain ⟨start, items, rfl, htexts⟩ := readStrings_eq_ok_iff.1 hvalue
      exact ⟨rfl, hargs ▸ .files position start htexts⟩
    | indexing =>
      obtain ⟨position, _, first, hargs, hvalue, rfl⟩ := map_readArgument_eq_ok_iff.1 h
      obtain ⟨start, spelling, rfl, hspells⟩ := readIndexBase_eq_ok_iff.1 hvalue
      exact ⟨rfl, hargs ▸ .indexing position start hspells⟩
    | tags =>
      obtain ⟨position, _, tags, hargs, hvalue, rfl⟩ := map_readArgument_eq_ok_iff.1 h
      obtain ⟨start, items, rfl, htexts, hne⟩ := readTags_eq_ok_iff.1 hvalue
      exact ⟨rfl, hargs ▸ .tags position start htexts hne⟩
  · rintro ⟨rfl, h⟩
    generalize hargs : d.arguments = arguments at h
    cases h with
    | ref position start column =>
      exact map_readArgument_eq_ok_iff.2 ⟨_, _, column, hargs, readString_eq_ok_iff.2 ⟨start, rfl⟩, rfl⟩
    | unique => exact (hnothing .unique).2 ⟨hargs, rfl⟩
    | localized => exact (hnothing .localized).2 ⟨hargs, rfl⟩
    | file position start extension =>
      exact map_readArgument_eq_ok_iff.2 ⟨_, _, extension, hargs, readString_eq_ok_iff.2 ⟨start, rfl⟩, rfl⟩
    | files position start htexts =>
      exact map_readArgument_eq_ok_iff.2 ⟨_, _, _, hargs, readStrings_eq_ok_iff.2 ⟨start, _, rfl, htexts⟩, rfl⟩
    | indexing position start hspells =>
      exact map_readArgument_eq_ok_iff.2 ⟨_, _, _, hargs, readIndexBase_eq_ok_iff.2 ⟨start, _, rfl, hspells⟩, rfl⟩
    | tags position start htexts hne =>
      exact map_readArgument_eq_ok_iff.2 ⟨_, _, _, hargs, readTags_eq_ok_iff.2 ⟨start, _, rfl, htexts, hne⟩, rfl⟩

theorem MarkKind.read_reports (kind : MarkKind) (d : Directive) : Reports (kind.read d) (kind.violations d) := by
  have hnothing : Reports (readNothing d) (refusedViolations d) := by
    unfold readNothing refusedViolations
    cases d.arguments with
    | nil => exact .ok ()
    | cons first others => exact .error _ _
  cases kind with
  | ref => exact (readArgument_reports readString_reports).map _
  | unique => exact hnothing.map _
  | localized => exact hnothing.map _
  | file => exact (readArgument_reports readString_reports).map _
  | files => exact (readArgument_reports (readStrings_reports .extensions)).map _
  | indexing => exact (readArgument_reports readIndexBase_reports).map _
  | tags => exact (readArgument_reports readTags_reports).map _

theorem Site.kind?_eq_some_iff {site : Site} {name : String} {kind : MarkKind} :
    site.kind? name = some kind ↔ kind ∈ site.legal ∧ kind.name = name := by
  constructor
  · intro h
    exact ⟨List.mem_of_find?_eq_some h, by simpa using List.find?_some h⟩
  · rintro ⟨hmem, rfl⟩
    revert hmem
    cases site <;> cases kind <;> decide

/-- A directive can be read exactly if it says something that may be said at the site. -/
theorem readMark_eq_ok_iff {site : Site} {d : Directive} {a : Marked} :
    readMark site d = .ok a ↔ a.directive = d ∧ d.Says a.mark ∧ a.mark.kind ∈ site.legal := by
  unfold readMark
  constructor
  · intro h
    cases hk : site.kind? d.name.text with
    | none => simp [hk] at h
    | some kind =>
      simp only [hk] at h
      cases hm : kind.read d with
      | error p => simp [hm, Functor.map, Except.map] at h
      | ok m =>
        simp only [hm, Functor.map, Except.map, Except.ok.injEq] at h
        subst h
        obtain ⟨hmem, hname⟩ := Site.kind?_eq_some_iff.1 hk
        obtain ⟨rfl, hargs⟩ := MarkKind.read_eq_ok_iff.1 hm
        exact ⟨rfl, ⟨hname.symm, hargs⟩, hmem⟩
  · obtain ⟨d', m⟩ := a
    rintro ⟨rfl, ⟨hname, hargs⟩, hmem⟩
    rw [Site.kind?_eq_some_iff.2 ⟨hmem, hname.symm⟩]
    simp [MarkKind.read_eq_ok_iff.2 ⟨rfl, hargs⟩, Functor.map, Except.map]

theorem readMark_reports (site : Site) (d : Directive) : Reports (readMark site d) (directiveViolations site d) := by
  unfold readMark directiveViolations
  cases site.kind? d.name.text with
  | none => exact .error _ _
  | some kind => exact (kind.read_reports d).map _

/-- Reading the directives of a site reports the first of all violations. -/
theorem readMarks_reports (site : Site) (directives : List Directive) :
    Reports (readMarks site directives) (directives.flatMap (directiveViolations site)) :=
  .mapM fun d _ => readMark_reports site d

theorem directiveViolations_eq_nil_iff {site : Site} {d : Directive} :
    directiveViolations site d = [] ↔ d.WellFormed site := by
  rw [← (readMark_reports site d).exists_ok_iff]
  constructor
  · rintro ⟨a, ha⟩
    obtain ⟨-, hsaid, hmem⟩ := readMark_eq_ok_iff.1 ha
    exact ⟨a.mark, hsaid, hmem⟩
  · rintro ⟨m, hsaid, hmem⟩
    exact ⟨⟨d, m⟩, readMark_eq_ok_iff.2 ⟨rfl, hsaid, hmem⟩⟩

theorem flatMap_directiveViolations_eq_nil_iff {site : Site} {directives : List Directive} :
    directives.flatMap (directiveViolations site) = [] ↔ ∀ d ∈ directives, d.WellFormed site := by
  simp only [List.flatMap_eq_nil_iff, directiveViolations_eq_nil_iff]

theorem exists_readMarks_eq_ok_iff {site : Site} {directives : List Directive} :
    (∃ marks, readMarks site directives = .ok marks) ↔ ∀ d ∈ directives, d.WellFormed site := by
  rw [(readMarks_reports site directives).exists_ok_iff, flatMap_directiveViolations_eq_nil_iff]

/-! ### Looking for marks and for names -/

/-- What is read at a site is the meaning of its directives, one by one. -/
theorem readMarks_eq_ok_iff {site : Site} {directives : List Directive} {marks : List Marked} :
    readMarks site directives = .ok marks ↔
      List.Forall₂ (fun d a => a.directive = d ∧ d.Says a.mark ∧ a.mark.kind ∈ site.legal) directives marks := by
  unfold readMarks
  rw [mapM_eq_ok_iff]
  simp only [readMark_eq_ok_iff]

/-- A directive says one thing only. -/
theorem Syntax.Directive.Says.unique {d : Directive} {m m' : Mark} (h : d.Says m) (h' : d.Says m') : m = m' := by
  have hkind : m'.kind = m.kind := MarkKind.name_injective (h'.name.symm.trans h.name)
  have hread := MarkKind.read_eq_ok_iff.2 ⟨rfl, h.arguments⟩
  have hread' := MarkKind.read_eq_ok_iff.2 ⟨hkind, h'.arguments⟩
  exact Except.ok.inj (hread.symm.trans hread')

/-- The column that a reference directive is written with. -/
def Syntax.Directive.column? (d : Directive) : Option String :=
  match d.arguments with
  | [⟨_, .literal (.string _ column)⟩] => some column
  | _ => none

/-- The first directive that is called a reference, with its column. -/
def reference? (directives : List Directive) : Option (Directive × String) :=
  (firstNamed MarkKind.ref.name directives).bind fun d => d.column?.map (d, ·)

theorem Syntax.Directive.Says.column?_eq {d : Directive} {column : String} (h : d.Says (.ref column)) :
    d.column? = some column := by
  obtain ⟨-, hargs⟩ := h
  unfold Directive.column?
  cases hargs' : d.arguments with
  | nil => rw [hargs'] at hargs; cases hargs
  | cons first others => rw [hargs'] at hargs; cases hargs; rfl

theorem hasKind_eq_isSome_firstNamed {site : Site} {directives : List Directive} {marks : List Marked}
    (h : readMarks site directives = .ok marks) (kind : MarkKind) :
    hasKind kind marks = (firstNamed kind.name directives).isSome := by
  have h' := readMarks_eq_ok_iff.1 h
  clear h
  induction h' with
  | nil => rfl
  | @cons d a ds marks hd _ ih =>
    obtain ⟨-, hsaid, -⟩ := hd
    unfold hasKind firstOf firstNamed at ih ⊢
    by_cases hk : a.mark.kind = kind
    · have hname : d.name.text = kind.name := hk ▸ hsaid.name
      simp [hk, hname]
    · have hname : d.name.text ≠ kind.name := fun e => hk (MarkKind.name_injective (hsaid.name.symm.trans e))
      simpa [hk, hname] using ih

theorem firstRef_eq_reference? {site : Site} {directives : List Directive} {marks : List Marked}
    (h : readMarks site directives = .ok marks) : firstRef marks = reference? directives := by
  have h' := readMarks_eq_ok_iff.1 h
  clear h
  induction h' with
  | nil => rfl
  | @cons d a ds marks hd _ ih =>
    obtain ⟨d, m⟩ := a
    obtain ⟨rfl, hsaid, -⟩ := hd
    have hsaid : d.Says m := hsaid
    by_cases hm : m.kind = .ref
    · obtain ⟨column, rfl⟩ : ∃ column, m = .ref column := by
        cases m <;> first | exact ⟨_, rfl⟩ | cases hm
      have hname : d.name.text = MarkKind.ref.name := hsaid.name
      show some (d, column) = _
      simp [reference?, firstNamed, hname, hsaid.column?_eq]
    · have hname : d.name.text ≠ MarkKind.ref.name := fun e => hm (MarkKind.name_injective (hsaid.name.symm.trans e))
      have hskip : firstRef (⟨d, m⟩ :: marks) = firstRef marks := by
        cases m <;> first | rfl | exact absurd rfl hm
      rw [hskip, ih]
      simp [reference?, firstNamed, hname]

theorem isSome_firstIndexing {site : Site} {directives : List Directive} {marks : List Marked}
    (h : readMarks site directives = .ok marks) :
    (firstIndexing marks).isSome = (firstNamed MarkKind.indexing.name directives).isSome := by
  rw [← hasKind_eq_isSome_firstNamed h .indexing]
  unfold firstIndexing hasKind firstOf
  clear h
  induction marks with
  | nil => rfl
  | cons a marks ih =>
    obtain ⟨d, m⟩ := a
    cases m <;> simp_all [Mark.kind]

end TableSchema
