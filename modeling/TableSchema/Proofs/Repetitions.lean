import TableSchema.Proofs.Lookup
import TableSchema.Proofs.Mirror
import TableSchema.Proofs.Refusals

/-!
# Repeated names

The fields of a table and the values of an enumeration are gone through in order, and a name may not come twice.  The
placeholder is no name and comes as often as it likes.  `FirstRepetition` is the first item that repeats a name.

* (tables) a field is resolved before its name is looked at, so a table stops either at the first repetition or at a
  field that fails, whichever comes first (`resolveTable_stops_at_first`);
* (enumerations) names are looked at behind the directives, and every value that is declared keeps its slot
  (`resolveEnumeration_keeps_slots`).
-/

namespace TableSchema

open Syntax

/-! ### The first repetition -/

section FirstRepetition

variable {α β κ : Type} {key : α → Option κ} {items before : List α} {a : α}

/-- The first item that has the key of an item before it.  `before` are the items before it; among them no key comes
twice. -/
structure FirstRepetition (key : α → Option κ) (items before : List α) (a : α) : Prop where
  split : ∃ after, items = before ++ a :: after
  distinct : (before.filterMap key).Nodup
  repeated : ∃ k, key a = some k ∧ ∃ b ∈ before, key b = some k

variable [DecidableEq κ] {report : α → β} {b : β}

theorem head?_repetition_eq_some_iff :
    (repetition key report before a).head? = some b ↔
      (∃ k, key a = some k ∧ ∃ c ∈ before, key c = some k) ∧ report a = b := by
  unfold repetition
  cases hk : key a with
  | none => simp
  | some k =>
    by_cases hmem : ∃ c ∈ before, key c = some k
    · simp [hmem]
    · simp [hmem]

theorem head?_inOrder_repetition_eq_some_iff :
    (inOrder (repetition key report) [] items).head? = some b ↔
      ∃ before a, FirstRepetition key items before a ∧ report a = b := by
  rw [head?_inOrder_eq_some_iff]
  simp only [inOrder_repetition_nil_eq_nil_iff, List.nil_append, head?_repetition_eq_some_iff]
  constructor
  · rintro ⟨before, a, after, hsplit, hdistinct, hrepeated, hreport⟩
    exact ⟨before, a, ⟨⟨after, hsplit⟩, hdistinct, hrepeated⟩, hreport⟩
  · rintro ⟨before, a, ⟨⟨after, hsplit⟩, hdistinct, hrepeated⟩, hreport⟩
    exact ⟨before, a, after, hsplit, hdistinct, hrepeated, hreport⟩

/-- If any item repeats a key, one is the first to do so. -/
theorem exists_firstRepetition_iff :
    (∃ before a, FirstRepetition key items before a) ↔
      ∃ before a after, items = before ++ a :: after ∧ ∃ k, key a = some k ∧ ∃ b ∈ before, key b = some k := by
  constructor
  · rintro ⟨before, a, ⟨⟨after, hsplit⟩, -, hrepeated⟩⟩
    exact ⟨before, a, after, hsplit, hrepeated⟩
  · rintro ⟨before, a, after, hsplit, hrepeated⟩
    have hhead : (repetition key id before a).head? = some a := head?_repetition_eq_some_iff.2 ⟨hrepeated, rfl⟩
    have hmem : a ∈ inOrder (repetition key id) [] items :=
      mem_inOrder_iff.2 ⟨before, a, after, hsplit, List.mem_of_mem_head? hhead⟩
    obtain ⟨first, hfirst⟩ := Option.isSome_iff_exists.1 (List.isSome_head?.2 (List.ne_nil_of_mem hmem))
    obtain ⟨before', a', h, -⟩ := head?_inOrder_repetition_eq_some_iff.1 hfirst
    exact ⟨before', a', h⟩

end FirstRepetition

/-! ### Columns -/

section Columns

theorem MarkKind.RefusesValue.kind_mem {source : Source} {kind : MarkKind} {value : Value} {report : Report}
    (h : kind.RefusesValue source value report) : report.finding.kind ∈ [.invalidArgument, .emptyList] := by
  cases h <;> simp [Report.plain]

/-- What is told of a refused directive has one of these kinds. -/
theorem Syntax.Directive.Refused.kind_mem {source : Source} {site : Site} {d : Directive} {report : Report}
    (h : d.Refused source site report) :
    report.finding.kind ∈ [.unknownDirective, .unknownArgument, .missingArgument, .duplicateArgument,
      .invalidArgument, .emptyList] := by
  cases h with
  | unknown _ => simp [Report.plain]
  | malformed _ _ h =>
    cases h with
    | firstValue _ _ _ hvalue =>
      have hkind := hvalue.kind_mem
      simp only [List.mem_cons, List.not_mem_nil, or_false] at hkind ⊢
      rcases hkind with hkind | hkind <;> simp [hkind]
    | _ => simp [Report.plain]

variable {catalog : Catalog} {table : String} {field : FieldDeclaration} {p : Problem}

theorem kind_of_readMarks_eq_error {site : Site} {directives : List Directive}
    (h : readMarks site directives = .error (.problem p)) : p.kind ≠ .duplicateColumn := by
  obtain ⟨_, d, _, -, -, hd⟩ := readMarks_eq_error_iff.1 h
  have hrefused : d.Refused ⟨"", "", ⟨1, 1⟩⟩ site _ := tells_readMark_iff.1 ⟨p, hd, rfl⟩
  intro hkind
  have hmem : p.kind ∈ _ := hrefused.kind_mem
  rw [hkind] at hmem
  simp at hmem

theorem kind_of_classify_eq_error {type : TypeExpr} (h : classify catalog table type = .error p) :
    p.kind ≠ .duplicateColumn := by
  unfold classify at h
  cases hdeclared : declaredType type with
  | error problem =>
    rw [hdeclared] at h
    cases h
    cases problem <;> simp [Problem.kind, TypeProblem.kind]
  | ok declared =>
    rw [hdeclared] at h
    cases hmeaning : meaning? catalog table declared.name with
    | none =>
      simp only [hmeaning] at h
      cases h
      simp [Problem.kind]
    | some meaning =>
      simp only [hmeaning] at h
      cases h

theorem kind_of_referencedType_eq_error {d : Directive} {column : String}
    (h : referencedType catalog d table column = .error p) : p.kind ≠ .duplicateColumn := by
  unfold referencedType at h
  split at h
  · cases h
    simp [Problem.kind]
  · split at h <;> cases h <;> simp [Problem.kind]

theorem kind_of_applyRef_eq_error {marks : List Marked} {c : Classification}
    (h : applyRef catalog field marks c = .error (.problem p)) : p.kind ≠ .duplicateColumn := by
  cases hfirst : firstRef marks with
  | none => simp [applyRef, hfirst] at h
  | some found =>
    obtain ⟨d, column⟩ := found
    cases htarget : c.target with
    | none => simp [applyRef, hfirst, htarget] at h
    | some target =>
      rw [applyRef_of_target hfirst htarget] at h
      cases hcheck : referencedType catalog d target column with
      | error problem =>
        rw [hcheck] at h
        cases h
        exact kind_of_referencedType_eq_error hcheck
      | ok scalar =>
        rw [hcheck] at h
        cases h

/-- A field by itself repeats nothing. -/
theorem kind_of_resolveColumn_eq_error (h : resolveColumn catalog table field = .error (.problem p)) :
    p.kind ≠ .duplicateColumn := by
  rcases bind_eq_error_iff.1 h with hmarks | ⟨marks, -, h⟩
  · exact kind_of_readMarks_eq_error hmarks
  rcases bind_eq_error_iff.1 h with hclass | ⟨c, -, h⟩
  · obtain ⟨_, hclass, ⟨⟩⟩ := mapError_eq_error_iff.1 hclass
    exact kind_of_classify_eq_error hclass
  rcases bind_eq_error_iff.1 h with href | ⟨_, -, h⟩
  · exact kind_of_applyRef_eq_error href
  · cases h

end Columns

/-! ### Tables -/

/-- A table where `field` is reached, resolves, and is the first to repeat a name. -/
structure Syntax.TableDeclaration.RepeatsAt (catalog : Catalog) (t : TableDeclaration) (before : List FieldDeclaration)
    (field : FieldDeclaration) : Prop where
  first : FirstRepetition FieldDeclaration.columnName t.fields before field
  resolve : ∀ f ∈ before ++ [field], ∃ column, resolveColumn catalog t.name.text f = .ok column

/-- A table where `field` is reached and fails. -/
structure Syntax.TableDeclaration.FailsAt (catalog : Catalog) (t : TableDeclaration) (before : List FieldDeclaration)
    (field : FieldDeclaration) (fault : Fault) : Prop where
  split : ∃ after, t.fields = before ++ field :: after
  distinct : (before.filterMap FieldDeclaration.columnName).Nodup
  resolve : ∀ f ∈ before, ∃ column, resolveColumn catalog t.name.text f = .ok column
  fails : resolveColumn catalog t.name.text field = .error fault

section Tables

variable {catalog : Catalog} {t : TableDeclaration} {fault : Fault}

/-- A table with fine directives stops at its first repetition or at the first field that fails. -/
theorem resolveTable_eq_error_iff (hdirectives : ∀ d ∈ t.directives, d.WellFormed .table) :
    resolveTable catalog t = .error fault ↔
      (∃ before field, t.RepeatsAt catalog before field ∧ fault = .problem (.duplicateColumn field.name)) ∨
        ∃ before field, t.FailsAt catalog before field fault := by
  have hrepeats : ∀ before field, (repeatedColumn before field).head? = some fault ↔ _ :=
    fun _ _ => head?_repetition_eq_some_iff
  rw [(resolveTable_reports catalog t).eq_error_iff, tableViolations,
    flatMap_directiveViolations_eq_nil_iff.2 hdirectives, List.nil_append, head?_inOrder_eq_some_iff]
  simp only [inOrder_fields_eq_nil_iff, List.nil_append, List.head?_append, Option.or_eq_some_iff,
    ← (resolveColumn_reports catalog t.name.text _).eq_error_iff, List.head?_eq_none_iff,
    ← (resolveColumn_reports catalog t.name.text _).exists_ok_iff, hrepeats]
  constructor
  · rintro ⟨before, field, after, hsplit, ⟨hresolve, hdistinct⟩, hfails | ⟨hfield, hrepeated, rfl⟩⟩
    · exact .inr ⟨before, field, ⟨after, hsplit⟩, hdistinct, hresolve, hfails⟩
    · refine .inl ⟨before, field, ⟨⟨⟨after, hsplit⟩, hdistinct, hrepeated⟩, ?_⟩, rfl⟩
      exact List.forall_mem_append.2 ⟨hresolve, List.forall_mem_singleton.2 hfield⟩
  · rintro (⟨before, field, ⟨⟨⟨after, hsplit⟩, hdistinct, hrepeated⟩, hresolve⟩, rfl⟩ |
      ⟨before, field, ⟨after, hsplit⟩, hdistinct, hresolve, hfails⟩)
    · obtain ⟨hresolve, hfield⟩ := List.forall_mem_append.1 hresolve
      exact ⟨before, field, after, hsplit, ⟨hresolve, hdistinct⟩,
        .inr ⟨hfield field List.mem_cons_self, hrepeated, rfl⟩⟩
    · exact ⟨before, field, after, hsplit, ⟨hresolve, hdistinct⟩, .inl hfails⟩

end Tables

/-- A table with fine directives fails with a repeated name exactly if it reaches one, and tells the first at its name,
whatever comes behind.  It fails as a field does where it reaches this field, whatever its name.  There is no other
failure; otherwise the columns are those of the fields, one by one, and no name but the placeholder comes twice. -/
theorem resolveTable_stops_at_first {t : TableDeclaration} (hdirectives : ∀ d ∈ t.directives, d.WellFormed .table)
    (catalog : Catalog) :
    ((∃ p, resolveTable catalog t = .error (.problem p) ∧ p.kind = .duplicateColumn) ↔
        ∃ before field, t.RepeatsAt catalog before field) ∧
      (∀ before field, t.RepeatsAt catalog before field →
        ∃ p, resolveTable catalog t = .error (.problem p) ∧ ∀ source, p.report source =
          .plain source .duplicateColumn s!"Duplicate column name \"{field.name.text}\"." [field.name.node]) ∧
      (∀ before field fault, t.FailsAt catalog before field fault → resolveTable catalog t = .error fault) ∧
      (∀ fault, resolveTable catalog t = .error fault →
        ∃ before field, t.RepeatsAt catalog before field ∨ t.FailsAt catalog before field fault) ∧
      ∀ columns, (∃ table, resolveTable catalog t = .ok table ∧ table.columns = columns) ↔
        (t.fields.filterMap FieldDeclaration.columnName).Nodup ∧
          List.Forall₂ (fun field column => resolveColumn catalog t.name.text field = .ok column) t.fields columns := by
  have herror : ∀ fault, resolveTable catalog t = .error fault ↔ _ := fun _ => resolveTable_eq_error_iff hdirectives
  have hrepeats : ∀ before field, t.RepeatsAt catalog before field →
      resolveTable catalog t = .error (.problem (.duplicateColumn field.name)) :=
    fun before field h => (herror _).2 (.inl ⟨before, field, h, rfl⟩)
  refine ⟨⟨?_, ?_⟩, ?_, ?_, ?_, fun columns => ⟨?_, ?_⟩⟩
  · rintro ⟨p, hp, hkind⟩
    rcases (herror _).1 hp with ⟨before, field, h, -⟩ | ⟨before, field, h⟩
    · exact ⟨before, field, h⟩
    · exact absurd hkind (kind_of_resolveColumn_eq_error h.fails)
  · rintro ⟨before, field, h⟩
    exact ⟨_, hrepeats before field h, rfl⟩
  · intro before field h
    exact ⟨_, hrepeats before field h, fun _ => rfl⟩
  · intro before field fault h
    exact (herror fault).2 (.inr ⟨before, field, h⟩)
  · intro fault h
    rcases (herror fault).1 h with ⟨before, field, h, -⟩ | ⟨before, field, h⟩
    · exact ⟨before, field, .inl h⟩
    · exact ⟨before, field, .inr h⟩
  · rintro ⟨table, htable, rfl⟩
    exact resolveFields_eq_ok_iff.1 (resolveTable_eq_ok_iff.1 htable).2.2
  · intro h
    obtain ⟨marks, hmarks⟩ := exists_readMarks_eq_ok_iff.2 hdirectives
    have htags : tagsOf t = .ok (firstTags marks) := map_eq_ok_iff.2 ⟨marks, hmarks, rfl⟩
    exact ⟨⟨t.name.text, _, columns⟩, resolveTable_eq_ok_iff.2 ⟨rfl, htags, resolveFields_eq_ok_iff.2 h⟩, rfl⟩

/-- Placeholders, a name that comes again, and behind it a field that means nothing. -/
theorem resolveTable_stops_at_first_repetition :
    ∃ (t : TableDeclaration) (before : List FieldDeclaration) (field unresolved : FieldDeclaration),
      t.fields = before ++ [field, unresolved] ∧ before.map (·.name.text) = ["_", "a", "_"] ∧ field.name.text = "a" ∧
        (∀ column, resolveColumn .empty t.name.text unresolved ≠ .ok column) ∧
        ∃ p, resolveTable .empty t = .error (.problem p) ∧ ∀ source, p.report source =
          .plain source .duplicateColumn s!"Duplicate column name \"{field.name.text}\"." [field.name.node] := by
  let placeholder (start : Nat) : FieldDeclaration := ⟨start, none, ⟨start, "_"⟩, [], .named (start + 3) "bool", []⟩
  let a (start : Nat) : FieldDeclaration := ⟨start, none, ⟨start, "a"⟩, [], .named (start + 3) "i32", []⟩
  let unresolved : FieldDeclaration := ⟨39, none, ⟨39, "b"⟩, [], .named 42 "Missing", []⟩
  let before : List FieldDeclaration := [placeholder 9, a 17, placeholder 24]
  let t : TableDeclaration := ⟨0, 51, none, ⟨5, "T"⟩, [], [], before ++ [a 32, unresolved]⟩
  have hfirst : FirstRepetition FieldDeclaration.columnName t.fields before (a 32) :=
    ⟨⟨[unresolved], rfl⟩, by decide, "a", rfl, a 17, by simp [before], rfl⟩
  have hresolve : ∀ f ∈ before ++ [a 32], ∃ column, resolveColumn .empty t.name.text f = .ok column := by
    simp only [before, List.cons_append, List.nil_append, List.forall_mem_cons]
    exact ⟨⟨_, rfl⟩, ⟨_, rfl⟩, ⟨_, rfl⟩, ⟨_, rfl⟩, by simp⟩
  have hunresolved : ∀ column, resolveColumn .empty t.name.text unresolved ≠ .ok column := by
    rintro column ⟨⟩
  obtain ⟨-, htold, -⟩ := @resolveTable_stops_at_first t (by simp [t]) .empty
  exact ⟨t, before, a 32, unresolved, rfl, rfl, rfl, hunresolved, htold before (a 32) ⟨hfirst, hresolve⟩⟩

/-! ### Enumerations -/

/-- What is told of an enumeration with fine directives: that the directive it must have is not there, or else the
first name that comes again. -/
inductive Syntax.EnumerationDeclaration.Refused (source : Source) (e : EnumerationDeclaration) : Report → Prop
  | missing (h : ∀ d ∈ e.directives, d.name.text ≠ MarkKind.indexing.name) :
    Refused source e
      (.plain source .missingIndexing "`indexing` directive is required for enums." [e.node])
  | repeated {before : List EnumeratorDeclaration} {value : EnumeratorDeclaration}
      (hindexing : ∃ d ∈ e.directives, d.name.text = MarkKind.indexing.name)
      (h : FirstRepetition EnumeratorDeclaration.givenName e.values before value) :
    Refused source e
      (.plain source .duplicateEnumerator s!"Duplicate enumerator \"{value.name.text}\"." [value.name.node])

/-- The slots of an enumeration: one for each value, without a name where the placeholder stands.  There are none if
the placeholder is all that is declared. -/
def Syntax.EnumerationDeclaration.slots (e : EnumerationDeclaration) : List (Option String) :=
  if e.values.map (·.name.text) = [placeholder] then []
  else e.values.map fun value => if value.name.text = placeholder then none else some value.name.text

/-- The number of an enumerator: the place of its name, counted from the number of the first enumerator. -/
def Enumeration.number? (e : Enumeration) (name : String) : Option Nat :=
  (e.enumerators.idxOf? (some name)).map ((e.indexing : Nat) + ·)

section Enumerations

variable {e e' : EnumerationDeclaration} {enumeration : Enumeration}

/-- An enumeration with fine directives needs the one that gives the indexing, and stops at its first repetition. -/
theorem resolveEnumeration_eq_error_iff (hdirectives : ∀ d ∈ e.directives, d.WellFormed .enumeration)
    {fault : Fault} :
    resolveEnumeration e = .error fault ↔
      ((∀ d ∈ e.directives, d.name.text ≠ MarkKind.indexing.name) ∧ fault = .problem (.missingIndexing e)) ∨
        (∃ d ∈ e.directives, d.name.text = MarkKind.indexing.name) ∧
          ∃ before value, FirstRepetition EnumeratorDeclaration.givenName e.values before value ∧
            .problem (.duplicateEnumerator value.name) = fault := by
  have hindexing := @isSome_firstNamed_iff MarkKind.indexing.name e.directives
  rw [(resolveEnumeration_reports e).eq_error_iff, enumerationViolations,
    flatMap_directiveViolations_eq_nil_iff.2 hdirectives, List.nil_append, repeatedEnumerator]
  by_cases hhas : ∃ d ∈ e.directives, d.name.text = MarkKind.indexing.name
  · have hnot : ¬ ∀ d ∈ e.directives, d.name.text ≠ MarkKind.indexing.name := by
      obtain ⟨d, hd, hname⟩ := hhas
      exact fun h => h d hd hname
    rw [if_pos (hindexing.2 hhas), List.nil_append, List.head?_map, Option.map_eq_some_iff]
    simp only [head?_inOrder_repetition_eq_some_iff]
    constructor
    · rintro ⟨_, ⟨before, value, hfirst, rfl⟩, rfl⟩
      exact .inr ⟨hhas, before, value, hfirst, rfl⟩
    · rintro (⟨hnone, -⟩ | ⟨-, before, value, hfirst, rfl⟩)
      · exact absurd hnone hnot
      · exact ⟨_, ⟨before, value, hfirst, rfl⟩, rfl⟩
  · have hnot : ∀ d ∈ e.directives, d.name.text ≠ MarkKind.indexing.name := fun d hd hname => hhas ⟨d, hd, hname⟩
    rw [if_neg (mt hindexing.1 hhas), List.singleton_append, List.head?_cons, Option.some.injEq]
    exact ⟨fun h => .inl ⟨hnot, h.symm⟩, fun h => (h.resolve_right fun hright => hhas hright.1).2.symm⟩

theorem tells_resolveEnumeration_iff (hdirectives : ∀ d ∈ e.directives, d.WellFormed .enumeration) {source : Source}
    {report : Report} : Tells source (resolveEnumeration e) report ↔ e.Refused source report := by
  constructor
  · rintro ⟨p, hp, rfl⟩
    rcases (resolveEnumeration_eq_error_iff hdirectives).1 hp with ⟨hnone, ⟨⟩⟩ | ⟨hhas, before, value, hfirst, ⟨⟩⟩
    · exact .missing hnone
    · exact .repeated hhas hfirst
  · intro h
    cases h with
    | missing hnone => exact ⟨_, (resolveEnumeration_eq_error_iff hdirectives).2 (.inl ⟨hnone, rfl⟩), rfl⟩
    | repeated hhas hfirst =>
      exact ⟨_, (resolveEnumeration_eq_error_iff hdirectives).2 (.inr ⟨hhas, _, _, hfirst, rfl⟩), rfl⟩

/-! #### Slots -/

theorem enumerators_eq_slots (h : resolveEnumeration e = .ok enumeration) : enumeration.enumerators = e.slots := by
  have hsingle : e.values.map EnumeratorDeclaration.givenName = [none] ↔
      e.values.map (·.name.text) = [placeholder] := by
    rw [← map_nameOf_eq_iff, List.map_map]
    rfl
  rw [enumerators_of_resolveEnumeration h]
  exact if_congr hsingle rfl rfl

/-- What an enumeration has to be to be the one that is declared. -/
structure Enumeration.Keeps (enumeration : Enumeration) (e : EnumerationDeclaration) : Prop where
  name : enumeration.name = e.name.text
  indexing : FirstSays .indexing .indexing e.directives (some enumeration.indexing)
  enumerators : enumeration.enumerators = e.slots

theorem Enumeration.Keeps.unique {other : Enumeration} (h : enumeration.Keeps e) (h' : other.Keeps e) :
    enumeration = other := by
  obtain ⟨name, indexing, enumerators⟩ := enumeration
  obtain ⟨name', indexing', enumerators'⟩ := other
  obtain rfl : name = name' := h.name.trans h'.name.symm
  obtain rfl : enumerators = enumerators' := h.enumerators.trans h'.enumerators.symm
  obtain rfl : indexing = indexing' :=
    Option.some.inj (h.indexing.unique (fun _ _ hmark => Mark.indexing.inj hmark) h'.indexing)
  rfl

theorem keeps_of_resolveEnumeration (h : resolveEnumeration e = .ok enumeration) : enumeration.Keeps e := by
  obtain ⟨marks, indexing, _, hmarks, hindexing, -, rfl⟩ := resolveEnumeration_eq_ok_iff.1 h
  exact ⟨rfl, hindexing ▸ firstIndexing_says hmarks, enumerators_eq_slots h⟩

theorem resolveEnumeration_eq_ok_iff_keeps (hdirectives : ∀ d ∈ e.directives, d.WellFormed .enumeration) :
    resolveEnumeration e = .ok enumeration ↔
      (e.values.filterMap EnumeratorDeclaration.givenName).Nodup ∧ enumeration.Keeps e := by
  have hresolves := (resolveEnumeration_reports e).exists_ok_iff.trans enumerationViolations_eq_nil_iff
  constructor
  · intro h
    exact ⟨(hresolves.1 ⟨_, h⟩).names, keeps_of_resolveEnumeration h⟩
  · rintro ⟨hdistinct, hkeeps⟩
    have hhas : ∃ d ∈ e.directives, d.name.text = MarkKind.indexing.name := by
      cases hkeeps.indexing with
      | present hfirst _ => exact isSome_firstNamed_iff.1 (Option.isSome_iff_exists.2 ⟨_, hfirst⟩)
    obtain ⟨found, h⟩ := hresolves.2 ⟨hdirectives, hhas, hdistinct⟩
    rw [h, hkeeps.unique (keeps_of_resolveEnumeration h)]

/-- A value with a name keeps more than a single placeholder. -/
theorem slots_of_named {i : Nat} {value : EnumeratorDeclaration} (hvalue : e.values[i]? = some value)
    (hname : value.name.text ≠ placeholder) : e.slots = e.values.map EnumeratorDeclaration.givenName := by
  refine if_neg fun hsingle => hname ?_
  have hmem : value.name.text ∈ e.values.map (·.name.text) := List.mem_map_of_mem (List.mem_of_getElem? hvalue)
  rw [hsingle] at hmem
  exact List.mem_singleton.1 hmem

/-- Items with a key that does not come twice are found at their place. -/
theorem idxOf?_map_of_nodup {α κ : Type} [DecidableEq κ] {key : α → Option κ} {items : List α} {i : Nat} {a : α} {k : κ}
    (h : (items.filterMap key).Nodup) (ha : items[i]? = some a) (hk : key a = some k) :
    (items.map key).idxOf? (some k) = some i := by
  obtain ⟨hi, rfl⟩ := List.getElem?_eq_some_iff.1 ha
  rw [List.idxOf?_eq_some_iff]
  refine ⟨by simpa using hi, by simpa using hk, fun j hj hsame => ?_⟩
  rw [List.getElem_map] at hsame
  have hdistinct := List.pairwise_iff_getElem.1 (List.pairwise_filterMap.1 h) j i (hj.trans hi) hi hj
  exact hdistinct k hsame k hk rfl

theorem number?_of_resolveEnumeration (h : resolveEnumeration e = .ok enumeration) {i : Nat}
    {value : EnumeratorDeclaration} (hvalue : e.values[i]? = some value) (hname : value.name.text ≠ placeholder) :
    enumeration.number? value.name.text = some ((enumeration.indexing : Nat) + i) := by
  have hdistinct := (enumerationViolations_eq_nil_iff.1 ((resolveEnumeration_reports e).exists_ok_iff.1 ⟨_, h⟩)).names
  have hgiven : value.givenName = some value.name.text := if_neg hname
  rw [Enumeration.number?, enumerators_eq_slots h, slots_of_named hvalue hname,
    idxOf?_map_of_nodup hdistinct hvalue hgiven, Option.map_some]

theorem slots_cases (e : EnumerationDeclaration) :
    (e.values.map (·.name.text) = [placeholder] ∧ e.slots = []) ∨
      (e.values.map (·.name.text) ≠ [placeholder] ∧ e.slots = (e.values.map (·.name.text)).map nameOf) := by
  unfold EnumerationDeclaration.slots
  split
  · exact .inl ⟨‹_›, rfl⟩
  · refine .inr ⟨‹_›, ?_⟩
    rw [List.map_map]
    rfl

theorem slots_ne_singleton (e : EnumerationDeclaration) : e.slots ≠ [none] := by
  rcases slots_cases e with ⟨-, hslots⟩ | ⟨hsingle, hslots⟩
  · simp [hslots]
  · rw [hslots]
    exact fun h => hsingle (map_nameOf_eq_iff.1 h)

/-- The slots and the number of values tell the names of the values. -/
theorem map_name_eq_of_slots_eq (h : e'.slots = e.slots) (hlength : e'.values.length = e.values.length) :
    e'.values.map (·.name.text) = e.values.map (·.name.text) := by
  -- only a single placeholder has fewer slots than values
  have hshort : ∀ {d : EnumerationDeclaration}, d.values.map (·.name.text) = [placeholder] → d.values.length = 1 := by
    intro d hsingle
    simpa using congrArg List.length hsingle
  rcases slots_cases e with ⟨hsingle, hslots⟩ | ⟨-, hslots⟩ <;>
    rcases slots_cases e' with ⟨hsingle', hslots'⟩ | ⟨-, hslots'⟩
  · rw [hsingle, hsingle']
  · rw [hslots, hslots', List.map_eq_nil_iff, List.map_eq_nil_iff] at h
    simp [h, hshort hsingle] at hlength
  · rw [hslots, hslots', eq_comm, List.map_eq_nil_iff, List.map_eq_nil_iff] at h
    simp [h, hshort hsingle'] at hlength
  · rw [hslots, hslots'] at h
    exact map_nameOf_eq_iff.1 h

/-- If any value of an enumeration that says its indexing repeats a name, this is what is wrong with it. -/
theorem exists_duplicateEnumerator_iff (hdirectives : ∀ d ∈ e.directives, d.WellFormed .enumeration) :
    (∃ p, resolveEnumeration e = .error (.problem p) ∧ p.kind = .duplicateEnumerator) ↔
      (∃ d ∈ e.directives, d.name.text = MarkKind.indexing.name) ∧
        ∃ before value after, e.values = before ++ value :: after ∧ value.name.text ≠ placeholder ∧
          ∃ v ∈ before, v.name.text = value.name.text := by
  have hrepeated : ∀ (before : List EnumeratorDeclaration) (value : EnumeratorDeclaration),
      (∃ k, value.givenName = some k ∧ ∃ v ∈ before, v.givenName = some k) ↔
        value.name.text ≠ placeholder ∧ ∃ v ∈ before, v.name.text = value.name.text := by
    intro before value
    simp only [EnumeratorDeclaration.givenName, nameOf_eq_some_iff]
    constructor
    · rintro ⟨k, ⟨hname, rfl⟩, v, hv, -, hsame⟩
      exact ⟨hname, v, hv, hsame⟩
    · rintro ⟨hname, v, hv, hsame⟩
      exact ⟨_, ⟨hname, rfl⟩, v, hv, hsame ▸ hname, hsame⟩
  simp only [← hrepeated, ← exists_firstRepetition_iff]
  constructor
  · rintro ⟨p, hp, hkind⟩
    rcases (resolveEnumeration_eq_error_iff hdirectives).1 hp with ⟨-, ⟨⟩⟩ | ⟨hhas, before, value, hfirst, -⟩
    · cases hkind
    · exact ⟨hhas, before, value, hfirst⟩
  · rintro ⟨hhas, before, value, hfirst⟩
    exact ⟨_, (resolveEnumeration_eq_error_iff hdirectives).2 (.inr ⟨hhas, before, value, hfirst, rfl⟩), rfl⟩

end Enumerations

/-- An enumeration with fine directives is refused by the rules and otherwise resolved, into what is declared.  A value
with a name has its own place for its number, whatever stands before it, and with the number of values the names of all
of them can be told from what it resolves into. -/
theorem resolveEnumeration_keeps_slots {e : EnumerationDeclaration}
    (hdirectives : ∀ d ∈ e.directives, d.WellFormed .enumeration) :
    (∀ source report, Tells source (resolveEnumeration e) report ↔ e.Refused source report) ∧
      (∀ fault, resolveEnumeration e = .error fault → ∃ p, fault = .problem p) ∧
      ((∃ p, resolveEnumeration e = .error (.problem p) ∧ p.kind = .duplicateEnumerator) ↔
        (∃ d ∈ e.directives, d.name.text = MarkKind.indexing.name) ∧
          ∃ before value after, e.values = before ++ value :: after ∧ value.name.text ≠ placeholder ∧
            ∃ v ∈ before, v.name.text = value.name.text) ∧
      (∀ enumeration, resolveEnumeration e = .ok enumeration ↔
        (e.values.filterMap EnumeratorDeclaration.givenName).Nodup ∧ enumeration.Keeps e) ∧
      ∀ enumeration, resolveEnumeration e = .ok enumeration →
        enumeration.enumerators ≠ [none] ∧
          (∀ i value, e.values[i]? = some value → value.name.text ≠ placeholder →
            enumeration.number? value.name.text = some ((enumeration.indexing : Nat) + i)) ∧
          ∀ e', resolveEnumeration e' = .ok enumeration → e'.values.length = e.values.length →
            e'.values.map (·.name.text) = e.values.map (·.name.text) := by
  refine ⟨fun source report => tells_resolveEnumeration_iff hdirectives, fun fault h => ?_,
    exists_duplicateEnumerator_iff hdirectives, fun enumeration => resolveEnumeration_eq_ok_iff_keeps hdirectives,
    fun enumeration h => ⟨?_, ?_, ?_⟩⟩
  · rcases (resolveEnumeration_eq_error_iff hdirectives).1 h with ⟨-, rfl⟩ | ⟨-, _, _, -, rfl⟩ <;> exact ⟨_, rfl⟩
  · rw [enumerators_eq_slots h]
    exact slots_ne_singleton e
  · intro i value hvalue hname
    exact number?_of_resolveEnumeration h hvalue hname
  · intro e' h' hlength
    exact map_name_eq_of_slots_eq ((enumerators_eq_slots h').symm.trans (enumerators_eq_slots h)) hlength

/-- Placeholders keep their slots, also in front of a name that comes again. -/
theorem resolveEnumeration_keeps_slots_of_placeholders :
    ∃ (e e' : EnumerationDeclaration) (enumeration : Enumeration) (again : EnumeratorDeclaration),
      e.values.map (·.name.text) = ["_", "A", "_", "B"] ∧ resolveEnumeration e = .ok enumeration ∧
        enumeration.indexing = 1 ∧ enumeration.enumerators = [none, some "A", none, some "B"] ∧
        enumeration.number? "B" = some 4 ∧ e'.values.map (·.name.text) = ["_", "A", "_", "A"] ∧
        e'.values[3]? = some again ∧ ∀ source, Tells source (resolveEnumeration e')
          (.plain source .duplicateEnumerator s!"Duplicate enumerator \"{again.name.text}\"." [again.name.node]) := by
  let value (start : Nat) (name : String) : EnumeratorDeclaration := ⟨start, none, ⟨start, name⟩, []⟩
  let d : Directive := ⟨7, ⟨8, "indexing"⟩, [⟨⟨17, "first"⟩, .literal (.int 24 "1")⟩]⟩
  let before : List EnumeratorDeclaration := [value 29 "_", value 31 "A", value 33 "_"]
  let e : EnumerationDeclaration := ⟨0, 38, none, ⟨5, "E"⟩, [d], before ++ [value 35 "B"]⟩
  let e' : EnumerationDeclaration := ⟨0, 38, none, ⟨5, "E"⟩, [d], before ++ [value 35 "A"]⟩
  have hsaid : d.Says (.indexing 1) := ⟨rfl, .indexing _ _ ⟨by decide, by decide⟩⟩
  have hdirectives : ∀ d' ∈ [d], d'.WellFormed .enumeration :=
    List.forall_mem_singleton.2 ⟨_, hsaid, List.mem_singleton.2 rfl⟩
  obtain ⟨-, -, -, hok, hthen⟩ := @resolveEnumeration_keeps_slots e hdirectives
  obtain ⟨htells, -⟩ := @resolveEnumeration_keeps_slots e' hdirectives
  have hresolves := (hok ⟨"E", 1, e.slots⟩).2 ⟨by decide, rfl, .present rfl hsaid, rfl⟩
  obtain ⟨-, hnumber, -⟩ := hthen _ hresolves
  have hfirst : FirstRepetition EnumeratorDeclaration.givenName e'.values before (value 35 "A") :=
    ⟨⟨[], rfl⟩, by decide, "A", rfl, value 31 "A", by simp [before], rfl⟩
  exact ⟨e, e', _, value 35 "A", rfl, hresolves, rfl, rfl, hnumber 3 (value 35 "B") rfl (by decide), rfl, rfl,
    fun source => (htells source _).2 (.repeated ⟨d, .head _, rfl⟩ hfirst)⟩

end TableSchema
