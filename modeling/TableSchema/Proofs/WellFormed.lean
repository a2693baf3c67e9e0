import TableSchema.Proofs.Violations

/-!
# Well-formed documents

`WellFormed definitions` says which definitions make up a schema, without regard to the order in which they stand and
to the documents that they come from: what may be declared, under which names, and what each declaration has to
fulfil.  A field may name a table wherever it is declared, and its reference is judged by the declaration of the field
that it names.

Main statement: sources have a schema exactly if they can be parsed and their definitions together are well formed
(`exists_analyze_eq_ok_iff`).  It goes through the list of violations, which is empty for just these sources
(`documentViolations_eq_nil_iff`).
-/

namespace TableSchema

open Syntax Analysis

/-! ### Well-formed declarations -/

/-- A name that can stand for a type inside a table: the table's own, a reserved one, or a declared one. -/
def IsTypeName (definitions : List Definition) (table name : String) : Prop :=
  name = table ∨ name ∈ reservedNames ∨ (∃ t, .table t ∈ definitions ∧ t.name.text = name) ∨
    ∃ e, .enumeration e ∈ definitions ∧ e.name.text = name

/-- A field that references can name: a unique scalar. -/
structure Syntax.FieldDeclaration.IsTarget (field : FieldDeclaration) (scalar : Scalar) : Prop where
  type : ∃ start, field.type = .named start scalar.text
  unique : ∃ d ∈ field.directives, d.name.text = MarkKind.unique.name

/-- A field that fits into a table. -/
structure Syntax.FieldDeclaration.WellFormed (definitions : List Definition) (table : String)
    (field : FieldDeclaration) : Prop where
  directives : ∀ d ∈ field.directives, d.WellFormed .field
  type : ∃ array name, field.type.Declares array name ∧ IsTypeName definitions table name
  /-- The first reference names a target in the table that the type of the field names. -/
  reference : ∀ d column, firstNamed MarkKind.ref.name field.directives = some d → d.Says (.ref column) →
    ∃ array name target found scalar,
      field.type.Declares array name ∧ (name = table ∨ name ∉ reservedNames) ∧
        .table target ∈ definitions ∧ target.name.text = name ∧
        target.fields.find? (·.name.text = column) = some found ∧ found.IsTarget scalar

/-- A table that fits into a schema. -/
structure Syntax.TableDeclaration.WellFormed (definitions : List Definition) (t : TableDeclaration) : Prop where
  directives : ∀ d ∈ t.directives, d.WellFormed .table
  fields : ∀ field ∈ t.fields, field.WellFormed definitions t.name.text
  names : (t.fields.filterMap FieldDeclaration.columnName).Nodup

/-- An enumeration that fits into a schema. -/
structure Syntax.EnumerationDeclaration.WellFormed (e : EnumerationDeclaration) : Prop where
  directives : ∀ d ∈ e.directives, d.WellFormed .enumeration
  indexing : ∃ d ∈ e.directives, d.name.text = MarkKind.indexing.name
  names : (e.values.filterMap EnumeratorDeclaration.givenName).Nodup

/-- The name of the table that a definition declares. -/
def Syntax.Definition.tableName? (d : Definition) : Option String :=
  d.table?.map (·.name.text)

/-- The name of the enumeration that a definition declares. -/
def Syntax.Definition.enumerationName? (d : Definition) : Option String :=
  d.enumeration?.map (·.name.text)

/-- Definitions that make up a schema. -/
structure WellFormed (definitions : List Definition) : Prop where
  declarations : ∀ d ∈ definitions, (∃ t, d = .table t) ∨ ∃ e, d = .enumeration e
  tableNames : (definitions.filterMap Definition.tableName?).Nodup
  enumerationNames : (definitions.filterMap Definition.enumerationName?).Nodup
  tables : ∀ t, .table t ∈ definitions → t.WellFormed definitions
  enumerations : ∀ e, .enumeration e ∈ definitions → e.WellFormed

/-! ### Names of a catalog -/

section Names

variable {definitions : List (Sourced Definition)}

theorem tableNames_declared (definitions : List (Sourced Definition)) :
    (declared definitions).tableNames = (definitions.map (·.value)).filterMap Definition.tableName? := by
  simp only [Catalog.tableNames, declared, List.map_filterMap, List.filterMap_map, Option.map_map]
  rfl

theorem enumerationNames_declared (definitions : List (Sourced Definition)) :
    (declared definitions).enumerationNames = (definitions.map (·.value)).filterMap Definition.enumerationName? := by
  simp only [Catalog.enumerationNames, declared, List.map_filterMap, List.filterMap_map, Option.map_map]
  rfl

theorem mem_tableNames_declared {name : String} :
    name ∈ (declared definitions).tableNames ↔
      ∃ t, .table t ∈ definitions.map (·.value) ∧ t.name.text = name := by
  simp only [Catalog.tableNames, List.mem_map, mem_tables_declared]
  constructor
  · rintro ⟨t, ht, hname⟩
    exact ⟨t.value, ⟨_, ht, rfl⟩, hname⟩
  · rintro ⟨t, ⟨⟨source, _⟩, hd, rfl⟩, hname⟩
    exact ⟨⟨source, t⟩, hd, hname⟩

theorem mem_enumerationNames_declared {name : String} :
    name ∈ (declared definitions).enumerationNames ↔
      ∃ e, .enumeration e ∈ definitions.map (·.value) ∧ e.name.text = name := by
  simp only [Catalog.enumerationNames, List.mem_map, mem_enumerations_declared]
  constructor
  · rintro ⟨e, he, hname⟩
    exact ⟨e.value, ⟨_, he, rfl⟩, hname⟩
  · rintro ⟨e, ⟨⟨source, _⟩, hd, rfl⟩, hname⟩
    exact ⟨⟨source, e⟩, hd, hname⟩

theorem isTypeName_iff {table name : String} :
    IsTypeName (definitions.map (·.value)) table name ↔
      (meaning? (declared definitions) table name).isSome := by
  rw [isSome_meaning?_iff, mem_tableNames_declared, mem_enumerationNames_declared]
  rfl

/-- Without repeated names, what is found under a name is just what is declared with it. -/
theorem exists_table?_declared_iff (hnodup : (declared definitions).tableNames.Nodup) {name : String}
    {p : TableDeclaration → Prop} :
    (∃ t, (declared definitions).table? name = some t ∧ p t.value) ↔
      ∃ t, .table t ∈ definitions.map (·.value) ∧ t.name.text = name ∧ p t := by
  constructor
  · rintro ⟨t, ht, hp⟩
    obtain ⟨hmem, hname⟩ := Catalog.table?_eq_some ht
    exact ⟨t.value, List.mem_map.2 ⟨_, mem_tables_declared.1 hmem, rfl⟩, hname, hp⟩
  · rintro ⟨t, ht, rfl, hp⟩
    obtain ⟨⟨source, _⟩, hd, rfl⟩ := List.mem_map.1 ht
    have hmem : ⟨source, t⟩ ∈ (declared definitions).tables := mem_tables_declared.2 hd
    exact ⟨⟨source, t⟩, Catalog.table?_of_mem hnodup hmem, hp⟩

end Names

/-! ### Declarations without violations -/

theorem typeViolations_eq_nil_iff {definitions : List (Sourced Definition)} {table : String} {type : TypeExpr} :
    typeViolations (declared definitions) table type = [] ↔
      ∃ array name, type.Declares array name ∧ IsTypeName (definitions.map (·.value)) table name := by
  unfold typeViolations
  constructor
  · intro h
    cases hd : declaredType type with
    | error problem => simp [hd] at h
    | ok d =>
      refine ⟨d.array, d.name, declaredType_eq_ok_iff.1 hd, isTypeName_iff.2 ?_⟩
      by_contra hnot
      simp [hd, hnot] at h
  · rintro ⟨array, name, hd, hname⟩
    rw [declaredType_eq_ok_iff.2 hd]
    exact if_pos (isTypeName_iff.1 hname)

theorem isSome_firstNamed_iff {name : String} {directives : List Directive} :
    (firstNamed name directives).isSome ↔ ∃ d ∈ directives, d.name.text = name := by
  simp [firstNamed]

/-- A violation that is listed unless a condition holds. -/
private theorem unless_eq_nil_iff {α : Type} {p : Prop} [Decidable p] {a : α} :
    (if p then [] else [a]) = [] ↔ p := by
  split <;> simp [*]

/-- A target as the check of references sees it. -/
theorem Syntax.FieldDeclaration.isTarget_iff {field : FieldDeclaration} {scalar : Scalar} :
    field.IsTarget scalar ↔
      declaredType field.type = .ok ⟨false, scalar.text⟩ ∧
        (firstNamed MarkKind.unique.name field.directives).isSome := by
  have hscalar : scalar.text ≠ placeholder := by cases scalar <;> decide
  rw [declaredType_eq_ok_iff, isSome_firstNamed_iff]
  constructor
  · rintro ⟨⟨start, htype⟩, hunique⟩
    rw [htype]
    exact ⟨.single start hscalar, hunique⟩
  · rintro ⟨hdeclares, hunique⟩
    exact ⟨hdeclares.eq_named, hunique⟩

theorem targetViolations_eq_nil_iff {field : FieldDeclaration} :
    targetViolations field = [] ↔ ∃ scalar, field.IsTarget scalar := by
  simp only [FieldDeclaration.isTarget_iff]
  unfold targetViolations
  cases hd : declaredType field.type with
  | error problem => simp
  | ok d =>
    obtain ⟨array, name⟩ := d
    simp only [List.append_eq_nil_iff, unless_eq_nil_iff, isSome_ofName?_iff, Except.ok.injEq, DeclaredType.mk.injEq]
    constructor
    · rintro ⟨⟨harray, hunique⟩, s, hname⟩
      have hbare : array = false := by
        cases array with
        | true => simp at harray
        | false => rfl
      exact ⟨s, ⟨hbare, hname⟩, hunique⟩
    · rintro ⟨s, ⟨rfl, hname⟩, hunique⟩
      exact ⟨⟨if_neg (by decide), hunique⟩, s, hname⟩

theorem columnViolations_eq_nil_iff {catalog : Catalog} {d : Directive} {table column : String} :
    columnViolations catalog d table column = [] ↔
      ∃ target, catalog.table? table = some target ∧
        ∃ found, target.value.fields.find? (·.name.text = column) = some found ∧ ∃ scalar, found.IsTarget scalar := by
  unfold columnViolations
  cases catalog.table? table with
  | none => simp
  | some target =>
    simp only [Option.some.injEq, exists_eq_left']
    cases target.value.fields.find? (·.name.text = column) with
    | none => simp
    | some found => simp [targetViolations_eq_nil_iff]

/-- A well-formed directive with the name of a reference names a column. -/
theorem Syntax.Directive.WellFormed.exists_says_ref {site : Site} {d : Directive} (h : d.WellFormed site)
    (hname : d.name.text = MarkKind.ref.name) : ∃ column, d.Says (.ref column) := by
  obtain ⟨m, hsaid, -⟩ := h
  have hkind : m.kind = .ref := MarkKind.name_injective (hsaid.name.symm.trans hname)
  obtain ⟨column, rfl⟩ : ∃ column, m = .ref column := by
    cases m <;> first | exact ⟨_, rfl⟩ | cases hkind
  exact ⟨column, hsaid⟩

/-- Among well-formed directives the first reference is the first directive of that name, and says its column. -/
theorem reference?_eq_some_iff {directives : List Directive} (h : ∀ d ∈ directives, d.WellFormed .field)
    {d : Directive} {column : String} :
    reference? directives = some (d, column) ↔
      firstNamed MarkKind.ref.name directives = some d ∧ d.Says (.ref column) := by
  unfold reference?
  simp only [Option.bind_eq_some_iff, Option.map_eq_some_iff, Prod.mk.injEq]
  constructor
  · rintro ⟨_, hfirst, _, hcolumn, rfl, rfl⟩
    have hname := List.find?_some hfirst
    simp only [decide_eq_true_eq] at hname
    obtain ⟨c, hsaid⟩ := (h _ (List.mem_of_find?_eq_some hfirst)).exists_says_ref hname
    rw [hsaid.column?_eq] at hcolumn
    cases hcolumn
    exact ⟨hfirst, hsaid⟩
  · rintro ⟨hfirst, hsaid⟩
    exact ⟨d, hfirst, column, hsaid.column?_eq, rfl, rfl⟩

/-- There is a first reference exactly if there is a directive with that name. -/
theorem isSome_reference?_iff {directives : List Directive} (h : ∀ d ∈ directives, d.WellFormed .field) :
    (reference? directives).isSome ↔ ∃ d ∈ directives, d.name.text = MarkKind.ref.name := by
  rw [← isSome_firstNamed_iff]
  constructor
  · intro hsome
    obtain ⟨⟨d, column⟩, hr⟩ := Option.isSome_iff_exists.1 hsome
    rw [((reference?_eq_some_iff h).1 hr).1]
    rfl
  · intro hsome
    obtain ⟨d, hfirst⟩ := Option.isSome_iff_exists.1 hsome
    have hname := List.find?_some hfirst
    simp only [decide_eq_true_eq] at hname
    obtain ⟨column, hsaid⟩ := (h d (List.mem_of_find?_eq_some hfirst)).exists_says_ref hname
    rw [(reference?_eq_some_iff h).2 ⟨hfirst, hsaid⟩]
    rfl

section Declared

variable {definitions : List (Sourced Definition)}

theorem refViolations_eq_nil_iff (hnodup : (declared definitions).tableNames.Nodup) {table : String}
    {field : FieldDeclaration} (hdirectives : ∀ d ∈ field.directives, d.WellFormed .field)
    (htype : typeViolations (declared definitions) table field.type = []) :
    refViolations (declared definitions) table field = [] ↔
      ∀ d column, firstNamed MarkKind.ref.name field.directives = some d → d.Says (.ref column) →
        ∃ array name target found scalar,
          field.type.Declares array name ∧ (name = table ∨ name ∉ reservedNames) ∧
            .table target ∈ definitions.map (·.value) ∧ target.name.text = name ∧
            target.fields.find? (·.name.text = column) = some found ∧ found.IsTarget scalar := by
  obtain ⟨c, hc⟩ := (classify_reports (declared definitions) table field.type).exists_ok_iff.2 htype
  obtain ⟨name, hdeclares, hmeans⟩ := classify_eq_ok_iff.1 hc
  have htarget := hmeans.target_eq
  unfold refViolations
  rw [hc]
  cases hr : reference? field.directives with
  | none =>
    refine ⟨fun _ d column hfirst hsaid => ?_, fun _ => rfl⟩
    have hsome := (reference?_eq_some_iff hdirectives).2 ⟨hfirst, hsaid⟩
    rw [hr] at hsome
    cases hsome
  | some r =>
    obtain ⟨d, column⟩ := r
    obtain ⟨hfirst, hsaid⟩ := (reference?_eq_some_iff hdirectives).1 hr
    -- Either the name refers to a table, where the column is looked for, or to nothing at all.
    by_cases hrefers : name = table ∨ name ∉ reservedNames
    · rw [if_pos hrefers] at htarget
      simp only [htarget, List.map_eq_nil_iff, columnViolations_eq_nil_iff]
      rw [exists_table?_declared_iff hnodup
        (p := fun t => ∃ found, t.fields.find? (·.name.text = column) = some found ∧ ∃ s, found.IsTarget s)]
      constructor
      · rintro ⟨target, hmem, hname, found, hfound, scalar, his⟩ d' column' hfirst' hsaid'
        have hsome := (reference?_eq_some_iff hdirectives).2 ⟨hfirst', hsaid'⟩
        rw [hr] at hsome
        cases hsome
        exact ⟨c.array, name, target, found, scalar, hdeclares, hrefers, hmem, hname, hfound, his⟩
      · intro h
        obtain ⟨_, name', target, found, scalar, hdeclares', -, hmem, hname, hfound, his⟩ := h d column hfirst hsaid
        obtain ⟨-, rfl⟩ := hdeclares.unique hdeclares'
        exact ⟨target, hmem, hname, found, hfound, scalar, his⟩
    · rw [if_neg hrefers] at htarget
      simp only [htarget, List.cons_ne_nil, false_iff, not_forall]
      refine ⟨d, column, hfirst, hsaid, ?_⟩
      rintro ⟨_, name', _, _, _, hdeclares', hrefers', -⟩
      obtain ⟨-, rfl⟩ := hdeclares.unique hdeclares'
      exact hrefers hrefers'

theorem fieldViolations_eq_nil_iff (hnodup : (declared definitions).tableNames.Nodup) {table : String}
    {field : FieldDeclaration} :
    fieldViolations (declared definitions) table field = [] ↔
      field.WellFormed (definitions.map (·.value)) table := by
  unfold fieldViolations
  simp only [List.append_eq_nil_iff, List.map_eq_nil_iff, flatMap_directiveViolations_eq_nil_iff]
  constructor
  · rintro ⟨hdirectives, htype, href⟩
    exact ⟨hdirectives, typeViolations_eq_nil_iff.1 htype, (refViolations_eq_nil_iff hnodup hdirectives htype).1 href⟩
  · rintro ⟨hdirectives, htype, href⟩
    have htype := typeViolations_eq_nil_iff.2 htype
    exact ⟨hdirectives, htype, (refViolations_eq_nil_iff hnodup hdirectives htype).2 href⟩

/-- Nothing is wrong with fields that are well formed and whose names are different. -/
theorem inOrder_fieldViolations_eq_nil_iff (hnodup : (declared definitions).tableNames.Nodup) {table : String}
    {fields : List FieldDeclaration} :
    inOrder (fun before field => fieldViolations (declared definitions) table field ++ repeatedColumn before field) []
        fields = [] ↔
      (∀ field ∈ fields, field.WellFormed (definitions.map (·.value)) table) ∧
        (fields.filterMap FieldDeclaration.columnName).Nodup := by
  rw [inOrder_fields_eq_nil_iff]
  simp only [fieldViolations_eq_nil_iff hnodup]

theorem tableViolations_eq_nil_iff (hnodup : (declared definitions).tableNames.Nodup) {t : TableDeclaration} :
    tableViolations (declared definitions) t = [] ↔ t.WellFormed (definitions.map (·.value)) := by
  unfold tableViolations
  rw [List.append_eq_nil_iff, flatMap_directiveViolations_eq_nil_iff, inOrder_fieldViolations_eq_nil_iff hnodup]
  constructor
  · rintro ⟨hdirectives, hfields, hnames⟩
    exact ⟨hdirectives, hfields, hnames⟩
  · rintro ⟨hdirectives, hfields, hnames⟩
    exact ⟨hdirectives, hfields, hnames⟩

end Declared

theorem enumerationViolations_eq_nil_iff {e : EnumerationDeclaration} :
    enumerationViolations e = [] ↔ e.WellFormed := by
  unfold enumerationViolations
  rw [List.append_eq_nil_iff, flatMap_directiveViolations_eq_nil_iff, List.append_eq_nil_iff, unless_eq_nil_iff,
    isSome_firstNamed_iff, List.map_eq_nil_iff, repeatedEnumerator, inOrder_repetition_nil_eq_nil_iff]
  constructor
  · rintro ⟨hdirectives, hindexing, hnames⟩
    exact ⟨hdirectives, hindexing, hnames⟩
  · rintro ⟨hdirectives, hindexing, hnames⟩
    exact ⟨hdirectives, hindexing, hnames⟩

/-! ### Documents -/

theorem definitionViolations_nil_eq_nil_iff {d : Sourced Definition} :
    definitionViolations [] d = [] ↔ (∃ t, d.value = .table t) ∨ ∃ e, d.value = .enumeration e := by
  obtain ⟨source, definition⟩ := d
  cases definition <;> simp [definitionViolations, declared, Catalog.tableNames, Catalog.enumerationNames]

/-- A definition is fine behind others if it is so by itself and its name is new among those of its kind. -/
theorem definitionViolations_eq_nil_iff {before : List (Sourced Definition)} {d : Sourced Definition} :
    definitionViolations before d = [] ↔
      definitionViolations [] d = [] ∧ repetition (·.value.tableName?) id before d = [] ∧
        repetition (·.value.enumerationName?) id before d = [] := by
  rw [definitionViolations_nil_eq_nil_iff]
  obtain ⟨source, definition⟩ := d
  -- A definition of one kind has no name of the other, so only one of the repetitions says something.
  cases definition with
  | table t =>
    simp [definitionViolations, repetition, tableNames_declared, Definition.tableName?, Definition.enumerationName?,
      Definition.table?, Definition.enumeration?]
  | enumeration e =>
    simp [definitionViolations, repetition, enumerationNames_declared, Definition.tableName?,
      Definition.enumerationName?, Definition.table?, Definition.enumeration?]
  | other kind name start stop => simp [definitionViolations]

/-- Definitions can all be registered exactly if they are of the two kinds and no name of a kind comes twice. -/
theorem inOrder_definitionViolations_eq_nil_iff {definitions : List (Sourced Definition)} :
    inOrder (fun before d => (definitionViolations before d).map (Failure.problem d.source)) [] definitions = [] ↔
      (∀ d ∈ definitions, (∃ t, d.value = .table t) ∨ ∃ e, d.value = .enumeration e) ∧
        (declared definitions).tableNames.Nodup ∧ (declared definitions).enumerationNames.Nodup := by
  have hsplit : ∀ (before : List (Sourced Definition)) (d : Sourced Definition),
      (definitionViolations before d).map (Failure.problem d.source) = [] ↔
        definitionViolations [] d = [] ∧
          repetition (·.value.tableName?) id before d ++ repetition (·.value.enumerationName?) id before d = [] := by
    intro before d
    rw [List.map_eq_nil_iff, definitionViolations_eq_nil_iff, List.append_eq_nil_iff]
  rw [inOrder_eq_nil_iff_and hsplit, inOrder_eq_nil_iff_and fun before d => List.append_eq_nil_iff, inOrder_const,
    inOrder_repetition_nil_eq_nil_iff, inOrder_repetition_nil_eq_nil_iff, List.flatMap_eq_nil_iff, tableNames_declared,
    enumerationNames_declared, List.filterMap_map, List.filterMap_map]
  simp only [definitionViolations_nil_eq_nil_iff]
  rfl

theorem map_value_flatMap_definitionsOf (documents : List Document) :
    (documents.flatMap definitionsOf).map (·.value) = documents.flatMap (·.definitions) := by
  simp [List.map_flatMap, definitionsOf, Function.comp_def]

/-- Nothing is wrong with documents whose definitions together are well formed. -/
theorem documentViolations_eq_nil_iff {documents : List Document} :
    documentViolations documents = [] ↔ WellFormed (documents.flatMap (·.definitions)) := by
  rw [← map_value_flatMap_definitionsOf]
  unfold documentViolations
  set definitions := documents.flatMap definitionsOf
  simp only [List.append_eq_nil_iff, inOrder_definitionViolations_eq_nil_iff, List.flatMap_eq_nil_iff,
    List.map_eq_nil_iff, enumerationViolations_eq_nil_iff]
  constructor
  · rintro ⟨⟨hdeclarations, htableNames, henumerationNames⟩, htables, henumerations⟩
    refine ⟨List.forall_mem_map.2 hdeclarations, ?_, ?_, ?_, ?_⟩
    · rwa [tableNames_declared] at htableNames
    · rwa [enumerationNames_declared] at henumerationNames
    · intro t ht
      obtain ⟨⟨source, _⟩, hd, rfl⟩ := List.mem_map.1 ht
      exact (tableViolations_eq_nil_iff htableNames).1 (htables ⟨source, t⟩ (mem_tables_declared.2 hd))
    · intro e he
      obtain ⟨⟨source, _⟩, hd, rfl⟩ := List.mem_map.1 he
      exact henumerations ⟨source, e⟩ (mem_enumerations_declared.2 hd)
  · rintro ⟨hdeclarations, htableNames, henumerationNames, htables, henumerations⟩
    -- What is looked up in the catalog is what is declared, as no name comes twice.
    rw [← tableNames_declared] at htableNames
    rw [← enumerationNames_declared] at henumerationNames
    refine ⟨⟨List.forall_mem_map.1 hdeclarations, htableNames, henumerationNames⟩, ?_, ?_⟩
    · intro t ht
      have hmem : Definition.table t.value ∈ definitions.map (·.value) :=
        List.mem_map_of_mem (mem_tables_declared.1 ht)
      exact (tableViolations_eq_nil_iff htableNames).2 (htables t.value hmem)
    · intro e he
      have hmem : Definition.enumeration e.value ∈ definitions.map (·.value) :=
        List.mem_map_of_mem (mem_enumerations_declared.1 he)
      exact henumerations e.value hmem

/-- Parsing stops at the sources at which reading them as sources stops. -/
theorem mapM_parseSource_eq_ok_iff {sources : List Source} {documents : List Document} :
    sources.mapM parseSource = .ok documents ↔ sources.mapM parse = .ok documents := by
  have hone : ∀ source document, parseSource source = .ok document ↔ parse source = .ok document :=
    fun _ _ => mapError_eq_ok_iff
  simp only [mapM_eq_ok_iff, hone]

/-- The analysis of sources that can be parsed is that of their documents. -/
theorem analyze_eq_of_mapM_parse {sources : List Source} {documents : List Document}
    (h : sources.mapM parse = .ok documents) : analyze sources = (analyzeDocuments documents).outcome := by
  rw [analyze_eq_bind, mapM_parseSource_eq_ok_iff.2 h, outcome_analyzeDocuments_eq_bind]
  rfl

/-- Nothing is wrong with sources that can be parsed and whose definitions together are well formed. -/
theorem violations_eq_nil_iff {sources : List Source} :
    violations sources = [] ↔
      ∃ documents, sources.mapM parse = .ok documents ∧ WellFormed (documents.flatMap (·.definitions)) := by
  rw [violations, List.append_eq_nil_iff, ← (mapM_parseSource_reports sources).exists_ok_iff]
  simp only [← mapM_parseSource_eq_ok_iff]
  constructor
  · rintro ⟨⟨documents, hparse⟩, hnone⟩
    rw [mapM_parseSource hparse] at hnone
    exact ⟨documents, hparse, documentViolations_eq_nil_iff.1 hnone⟩
  · rintro ⟨documents, hparse, hwell⟩
    refine ⟨⟨documents, hparse⟩, ?_⟩
    rw [mapM_parseSource hparse]
    exact documentViolations_eq_nil_iff.2 hwell

/-- The schema of sources: their definitions are well formed, and it is what the catalog of them resolves to. -/
theorem analyze_eq_ok_iff {sources : List Source} {schema : Schema} :
    analyze sources = .ok schema ↔
      ∃ documents, sources.mapM parse = .ok documents ∧ WellFormed (documents.flatMap (·.definitions)) ∧
        (declared (documents.flatMap definitionsOf)).ResolvesTo schema := by
  constructor
  · intro h
    obtain ⟨documents, hparse, hwell⟩ := violations_eq_nil_iff.1 ((analyze_reports sources).exists_ok_iff.1 ⟨schema, h⟩)
    rw [analyze_eq_bind] at h
    obtain ⟨documents', hparse', h⟩ := bind_eq_ok_iff.1 h
    rw [mapM_parseSource_eq_ok_iff, hparse] at hparse'
    cases hparse'
    obtain ⟨catalog, hcatalog, hschema⟩ := bind_eq_ok_iff.1 h
    rw [(registerOne_foldlM_reports _).2 catalog hcatalog, outcome_schemaOf_eq_ok_iff] at hschema
    exact ⟨documents, hparse, hwell, hschema⟩
  · rintro ⟨documents, hparse, hwell, hschema⟩
    obtain ⟨hregister, hstate⟩ := registerOne_foldlM_reports (documents.flatMap definitionsOf)
    have hnone := documentViolations_eq_nil_iff.2 hwell
    obtain ⟨catalog, hcatalog⟩ := hregister.exists_ok_iff.2 (List.append_eq_nil_iff.1 hnone).1
    rw [hstate catalog hcatalog] at hcatalog
    rw [analyze_eq_bind]
    refine bind_eq_ok_iff.2 ⟨documents, mapM_parseSource_eq_ok_iff.2 hparse, ?_⟩
    exact bind_eq_ok_iff.2 ⟨_, hcatalog, outcome_schemaOf_eq_ok_iff.2 hschema⟩

/-- Sources can be analyzed exactly if all of them can be parsed and their definitions together are well formed. -/
theorem exists_analyze_eq_ok_iff (sources : List Source) :
    (∃ schema, analyze sources = .ok schema) ↔
      ∃ documents, sources.mapM parse = .ok documents ∧ WellFormed (documents.flatMap (·.definitions)) := by
  rw [(analyze_reports sources).exists_ok_iff, violations_eq_nil_iff]

end TableSchema
