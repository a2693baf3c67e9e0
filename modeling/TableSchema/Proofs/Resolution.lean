import TableSchema.Analysis
import TableSchema.Proofs.FirstFinding

/-!
# What resolves into what

The parts of a schema against the declarations that they come from.

* (columns) `resolveColumn_eq_ok_iff` and `applyRef_eq_ok_iff` say which column a field resolves into, and
  `resolveFields_forall₂` that the columns of a table are those of its fields, one by one;
* (schemas) `Catalog.ResolvesTo` relates a catalog and the schema of its declarations, and `outcome_schemaOf_eq_ok_iff`
  says that this is what resolving it gives;
* (analysis) `analyze_eq_bind` is the analysis without its trace: parsing, registering and resolving in a row.
-/

namespace TableSchema

open Syntax Analysis

variable {catalog : Catalog}

/-! ### Columns and tables -/

/-- Without a reference directive a column has the type that its declaration means, and refers to no column.  With one
it has the type of the column that it refers to. -/
theorem applyRef_eq_ok_iff {field : FieldDeclaration} {marks : List Marked} {c : Classification} {type : ColumnType}
    {reference : Option Reference} :
    applyRef catalog field marks c = .ok (type, reference) ↔
      (firstRef marks = none ∧ type = c.type ∧ reference = c.target.map (⟨·, none⟩)) ∨
        ∃ directive column table scalar,
          firstRef marks = some (directive, column) ∧ c.target = some table ∧
            referencedType catalog directive table column = .ok scalar ∧ type = .scalar scalar ∧
            reference = some ⟨table, some column⟩ := by
  unfold applyRef
  cases firstRef marks with
  | none => simp [eq_comm]
  | some first =>
    obtain ⟨directive, column⟩ := first
    cases c.target with
    | none => simp
    | some table =>
      dsimp only
      cases hcheck : referencedType catalog directive table column with
      | error problem => simp [hcheck]
      | ok scalar => simp [hcheck, eq_comm]

/-- Where a type refers to a table, a reference gives what it gives there. -/
theorem applyRef_of_target {field : FieldDeclaration} {marks : List Marked} {c : Classification} {d : Directive}
    {column target : String} (hfirst : firstRef marks = some (d, column)) (htarget : c.target = some target) :
    applyRef catalog field marks c =
      (fun scalar => (.scalar scalar, some ⟨target, some column⟩)) <$>
        (referencedType catalog d target column).mapError Fault.problem := by
  unfold applyRef
  rw [hfirst, htarget]
  dsimp only
  cases referencedType catalog d target column <;> rfl

theorem resolveColumn_eq_ok_iff {table : String} {field : FieldDeclaration} {column : Column} :
    resolveColumn catalog table field = .ok column ↔
      ∃ marks c type reference,
        readMarks .field field.directives = .ok marks ∧ classify catalog table field.type = .ok c ∧
          applyRef catalog field marks c = .ok (type, reference) ∧
          column = {
            name := nameOf field.name.text
            description := field.description
            array := c.array
            type
            unique := hasKind .unique marks
            localized := hasKind .localized marks
            reference
            file := firstFile marks
            files := firstFiles marks } := by
  unfold resolveColumn
  simp only [bind_eq_ok_iff, mapError_eq_ok_iff, Prod.exists, Pure.pure, Except.pure, Except.ok.injEq]
  constructor
  · rintro ⟨marks, hmarks, c, hc, type, reference, href, rfl⟩
    exact ⟨marks, c, type, reference, hmarks, hc, href, rfl⟩
  · rintro ⟨marks, c, type, reference, hmarks, hc, href, rfl⟩
    exact ⟨marks, hmarks, c, hc, type, reference, href, rfl⟩

/-- The name that a field gives its column. -/
def Syntax.FieldDeclaration.columnName (field : FieldDeclaration) : Option String :=
  nameOf field.name.text

/-- The name that an enumerator gives. -/
def Syntax.EnumeratorDeclaration.givenName (value : EnumeratorDeclaration) : Option String :=
  nameOf value.name.text

theorem name_of_resolveColumn {table : String} {field : FieldDeclaration} {column : Column}
    (h : resolveColumn catalog table field = .ok column) : column.name = field.columnName := by
  obtain ⟨_, _, _, _, -, -, -, rfl⟩ := resolveColumn_eq_ok_iff.1 h
  rfl

/-- The columns of a table are those of its fields, one by one. -/
theorem resolveFields_forall₂ {table : String} {seen : List String} {fields : List FieldDeclaration}
    {columns : List Column} (h : resolveFields catalog table seen fields = .ok columns) :
    List.Forall₂ (fun field column => resolveColumn catalog table field = .ok column) fields columns := by
  induction fields generalizing seen columns with
  | nil =>
    cases h
    exact .nil
  | cons field fields ih =>
    rw [resolveFields, bind_eq_ok_iff] at h
    obtain ⟨column, hcolumn, h⟩ := h
    cases hname : column.name with
    | none =>
      simp only [hname] at h
      obtain ⟨rest, hrest, rfl⟩ := map_eq_ok_iff.1 h
      exact .cons hcolumn (ih hrest)
    | some name =>
      simp only [hname] at h
      by_cases hseen : name ∈ seen
      · simp [hseen, throw, throwThe, MonadExceptOf.throw, Bind.bind, Except.bind] at h
      · simp only [hseen, if_false] at h
        obtain ⟨rest, hrest, rfl⟩ := map_eq_ok_iff.1 h
        exact .cons hcolumn (ih hrest)

theorem resolveTable_eq_ok_iff {declaration : TableDeclaration} {table : Table} :
    resolveTable catalog declaration = .ok table ↔
      table.name = declaration.name.text ∧ tagsOf declaration = .ok table.tags ∧
        resolveFields catalog declaration.name.text [] declaration.fields = .ok table.columns := by
  obtain ⟨name, tags, columns⟩ := table
  unfold resolveTable
  simp only [bind_eq_ok_iff, Pure.pure, Except.pure, Except.ok.injEq, Table.mk.injEq]
  constructor
  · rintro ⟨_, htags, _, hcolumns, rfl, rfl, rfl⟩
    exact ⟨rfl, htags, hcolumns⟩
  · rintro ⟨rfl, htags, hcolumns⟩
    exact ⟨tags, htags, columns, hcolumns, rfl, rfl, rfl⟩

/-! ### Enumerations -/

theorem resolveEnumeration_eq_ok_iff {e : EnumerationDeclaration} {enumeration : Enumeration} :
    resolveEnumeration e = .ok enumeration ↔
      ∃ marks indexing enumerators,
        readMarks .enumeration e.directives = .ok marks ∧ firstIndexing marks = some indexing ∧
          resolveValues [] e.values = .ok enumerators ∧
          enumeration = ⟨e.name.text, indexing, if enumerators = [none] then [] else enumerators⟩ := by
  unfold resolveEnumeration
  rw [bind_eq_ok_iff]
  constructor
  · rintro ⟨marks, hmarks, h⟩
    cases hindexing : firstIndexing marks with
    | none =>
      rw [hindexing] at h
      cases h
    | some indexing =>
      rw [hindexing] at h
      obtain ⟨enumerators, hvalues, h⟩ := bind_eq_ok_iff.1 h
      cases h
      exact ⟨marks, indexing, enumerators, hmarks, hindexing, mapError_eq_ok_iff.1 hvalues, rfl⟩
  · rintro ⟨marks, indexing, enumerators, hmarks, hindexing, hvalues, rfl⟩
    refine ⟨marks, hmarks, ?_⟩
    rw [hindexing]
    exact bind_eq_ok_iff.2 ⟨enumerators, mapError_eq_ok_iff.2 hvalues, rfl⟩

theorem name_of_resolveEnumeration {e : EnumerationDeclaration} {enumeration : Enumeration}
    (h : resolveEnumeration e = .ok enumeration) : enumeration.name = e.name.text := by
  obtain ⟨_, _, _, -, -, -, rfl⟩ := resolveEnumeration_eq_ok_iff.1 h
  rfl

/-! ### Schemas -/

/-- A schema whose tables and enumerations are those of a catalog, resolved one by one. -/
structure Catalog.ResolvesTo (catalog : Catalog) (schema : Schema) : Prop where
  tables : List.Forall₂ (fun t table => resolveTable catalog t.value = .ok table) catalog.tables schema.tables
  enumerations :
    List.Forall₂ (fun e enumeration => resolveEnumeration e.value = .ok enumeration) catalog.enumerations
      schema.enumerations

/-- Counterparts with the same keys have the same list of keys. -/
theorem map_eq_map_of_forall₂ {α β κ : Type} {related : α → β → Prop} {key : α → κ} {key' : β → κ} {as : List α}
    {bs : List β} (h : List.Forall₂ related as bs) (hkey : ∀ a b, related a b → key' b = key a) :
    bs.map key' = as.map key := by
  induction h with
  | nil => rfl
  | cons hfirst _ ih => rw [List.map_cons, List.map_cons, hkey _ _ hfirst, ih]

/-- The tables of a schema have the declared names, in the order of the declarations. -/
theorem Catalog.ResolvesTo.tableNames_eq {schema : Schema} (h : catalog.ResolvesTo schema) :
    schema.tables.map (·.name) = catalog.tableNames :=
  map_eq_map_of_forall₂ h.tables fun _ _ hresolve => (resolveTable_eq_ok_iff.1 hresolve).1

/-- The enumerations of a schema have the declared names, in the order of the declarations. -/
theorem Catalog.ResolvesTo.enumerationNames_eq {schema : Schema} (h : catalog.ResolvesTo schema) :
    schema.enumerations.map (·.name) = catalog.enumerationNames :=
  map_eq_map_of_forall₂ h.enumerations fun _ _ hresolve => name_of_resolveEnumeration hresolve

/-- Every column of a schema is what a field resolves into in its table. -/
theorem Catalog.ResolvesTo.exists_field {schema : Schema} (h : catalog.ResolvesTo schema) {table : Table}
    (ht : table ∈ schema.tables) {column : Column} (hc : column ∈ table.columns) :
    ∃ field, resolveColumn catalog table.name field = .ok column := by
  obtain ⟨declaration, -, htable⟩ := exists_of_forall₂_of_mem h.tables ht
  obtain ⟨hname, -, hcolumns⟩ := resolveTable_eq_ok_iff.1 htable
  obtain ⟨field, -, hcolumn⟩ := exists_of_forall₂_of_mem (resolveFields_forall₂ hcolumns) hc
  exact ⟨field, by rw [hname]; exact hcolumn⟩

theorem outcome_schemaOf (catalog : Catalog) :
    (schemaOf catalog).outcome = (do
      let tables ← catalog.tables.mapM (tableOf catalog)
      let enumerations ← catalog.enumerations.mapM enumerationOf
      return ⟨tables, enumerations⟩) := by
  simp only [schemaOf, Run.outcome_bind, Run.outcome_each, Run.outcome_pure]
  rfl

theorem outcome_schemaOf_eq_ok_iff {schema : Schema} :
    (schemaOf catalog).outcome = .ok schema ↔ catalog.ResolvesTo schema := by
  have htable : ∀ t table, tableOf catalog t = .ok table ↔ resolveTable catalog t.value = .ok table :=
    fun _ _ => mapError_eq_ok_iff
  have henumeration : ∀ e enumeration,
      enumerationOf e = .ok enumeration ↔ resolveEnumeration e.value = .ok enumeration :=
    fun _ _ => mapError_eq_ok_iff
  rw [outcome_schemaOf]
  simp only [bind_eq_ok_iff, mapM_eq_ok_iff, htable, henumeration, Pure.pure, Except.pure, Except.ok.injEq]
  constructor
  · rintro ⟨tables, htables, enumerations, henumerations, rfl⟩
    exact ⟨htables, henumerations⟩
  · rintro ⟨htables, henumerations⟩
    exact ⟨_, htables, _, henumerations, rfl⟩

/-! ### Analysis -/

/-- What is noted of a failure does not change the outcome. -/
theorem outcome_analyzeSources (sources : List Source) : (analyzeSources sources).outcome = analyze sources := by
  unfold analyze Analysis.run
  cases h : (analyzeSources sources).outcome <;> simp [h]

/-- The analysis without its trace. -/
theorem analyze_eq_bind (sources : List Source) :
    analyze sources = (do
      let documents ← sources.mapM parseSource
      let catalog ← (documents.flatMap definitionsOf).foldlM registerOne .empty
      (schemaOf catalog).outcome) := by
  -- What is noted at the end does not change the outcome.
  have hsummary : ∀ r : Except Failure Schema,
      (r >>= fun schema => (.ok () : Except Failure Unit) >>= fun _ => .ok schema) = r := by
    intro r
    cases r <;> rfl
  rw [← outcome_analyzeSources]
  simp only [analyzeSources, analyzeDocuments, parseSources, catalogOf, Run.outcome_bind, Run.outcome_each,
    Run.outcome_fold, Run.outcome_note, Run.outcome_pure, hsummary]

/-- The analysis of documents without its trace. -/
theorem outcome_analyzeDocuments_eq_bind (documents : List Document) :
    (analyzeDocuments documents).outcome = (do
      let catalog ← (documents.flatMap definitionsOf).foldlM registerOne .empty
      (schemaOf catalog).outcome) := by
  rw [analyzeDocuments, Run.outcome_bind, catalogOf, Run.outcome_fold]

end TableSchema
