import TableSchema.Report
import TableSchema.Proofs.Catalog
import TableSchema.Proofs.LongIntegers

/-!
# The first violation

`violations sources` lists everything that is wrong with a list of sources, in the order in which it counts, and goes
on after a violation as if it were none.  The order is

1. the syntax errors of all sources;
2. the definitions, document by document, that are neither a table nor an enumeration or that repeat a name of their
   kind;
3. the tables, each with its directives and then its fields, each of these with its directives, its declared type, its
   first reference and last its name;
4. the enumerations, each with its directives, the directive that it must have, and its enumerators.

An integer that is too long to be read counts where its value would.

Main statement: the analysis, which stops where it fails, tells the first of these violations (`analyze_reports`).
-/

namespace TableSchema

open Syntax Analysis

/-! ### Violations of a field -/

/-- What is wrong with a declared type: its form, or else a name that means nothing. -/
def typeViolations (catalog : Catalog) (table : String) (type : TypeExpr) : List Problem :=
  match declaredType type with
  | .error problem => [.declaredType problem]
  | .ok declared =>
    if (meaning? catalog table declared.name).isSome then [] else [.unresolvedType type declared.name]

/-- What is wrong with a field as the target of a reference: its form, or else that it is an array, that it is not
unique, and that it is no scalar. -/
def targetViolations (field : FieldDeclaration) : List TargetProblem :=
  match declaredType field.type with
  | .error problem => [.declaredType problem]
  | .ok declared =>
    (if declared.array then [.array field.type] else [])
      ++ (if (firstNamed MarkKind.unique.name field.directives).isSome then [] else [.notUnique field])
      ++ (if (Scalar.ofName? declared.name).isSome then [] else [.notScalar field.type])

/-- What is wrong with a column of a table as the target of a reference directive. -/
def columnViolations (catalog : Catalog) (directive : Directive) (table column : String) : List Problem :=
  match catalog.table? table with
  | none => [.columnNotFound directive table column]
  | some target =>
    match target.value.fields.find? (·.name.text = column) with
    | none => [.columnNotFound directive table column]
    | some field => (targetViolations field).map (.invalidTarget directive target.source)

/-- What is wrong with the first reference directive of a field.  It needs a declared type that means something, and
nothing is said about it otherwise. -/
def refViolations (catalog : Catalog) (table : String) (field : FieldDeclaration) : List Fault :=
  match reference? field.directives, classify catalog table field.type with
  | some (directive, column), .ok c =>
    match c.target with
    | none => [.refWithoutTable field.name.text]
    | some target => (columnViolations catalog directive target column).map .problem
  | _, _ => []

/-- What is wrong with a field of a table by itself. -/
def fieldViolations (catalog : Catalog) (table : String) (field : FieldDeclaration) : List Fault :=
  field.directives.flatMap (directiveViolations .field)
    ++ ((typeViolations catalog table field.type).map .problem ++ refViolations catalog table field)

/-- What is wrong with a field behind others: that its name came before. -/
def repeatedColumn : List FieldDeclaration → FieldDeclaration → List Fault :=
  repetition FieldDeclaration.columnName fun field => .problem (.duplicateColumn field.name)

/-! ### Violations of a source -/

/-- What is wrong with a table. -/
def tableViolations (catalog : Catalog) (t : TableDeclaration) : List Fault :=
  t.directives.flatMap (directiveViolations .table)
    ++ inOrder (fun before field => fieldViolations catalog t.name.text field ++ repeatedColumn before field) []
      t.fields

/-- What is wrong with an enumerator behind others: that its name came before. -/
def repeatedEnumerator : List EnumeratorDeclaration → EnumeratorDeclaration → List Problem :=
  repetition EnumeratorDeclaration.givenName fun value => .duplicateEnumerator value.name

/-- What is wrong with an enumeration. -/
def enumerationViolations (e : EnumerationDeclaration) : List Fault :=
  e.directives.flatMap (directiveViolations .enumeration)
    ++ ((if (firstNamed MarkKind.indexing.name e.directives).isSome then [] else [.problem (.missingIndexing e)])
      ++ (inOrder repeatedEnumerator [] e.values).map .problem)

/-- What is wrong with a definition behind others: that its name came before, or that it is none of the two. -/
def definitionViolations (before : List (Sourced Definition)) (d : Sourced Definition) : List Problem :=
  match d.value with
  | .table t => if t.name.text ∈ (declared before).tableNames then [.duplicateTable t.name] else []
  | .enumeration e =>
    if e.name.text ∈ (declared before).enumerationNames then [.duplicateEnumeration e.name] else []
  | .other .. => [.unsupportedDefinition d.value]

/-- The document in a source, if there is one. -/
def Syntax.Source.document? (source : Source) : Option Document :=
  (parse source).toOption

/-- What is wrong with the syntax of a source. -/
def syntaxViolations (source : Source) : List Failure :=
  match parse source with
  | .ok _ => []
  | .error e => [.syntaxError source e]

/-- All violations of documents, in the order in which they count. -/
def documentViolations (documents : List Document) : List Failure :=
  let definitions := documents.flatMap definitionsOf
  let catalog := declared definitions
  inOrder (fun before d => (definitionViolations before d).map (.problem d.source)) [] definitions
    ++ (catalog.tables.flatMap (fun t => (tableViolations catalog t.value).map (·.inSource t.source))
      ++ catalog.enumerations.flatMap fun e => (enumerationViolations e.value).map (·.inSource e.source))

/-- All violations of sources, in the order in which they count. -/
def violations (sources : List Source) : List Failure :=
  sources.flatMap syntaxViolations ++ documentViolations (sources.filterMap (·.document?))

/-! ### Fields -/

theorem classify_reports (catalog : Catalog) (table : String) (type : TypeExpr) :
    Reports (classify catalog table type) (typeViolations catalog table type) := by
  unfold classify typeViolations
  cases declaredType type with
  | error problem => exact .error _ _
  | ok declared =>
    cases hm : meaning? catalog table declared.name with
    | none =>
      simp only [hm, Option.isSome_none]
      exact .error _ _
    | some meaning =>
      obtain ⟨columnType, target⟩ := meaning
      simp only [hm, Option.isSome_some, if_true]
      exact .ok _

/-- The checks of a target, one after the other, report the first of what is wrong with it. -/
theorem referencedType_reports (catalog : Catalog) (directive : Directive) (table column : String) :
    Reports (referencedType catalog directive table column) (columnViolations catalog directive table column) := by
  unfold referencedType columnViolations
  cases catalog.table? table with
  | none => exact .error _ _
  | some target =>
    dsimp only
    unfold targetType
    cases target.value.fields.find? (·.name.text = column) with
    | none => exact .error _ _
    | some field =>
      dsimp only
      unfold targetViolations
      cases declaredType field.type with
      | error problem => exact .error _ _
      | ok declared =>
        dsimp only
        cases declared.array with
        | true => exact .error _ _
        | false =>
          cases firstNamed MarkKind.unique.name field.directives with
          | none => exact .error _ _
          | some u =>
            cases Scalar.ofName? declared.name with
            | none => exact .error _ _
            | some scalar => exact .ok scalar

theorem applyRef_reports {catalog : Catalog} {table : String} {field : FieldDeclaration} {marks : List Marked}
    {c : Classification} (hmarks : readMarks .field field.directives = .ok marks)
    (hc : classify catalog table field.type = .ok c) :
    Reports (applyRef catalog field marks c) (refViolations catalog table field) := by
  unfold applyRef refViolations
  rw [firstRef_eq_reference? hmarks, hc]
  cases reference? field.directives with
  | none => exact .ok _
  | some r =>
    obtain ⟨directive, column⟩ := r
    dsimp only
    cases c.target with
    | none => exact .error _ _
    | some target =>
      dsimp only
      have href := (referencedType_reports catalog directive target column).mapError Fault.problem
      cases h : referencedType catalog directive target column with
      | ok scalar =>
        rw [h] at href
        exact href
      | error problem =>
        rw [h] at href
        exact href

theorem resolveColumn_reports (catalog : Catalog) (table : String) (field : FieldDeclaration) :
    Reports (resolveColumn catalog table field) (fieldViolations catalog table field) := by
  unfold resolveColumn fieldViolations
  refine (readMarks_reports .field field.directives).bind fun marks hmarks => ?_
  refine ((classify_reports catalog table field.type).mapError Fault.problem).bind fun c hc => ?_
  have href := applyRef_reports hmarks (mapError_eq_ok_iff.1 hc)
  rw [← List.append_nil (refViolations catalog table field)]
  exact href.bind fun _ _ => .pure _

/-! ### Tables -/

/-- Fields behind others report their own violations and the repeated names.  `seen` holds the names of the fields
before them. -/
theorem resolveFields_reports (catalog : Catalog) (table : String) {before : List FieldDeclaration} {seen : List String}
    (hseen : KeysOf FieldDeclaration.columnName before seen) (fields : List FieldDeclaration) :
    Reports (resolveFields catalog table seen fields)
      (inOrder (fun before field => fieldViolations catalog table field ++ repeatedColumn before field) before
        fields) := by
  induction fields generalizing before seen with
  | nil => exact .ok []
  | cons field fields ih =>
    rw [resolveFields, inOrder, List.append_assoc]
    -- The name is looked at last, and a placeholder gives none.
    refine (resolveColumn_reports catalog table field).bind fun column hcolumn => ?_
    rw [name_of_resolveColumn hcolumn]
    unfold repeatedColumn
    cases hname : field.columnName with
    | none =>
      rw [repetition_of_none hname, List.nil_append]
      exact (ih (hseen.skip hname)).map _
    | some name =>
      have hrest := (ih (hseen.add hname)).map (column :: ·)
      exact hseen.reports_ite hname (fun field => .problem (.duplicateColumn field.name)) hrest

/-- Nothing is wrong with fields that are all right by themselves and that repeat no name. -/
theorem inOrder_fields_eq_nil_iff {catalog : Catalog} {table : String} {fields : List FieldDeclaration} :
    inOrder (fun before field => fieldViolations catalog table field ++ repeatedColumn before field) [] fields = [] ↔
      (∀ field ∈ fields, fieldViolations catalog table field = []) ∧
        (fields.filterMap FieldDeclaration.columnName).Nodup := by
  rw [inOrder_eq_nil_iff_and (fun before field => List.append_eq_nil_iff), inOrder_const, List.flatMap_eq_nil_iff,
    repeatedColumn, inOrder_repetition_nil_eq_nil_iff]

/-- Fields resolve exactly if each of them does and no name is repeated, into the columns of these fields. -/
theorem resolveFields_eq_ok_iff {catalog : Catalog} {table : String} {fields : List FieldDeclaration}
    {columns : List Column} :
    resolveFields catalog table [] fields = .ok columns ↔
      (fields.filterMap FieldDeclaration.columnName).Nodup ∧
        List.Forall₂ (fun field column => resolveColumn catalog table field = .ok column) fields columns := by
  have hreports := resolveFields_reports catalog table .nil fields
  constructor
  · intro h
    exact ⟨(inOrder_fields_eq_nil_iff.1 (hreports.exists_ok_iff.1 ⟨_, h⟩)).2, resolveFields_forall₂ h⟩
  · rintro ⟨hdistinct, hcolumns⟩
    have hfields : ∀ f ∈ fields, fieldViolations catalog table f = [] := by
      intro f hf
      obtain ⟨column, -, hcolumn⟩ := exists_of_forall₂_of_mem hcolumns.flip hf
      exact (resolveColumn_reports catalog table f).exists_ok_iff.1 ⟨column, hcolumn⟩
    obtain ⟨columns', h⟩ := hreports.exists_ok_iff.2 (inOrder_fields_eq_nil_iff.2 ⟨hfields, hdistinct⟩)
    -- a field has one column at most
    have hunique : Relator.RightUnique fun field column => resolveColumn catalog table field = .ok column :=
      fun _ _ _ hb hc => Except.ok.inj (hb.symm.trans hc)
    exact List.right_unique_forall₂' hunique (resolveFields_forall₂ h) hcolumns ▸ h

theorem resolveTable_reports (catalog : Catalog) (t : TableDeclaration) :
    Reports (resolveTable catalog t) (tableViolations catalog t) := by
  unfold resolveTable tableViolations tagsOf
  refine ((readMarks_reports .table t.directives).map firstTags).bind fun tags _ => ?_
  rw [← List.append_nil (inOrder _ [] t.fields)]
  exact (resolveFields_reports catalog t.name.text .nil t.fields).bind fun columns _ => .pure _

/-! ### Enumerations -/

theorem resolveValues_reports {before : List EnumeratorDeclaration} {seen : List String}
    (hseen : KeysOf EnumeratorDeclaration.givenName before seen) (values : List EnumeratorDeclaration) :
    Reports (resolveValues seen values) (inOrder repeatedEnumerator before values) := by
  induction values generalizing before seen with
  | nil => exact .ok []
  | cons value values ih =>
    rw [resolveValues, inOrder]
    unfold repeatedEnumerator
    show Reports (match value.givenName with | none => _ | some name => _) _
    cases hname : value.givenName with
    | none =>
      rw [repetition_of_none hname, List.nil_append]
      exact (ih (hseen.skip hname)).map _
    | some name =>
      have hrest := (ih (hseen.add hname)).map (some name :: ·)
      exact hseen.reports_ite hname (fun value => .duplicateEnumerator value.name) hrest

theorem resolveEnumeration_reports (e : EnumerationDeclaration) :
    Reports (resolveEnumeration e) (enumerationViolations e) := by
  unfold resolveEnumeration enumerationViolations
  refine (readMarks_reports .enumeration e.directives).bind fun marks hmarks => ?_
  rw [← isSome_firstIndexing hmarks]
  cases firstIndexing marks with
  | none => exact .error _ _
  | some indexing =>
    rw [Option.isSome_some, if_pos rfl, List.nil_append, ← List.append_nil ((inOrder _ [] e.values).map _)]
    exact ((resolveValues_reports .nil e.values).mapError Fault.problem).bind fun enumerators _ => .pure _

/-! ### Definitions -/

theorem register_reports (before : List (Sourced Definition)) (d : Sourced Definition) :
    Reports ((declared before).register d) (definitionViolations before d) := by
  unfold Catalog.register definitionViolations
  cases d.value with
  | table t =>
    dsimp only
    split
    · exact .error _ _
    · exact .ok _
  | enumeration e =>
    dsimp only
    split
    · exact .error _ _
    · exact .ok _
  | other kind name start stop => exact .error _ _

/-- A definition that can be added is added behind the others. -/
theorem register_declared {before : List (Sourced Definition)} {d : Sourced Definition} {catalog : Catalog}
    (h : (declared before).register d = .ok catalog) : catalog = declared (before ++ [d]) := by
  obtain ⟨source, definition⟩ := d
  unfold Catalog.register at h
  cases definition with
  | table t =>
    dsimp only at h
    split at h
    · cases h
    · cases h
      simp [declared, Definition.table?, Definition.enumeration?]
  | enumeration e =>
    dsimp only at h
    split at h
    · cases h
    · cases h
      simp [declared, Definition.table?, Definition.enumeration?]
  | other kind name start stop => cases h

/-- Registering definitions reports the first that cannot be added, and ends with the catalog of all of them. -/
theorem registerOne_foldlM_reports (definitions : List (Sourced Definition)) :
    Reports (definitions.foldlM registerOne .empty)
        (inOrder (fun before d => (definitionViolations before d).map (.problem d.source)) [] definitions) ∧
      ∀ catalog, definitions.foldlM registerOne .empty = .ok catalog → catalog = declared definitions := by
  have hstep : ∀ before d, Reports (registerOne (declared before) d)
      ((definitionViolations before d).map (Failure.problem d.source)) :=
    fun before d => (register_reports before d).mapError _
  have hnext : ∀ before d catalog, registerOne (declared before) d = .ok catalog → catalog = declared (before ++ [d]) :=
    fun before d catalog h => register_declared (mapError_eq_ok_iff.1 h)
  exact Reports.foldlM hstep hnext [] definitions

/-! ### Analysis -/

theorem outcome_schemaOf_reports (catalog : Catalog) :
    Reports (schemaOf catalog).outcome
      (catalog.tables.flatMap (fun t => (tableViolations catalog t.value).map (·.inSource t.source))
        ++ catalog.enumerations.flatMap fun e => (enumerationViolations e.value).map (·.inSource e.source)) := by
  have htables : Reports (catalog.tables.mapM (tableOf catalog)) _ :=
    .mapM fun t _ => (resolveTable_reports catalog t.value).mapError (·.inSource t.source)
  have henumerations : Reports (catalog.enumerations.mapM enumerationOf) _ :=
    .mapM fun e _ => (resolveEnumeration_reports e.value).mapError (·.inSource e.source)
  rw [outcome_schemaOf]
  -- No enumeration is looked at before the last table.
  refine htables.bind fun tables _ => ?_
  rw [← List.append_nil (catalog.enumerations.flatMap _)]
  exact henumerations.bind fun enumerations _ => .pure _

theorem parseSource_reports (source : Source) : Reports (parseSource source) (syntaxViolations source) := by
  unfold parseSource syntaxViolations
  cases parse source with
  | ok document => exact .ok document
  | error e => exact .error _ _

/-- Parsing sources reports the syntax errors of all of them. -/
theorem mapM_parseSource_reports (sources : List Source) :
    Reports (sources.mapM parseSource) (sources.flatMap syntaxViolations) :=
  .mapM fun source _ => parseSource_reports source

/-- Sources that can all be parsed are parsed into their documents. -/
theorem mapM_parseSource {sources : List Source} {documents : List Document}
    (h : sources.mapM parseSource = .ok documents) : sources.filterMap (·.document?) = documents := by
  have hpairs := mapM_eq_ok_iff.1 h
  clear h
  induction hpairs with
  | nil => rfl
  | @cons source document _ _ hparse _ ih =>
    have hdocument : source.document? = some document := by
      unfold Source.document?
      rw [mapError_eq_ok_iff.1 hparse]
      rfl
    rw [List.filterMap_cons_some hdocument, ih]

/-- The analysis of documents tells their first violation. -/
theorem outcome_analyzeDocuments_reports (documents : List Document) :
    Reports (analyzeDocuments documents).outcome (documentViolations documents) := by
  rw [outcome_analyzeDocuments_eq_bind]
  obtain ⟨hregister, hcatalog⟩ := registerOne_foldlM_reports (documents.flatMap definitionsOf)
  refine hregister.bind fun catalog hok => ?_
  rw [hcatalog catalog hok]
  exact outcome_schemaOf_reports _

/-- The analysis tells the first violation. -/
theorem analyze_reports (sources : List Source) : Reports (analyze sources) (violations sources) := by
  rw [analyze_eq_bind]
  -- Where all sources can be parsed, the documents whose violations are listed are those that were parsed.
  refine (mapM_parseSource_reports sources).bind fun documents hdocuments => ?_
  rw [mapM_parseSource hdocuments, ← outcome_analyzeDocuments_eq_bind]
  exact outcome_analyzeDocuments_reports documents

/-- Of everything that is wrong with sources, an analysis that fails tells what comes first, whatever comes later. -/
theorem analyze_eq_error_iff (sources : List Source) (failure : Failure) :
    analyze sources = .error failure ↔ ∃ later, violations sources = failure :: later := by
  rw [(analyze_reports sources).eq_error_iff, List.head?_eq_some_iff]

/-- A failure with a report, or with a reference without a table. -/
def Failure.Tells (failure : Failure) : Prop :=
  failure.report?.isSome ∨ ∃ field, failure = .refWithoutTable field

/-- An integer that is too long is a violation that comes first without being told in either way. -/
theorem not_failures_tell : ¬ ∀ sources failure, analyze sources = .error failure → failure.Tells := by
  intro h
  rcases h _ _ (analyze_onesSource (Nat.lt_succ_self Text.maxDigits)) with hreport | ⟨field, hfield⟩
  · cases hreport
  · cases hfield

end TableSchema
