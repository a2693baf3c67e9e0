import TableSchema.Proofs.Arrangement
import TableSchema.Report

/-!
# What an analysis tells apart from places

The verdict on a failure is what its report says without pointing anywhere: the kind, the message, and the same of the
cause.  Places are handed through every step of an analysis, from the declarations into the problems with them, and no
step decides anything by them.

* (changes) a `Recasting` changes definitions and keeps different names different.  Registering follows it, and an
  analysis does if resolving does (`Recasting.outcome_analyzeDocuments_eq`);
* (places) `outcome_analyzeDocuments_bare`: the outcome for bare definitions is the bare outcome.

Main statement: documents with the same bare definitions have the same schema or the same verdict
(`verdict_eq_of_bareDefinitions_eq`).
-/

namespace TableSchema

open Syntax Analysis

/-! ### Verdicts -/

/-- What is told of a failure apart from places.  A failure that is not reported has no kind, and neither has what the
parser says as a cause. -/
structure Verdict where
  kind : Option ProblemKind
  message : String
  cause : Option (Option ProblemKind × String)
deriving DecidableEq

/-- What is told of a cause apart from places. -/
def Cause.verdict : Cause → Option ProblemKind × String
  | .parser message => (none, message)
  | .finding f => (some f.kind, f.message)

/-- The verdict on a failure. -/
def Failure.verdict (failure : Failure) : Verdict :=
  match failure.report? with
  | some r => ⟨some r.finding.kind, r.finding.message, r.cause.map Cause.verdict⟩
  | none => ⟨none, failureMessage failure, none⟩

/-! ### Analyses that follow a change -/

section Counterparts

/-- A fold over counterparts goes through the counterparts of the states. -/
theorem foldlM_map_of_counterpart {σ α ε : Type} {step : σ → α → Except ε σ} {onState : σ → σ} {onItem : α → α}
    {onError : ε → ε} (h : ∀ s a, step (onState s) (onItem a) = onState <$> (step s a).mapError onError) (s : σ)
    (items : List α) :
    (items.map onItem).foldlM step (onState s) = onState <$> (items.foldlM step s).mapError onError := by
  induction items generalizing s with
  | nil => rfl
  | cons a rest ih =>
    rw [List.map_cons, List.foldlM_cons, List.foldlM_cons, h]
    cases step s a with
    | error e => rfl
    | ok next => exact ih next

/-- Two binds in a row, each of them with a counterpart. -/
theorem bind_of_counterpart {α α' β β' ε : Type} {r : Except ε α} {next : α → Except ε β}
    {next' : α' → Except ε β'} {k : α → α'} {l : β → β'} {e : ε → ε}
    (h : ∀ a, next' (k a) = l <$> (next a).mapError e) :
    ((k <$> r.mapError e) >>= next') = l <$> (r >>= next).mapError e := by
  cases r with
  | error _ => rfl
  | ok a => exact h a

end Counterparts

/-- A change of definitions, and of what can be wrong with them.  It keeps different names different. -/
structure Recasting where
  source : Source → Source
  table : TableDeclaration → TableDeclaration
  enumeration : EnumerationDeclaration → EnumerationDeclaration
  definition : Definition → Definition
  problem : Problem → Problem
  fault : Fault → Fault
  failure : Failure → Failure
  name : String → String
  name_injective : Function.Injective name
  name_table : ∀ t, (table t).name.text = name t.name.text
  name_enumeration : ∀ e, (enumeration e).name.text = name e.name.text
  definition_table : ∀ t, definition (.table t) = .table (table t)
  definition_enumeration : ∀ e, definition (.enumeration e) = .enumeration (enumeration e)
  definition_other : ∀ kind name start stop, ∃ name' start' stop',
    definition (.other kind name start stop) = .other kind name' start' stop'
  problem_duplicateTable : ∀ t, problem (.duplicateTable t.name) = .duplicateTable (table t).name
  problem_duplicateEnumeration : ∀ e,
    problem (.duplicateEnumeration e.name) = .duplicateEnumeration (enumeration e).name
  problem_unsupportedDefinition : ∀ d, problem (.unsupportedDefinition d) = .unsupportedDefinition (definition d)
  failure_problem : ∀ s p, failure (.problem s p) = .problem (source s) (problem p)
  failure_inSource : ∀ s f, failure (Fault.inSource s f) = (fault f).inSource (source s)

namespace Recasting

variable (φ : Recasting)

/-- The change of what is declared in a source. -/
def inSource {α : Type} (change : α → α) (d : Sourced α) : Sourced α :=
  ⟨φ.source d.source, change d.value⟩

/-- The catalog of changed declarations. -/
def catalog (c : Catalog) : Catalog where
  tables := c.tables.map (φ.inSource φ.table)
  enumerations := c.enumerations.map (φ.inSource φ.enumeration)

variable {φ}

/-- The name of a table is taken exactly if its counterpart is. -/
theorem mem_tableNames_iff {c : Catalog} {t : TableDeclaration} :
    (φ.table t).name.text ∈ (φ.catalog c).tableNames ↔ t.name.text ∈ c.tableNames := by
  have hnames : (φ.catalog c).tableNames = c.tableNames.map φ.name := by
    simp only [catalog, inSource, Catalog.tableNames, List.map_map, Function.comp_def, φ.name_table]
  rw [hnames, φ.name_table, List.mem_map_of_injective φ.name_injective]

/-- The name of an enumeration is taken exactly if its counterpart is. -/
theorem mem_enumerationNames_iff {c : Catalog} {e : EnumerationDeclaration} :
    (φ.enumeration e).name.text ∈ (φ.catalog c).enumerationNames ↔ e.name.text ∈ c.enumerationNames := by
  have hnames : (φ.catalog c).enumerationNames = c.enumerationNames.map φ.name := by
    simp only [catalog, inSource, Catalog.enumerationNames, List.map_map, Function.comp_def, φ.name_enumeration]
  rw [hnames, φ.name_enumeration, List.mem_map_of_injective φ.name_injective]

theorem register_eq (c : Catalog) (d : Sourced Definition) :
    (φ.catalog c).register (φ.inSource φ.definition d) = φ.catalog <$> (c.register d).mapError φ.problem := by
  obtain ⟨source, definition⟩ := d
  unfold inSource Catalog.register
  cases definition with
  | table t =>
    rw [φ.definition_table]
    dsimp only
    by_cases hmem : t.name.text ∈ c.tableNames
    · rw [if_pos hmem, if_pos (mem_tableNames_iff.2 hmem)]
      exact congrArg Except.error (φ.problem_duplicateTable t).symm
    · rw [if_neg hmem, if_neg (mt mem_tableNames_iff.1 hmem)]
      refine congrArg Except.ok ?_
      rw [catalog, catalog, List.map_append]
      rfl
  | enumeration e =>
    rw [φ.definition_enumeration]
    dsimp only
    by_cases hmem : e.name.text ∈ c.enumerationNames
    · rw [if_pos hmem, if_pos (mem_enumerationNames_iff.2 hmem)]
      exact congrArg Except.error (φ.problem_duplicateEnumeration e).symm
    · rw [if_neg hmem, if_neg (mt mem_enumerationNames_iff.1 hmem)]
      refine congrArg Except.ok ?_
      rw [catalog, catalog, List.map_append]
      rfl
  | other kind name start stop =>
    obtain ⟨name', start', stop', heq⟩ := φ.definition_other kind name start stop
    have hproblem := φ.problem_unsupportedDefinition (.other kind name start stop)
    dsimp only
    rw [heq] at hproblem ⊢
    exact congrArg Except.error hproblem.symm

theorem registerOne_eq (c : Catalog) (d : Sourced Definition) :
    registerOne (φ.catalog c) (φ.inSource φ.definition d) = φ.catalog <$> (registerOne c d).mapError φ.failure := by
  unfold registerOne
  rw [register_eq]
  cases c.register d with
  | ok c => rfl
  | error p => exact congrArg Except.error (φ.failure_problem d.source p).symm

variable {onTable : Table → Table} {onEnumeration : Enumeration → Enumeration}

theorem outcome_schemaOf_eq
    (htable : ∀ c t, resolveTable (φ.catalog c) (φ.table t) = onTable <$> (resolveTable c t).mapError φ.fault)
    (henumeration : ∀ e,
      resolveEnumeration (φ.enumeration e) = onEnumeration <$> (resolveEnumeration e).mapError φ.fault)
    (c : Catalog) :
    (schemaOf (φ.catalog c)).outcome =
      (fun schema => ⟨schema.tables.map onTable, schema.enumerations.map onEnumeration⟩) <$>
        (schemaOf c).outcome.mapError φ.failure := by
  have htableOf : ∀ t, tableOf (φ.catalog c) (φ.inSource φ.table t) = onTable <$> (tableOf c t).mapError φ.failure := by
    intro t
    unfold tableOf inSource
    rw [htable]
    cases resolveTable c t.value with
    | ok table => rfl
    | error fault => exact congrArg Except.error (φ.failure_inSource t.source fault).symm
  have henumerationOf : ∀ e,
      enumerationOf (φ.inSource φ.enumeration e) = onEnumeration <$> (enumerationOf e).mapError φ.failure := by
    intro e
    unfold enumerationOf inSource
    rw [henumeration]
    cases resolveEnumeration e.value with
    | ok enumeration => rfl
    | error fault => exact congrArg Except.error (φ.failure_inSource e.source fault).symm
  have htables : (φ.catalog c).tables = c.tables.map (φ.inSource φ.table) := rfl
  have henumerations : (φ.catalog c).enumerations = c.enumerations.map (φ.inSource φ.enumeration) := rfl
  rw [outcome_schemaOf, outcome_schemaOf, htables, henumerations, mapM_map_of_counterpart htableOf,
    mapM_map_of_counterpart henumerationOf]
  refine bind_of_counterpart fun tables => ?_
  exact bind_of_counterpart fun enumerations => rfl

/-- If resolving follows a change of definitions, an analysis does. -/
theorem outcome_analyzeDocuments_eq
    (htable : ∀ c t, resolveTable (φ.catalog c) (φ.table t) = onTable <$> (resolveTable c t).mapError φ.fault)
    (henumeration : ∀ e,
      resolveEnumeration (φ.enumeration e) = onEnumeration <$> (resolveEnumeration e).mapError φ.fault)
    {documents documents' : List Document}
    (h : documents'.flatMap definitionsOf = (documents.flatMap definitionsOf).map (φ.inSource φ.definition)) :
    (analyzeDocuments documents').outcome =
      (fun schema => ⟨schema.tables.map onTable, schema.enumerations.map onEnumeration⟩) <$>
        (analyzeDocuments documents).outcome.mapError φ.failure := by
  have hfold : (documents'.flatMap definitionsOf).foldlM registerOne .empty =
      φ.catalog <$> ((documents.flatMap definitionsOf).foldlM registerOne .empty).mapError φ.failure := by
    rw [h]
    exact foldlM_map_of_counterpart registerOne_eq .empty (documents.flatMap definitionsOf)
  rw [outcome_analyzeDocuments_eq_bind, outcome_analyzeDocuments_eq_bind, hfold]
  exact bind_of_counterpart (outcome_schemaOf_eq htable henumeration)

end Recasting

/-! ### Analysis without places -/

/-- The failure of bare documents. -/
def Failure.bare : Failure → Failure
  | .syntaxError source e => .syntaxError source e
  | .problem _ p => .problem (.ofText "" "") p.bare
  | .refWithoutTable field => .refWithoutTable field
  | .integerTooLong digits => .integerTooLong digits

/-- Definitions without their places. -/
def Recasting.toBare : Recasting where
  source _ := .ofText "" ""
  table := TableDeclaration.bare
  enumeration := EnumerationDeclaration.bare
  definition := Definition.bare
  problem := Problem.bare
  fault := Fault.bare
  failure := Failure.bare
  name := id
  name_injective := Function.injective_id
  name_table _ := rfl
  name_enumeration _ := rfl
  definition_table _ := rfl
  definition_enumeration _ := rfl
  definition_other _ _ _ _ := ⟨none, 0, 0, rfl⟩
  problem_duplicateTable _ := rfl
  problem_duplicateEnumeration _ := rfl
  problem_unsupportedDefinition _ := rfl
  failure_problem _ _ := rfl
  failure_inSource _ f := by cases f <;> rfl

/-- The analysis of bare definitions comes out as that of the documents, without places. -/
theorem outcome_analyzeDocuments_bare (documents : List Document) :
    (analyzeDocuments [⟨.ofText "" "", bareDefinitions documents⟩]).outcome =
      (analyzeDocuments documents).outcome.mapError Failure.bare := by
  have htable : ∀ c t, resolveTable (Recasting.toBare.catalog c) (Recasting.toBare.table t) =
      id <$> (resolveTable c t).mapError Recasting.toBare.fault := by
    intro c t
    rw [id_map]
    exact resolveTable_bare c t
  have henumeration : ∀ e, resolveEnumeration (Recasting.toBare.enumeration e) =
      id <$> (resolveEnumeration e).mapError Recasting.toBare.fault := by
    intro e
    rw [id_map]
    exact resolveEnumeration_bare e
  have hdefinitions : [(⟨.ofText "" "", bareDefinitions documents⟩ : Document)].flatMap definitionsOf =
      (documents.flatMap definitionsOf).map (Recasting.toBare.inSource Recasting.toBare.definition) := by
    rw [List.flatMap_singleton, bareDefinitions_eq, definitionsOf, List.map_map]
    rfl
  have h := Recasting.outcome_analyzeDocuments_eq htable henumeration hdefinitions
  simp only [List.map_id] at h
  exact h.trans (id_map _)

/-! ### The verdict on documents -/

theorem TargetProblem.kind_bare (p : TargetProblem) : p.bare.kind = p.kind ∧ p.bare.message = p.message := by
  cases p with
  | declaredType problem => cases problem <;> exact ⟨rfl, rfl⟩
  | _ => exact ⟨rfl, rfl⟩

/-- Nothing in a verdict is a place. -/
theorem Failure.verdict_bare (failure : Failure) : failure.bare.verdict = failure.verdict := by
  cases failure with
  | syntaxError source e => rfl
  | refWithoutTable field => rfl
  | integerTooLong digits => rfl
  | problem source p =>
    obtain ⟨hkind, hmessage⟩ := p.kind_bare
    have hcause : p.bare.cause.map Cause.verdict = p.cause.map Cause.verdict := by
      cases p with
      | invalidTarget directive target cause =>
        obtain ⟨hkind, hmessage⟩ := cause.kind_bare
        show some (some cause.bare.kind, cause.bare.message) = some (some cause.kind, cause.message)
        rw [hkind, hmessage]
      | _ => rfl
    show Verdict.mk (some p.bare.kind) p.bare.message (p.bare.cause.map Cause.verdict) =
      ⟨some p.kind, p.message, p.cause.map Cause.verdict⟩
    rw [hkind, hmessage, hcause]

/-- Two lists of documents that differ in places, in the names and texts of their sources, in descriptions other than
those of fields, in interfaces, and in the arguments of fields have the same schema, or failures with the same kind, the
same message and the same cause, up to where they show. -/
theorem verdict_eq_of_bareDefinitions_eq {documents documents' : List Document}
    (h : bareDefinitions documents = bareDefinitions documents') :
    (analyzeDocuments documents).outcome.mapError Failure.verdict =
      (analyzeDocuments documents').outcome.mapError Failure.verdict := by
  have hverdict : ∀ documents : List Document, (analyzeDocuments documents).outcome.mapError Failure.verdict =
      (analyzeDocuments [⟨.ofText "" "", bareDefinitions documents⟩]).outcome.mapError Failure.verdict := by
    intro documents
    rw [outcome_analyzeDocuments_bare]
    cases (analyzeDocuments documents).outcome with
    | ok schema => rfl
    | error failure => exact congrArg Except.error failure.verdict_bare.symm
  rw [hverdict documents, hverdict documents', h]

/-- A reference to a column that is not unique, once in two documents, and once in a single one with descriptions, an
interface and an argument. -/
theorem verdict_eq_of_bareDefinitions_eq_moved :
    ∃ sources sources' : List Source,
      let documents := sources.filterMap (·.document?)
      let documents' := sources'.filterMap (·.document?)
      documents ≠ documents' ∧ bareDefinitions documents = bareDefinitions documents' ∧
        (analyzeDocuments documents).outcome.mapError Failure.verdict =
          .error ⟨some .columnInvalid, "An error occurred while validating the referenced column.",
            some (some .columnNotUnique, "Values in the referenced column must be unique.")⟩ ∧
        (analyzeDocuments documents).outcome.mapError Failure.verdict =
          (analyzeDocuments documents').outcome.mapError Failure.verdict := by
  let sources :=
    [Source.numbered 1 "type A \x7b b: B @ref(column: \"id\") \x7d", .numbered 2 "type B \x7b id: i32 \x7d"]
  let sources' := [Source.ofText "all"
    "\"a\" type A implements I \x7b b(n: i32): B @ref(column: \"id\") \x7d \"b\" type B \x7b id: i32 \x7d"]
  have hne : sources.filterMap (·.document?) ≠ sources'.filterMap (·.document?) := by decide +kernel
  have h : bareDefinitions (sources.filterMap (·.document?)) = bareDefinitions (sources'.filterMap (·.document?)) := by
    decide +kernel
  exact ⟨sources, sources', hne, h, by decide +kernel, verdict_eq_of_bareDefinitions_eq h⟩

end TableSchema
