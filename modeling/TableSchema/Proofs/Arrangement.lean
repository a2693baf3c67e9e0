import Mathlib.Data.List.Perm.Basic
import TableSchema.Proofs.Bare
import TableSchema.Proofs.WellFormed

/-!
# Order and grouping of definitions

Definitions can be spread over documents in many ways, and stand in any order.  Two lists of documents hold the same
definitions if the bare definitions of the one are a permutation of those of the other: moving a definition changes the
places in it, and nothing else.

* `outcome_analyzeDocuments_eq_ok_iff` says what the schema of documents is by their bare definitions alone: all of them
  can be registered (`Registrable`), and they resolve one by one against the catalog of all of them;
* what is found under a name in that catalog does not depend on the order (`find?_perm`).

Main statement: documents with the same definitions have a schema or have none together, and the same declaration is the
same table or enumeration in both schemas (`outcome_analyzeDocuments_perm`).
-/

namespace TableSchema

open Syntax Analysis

/-! ### Looking up in another order -/

section Keys

variable {α κ : Type} [DecidableEq κ] {key : α → κ}

/-- Without repeated keys a search by key finds exactly the member with the key. -/
theorem find?_eq_some_iff_of_nodup {items : List α} (hnodup : (items.map key).Nodup) {k : κ} {a : α} :
    items.find? (fun x => key x = k) = some a ↔ a ∈ items ∧ key a = k := by
  constructor
  · intro h
    exact ⟨List.mem_of_find?_eq_some h, by simpa using List.find?_some h⟩
  · rintro ⟨hmem, rfl⟩
    cases h : items.find? (fun x => key x = key a) with
    | none =>
      have hnone := List.find?_eq_none.1 h a hmem
      simp at hnone
    | some found =>
      have hkey : key found = key a := by simpa using List.find?_some h
      rw [List.inj_on_of_nodup_map hnodup (List.mem_of_find?_eq_some h) hmem hkey]

/-- A search by key finds the same in every order of items without repeated keys. -/
theorem find?_perm {items items' : List α} (h : items.Perm items') (hnodup : (items.map key).Nodup) (k : κ) :
    items.find? (fun x => key x = k) = items'.find? (fun x => key x = k) := by
  have hnodup' : (items'.map key).Nodup := (h.map key).nodup_iff.1 hnodup
  apply Option.ext
  intro a
  rw [find?_eq_some_iff_of_nodup hnodup, find?_eq_some_iff_of_nodup hnodup', h.mem_iff]

end Keys

/-! ### Bare definitions -/

/-- The definitions of documents, one document after the other, as far as they matter. -/
def bareDefinitions (documents : List Document) : List Definition :=
  (documents.flatMap (·.definitions)).map Definition.bare

/-- The tables that definitions declare, in order. -/
def tableDeclarations (definitions : List Definition) : List TableDeclaration :=
  definitions.filterMap Definition.table?

/-- The enumerations that definitions declare, in order. -/
def enumerationDeclarations (definitions : List Definition) : List EnumerationDeclaration :=
  definitions.filterMap Definition.enumeration?

/-- Definitions that can all be registered: they are of the two kinds, and no name of a kind comes twice. -/
structure Registrable (definitions : List Definition) : Prop where
  declarations : ∀ d ∈ definitions, (∃ t, d = .table t) ∨ ∃ e, d = .enumeration e
  tableNames : ((tableDeclarations definitions).map (·.name.text)).Nodup
  enumerationNames : ((enumerationDeclarations definitions).map (·.name.text)).Nodup

/-- The catalog of definitions that come from nowhere in particular. -/
def catalogOfDefinitions (definitions : List Definition) : Catalog where
  tables := (tableDeclarations definitions).map (⟨.ofText "" "", ·⟩)
  enumerations := (enumerationDeclarations definitions).map (⟨.ofText "" "", ·⟩)

theorem Registrable.perm {definitions definitions' : List Definition} (h : definitions.Perm definitions')
    (hregistrable : Registrable definitions) : Registrable definitions' where
  declarations := fun d hd => hregistrable.declarations d (h.mem_iff.2 hd)
  tableNames := ((h.filterMap _).map _).nodup_iff.1 hregistrable.tableNames
  enumerationNames := ((h.filterMap _).map _).nodup_iff.1 hregistrable.enumerationNames

/-- Tables resolve alike against registrable definitions in any order. -/
theorem resolveTable_catalogOfDefinitions_perm {definitions definitions' : List Definition}
    (h : definitions.Perm definitions') (hregistrable : Registrable definitions) (t : TableDeclaration) :
    resolveTable (catalogOfDefinitions definitions) t = resolveTable (catalogOfDefinitions definitions') t := by
  refine resolveTable_congr (fun name => ?_) (fun name => ?_) t
  · show ((tableDeclarations definitions).map _).find? _ = ((tableDeclarations definitions').map _).find? _
    rw [List.find?_map, List.find?_map]
    exact congrArg _ (find?_perm (h.filterMap _) hregistrable.tableNames name)
  · show (((enumerationDeclarations definitions).map _).find? _).isSome =
      (((enumerationDeclarations definitions').map _).find? _).isSome
    rw [List.find?_map, List.find?_map, Option.isSome_map, Option.isSome_map]
    exact congrArg Option.isSome (find?_perm (h.filterMap _) hregistrable.enumerationNames name)

/-! ### The schema of documents -/

section Declared

variable {definitions : List (Sourced Definition)}

theorem map_value_tables_declared (definitions : List (Sourced Definition)) :
    (declared definitions).tables.map (·.value) = tableDeclarations (definitions.map (·.value)) := by
  simp only [declared, tableDeclarations, List.map_filterMap, List.filterMap_map, Option.map_map, Function.comp_def,
    Option.map_id']

theorem map_value_enumerations_declared (definitions : List (Sourced Definition)) :
    (declared definitions).enumerations.map (·.value) = enumerationDeclarations (definitions.map (·.value)) := by
  simp only [declared, enumerationDeclarations, List.map_filterMap, List.filterMap_map, Option.map_map,
    Function.comp_def, Option.map_id']

theorem tableDeclarations_bare (definitions : List (Sourced Definition)) :
    tableDeclarations (definitions.map (·.value.bare)) = (declared definitions).tables.map (·.value.bare) := by
  have htable : ∀ d : Definition, d.bare.table? = d.table?.map TableDeclaration.bare := by
    intro d
    cases d <;> rfl
  simp only [tableDeclarations, declared, List.filterMap_map, List.map_filterMap, Option.map_map, Function.comp_def,
    htable]

theorem enumerationDeclarations_bare (definitions : List (Sourced Definition)) :
    enumerationDeclarations (definitions.map (·.value.bare)) =
      (declared definitions).enumerations.map (·.value.bare) := by
  have henumeration : ∀ d : Definition, d.bare.enumeration? = d.enumeration?.map EnumerationDeclaration.bare := by
    intro d
    cases d <;> rfl
  simp only [enumerationDeclarations, declared, List.filterMap_map, List.map_filterMap, Option.map_map,
    Function.comp_def, henumeration]

theorem bare_declared (definitions : List (Sourced Definition)) :
    (declared definitions).bare = catalogOfDefinitions (definitions.map (·.value.bare)) := by
  unfold Catalog.bare catalogOfDefinitions
  rw [tableDeclarations_bare, enumerationDeclarations_bare, List.map_map, List.map_map]
  rfl

/-- Definitions can all be registered exactly if they are of the two kinds and the names in their catalog differ. -/
theorem registrable_iff :
    Registrable (definitions.map (·.value)) ↔
      (∀ d ∈ definitions, (∃ t, d.value = .table t) ∨ ∃ e, d.value = .enumeration e) ∧
        (declared definitions).tableNames.Nodup ∧ (declared definitions).enumerationNames.Nodup := by
  have htableNames : (tableDeclarations (definitions.map (·.value))).map (·.name.text) =
      (declared definitions).tableNames := by
    rw [← map_value_tables_declared, List.map_map]
    rfl
  have henumerationNames : (enumerationDeclarations (definitions.map (·.value))).map (·.name.text) =
      (declared definitions).enumerationNames := by
    rw [← map_value_enumerations_declared, List.map_map]
    rfl
  rw [← htableNames, ← henumerationNames]
  constructor
  · rintro ⟨hdeclarations, htables, henumerations⟩
    exact ⟨List.forall_mem_map.1 hdeclarations, htables, henumerations⟩
  · rintro ⟨hdeclarations, htables, henumerations⟩
    exact ⟨List.forall_mem_map.2 hdeclarations, htables, henumerations⟩

/-- Whether definitions can be registered shows in the bare ones. -/
theorem registrable_bare_iff :
    Registrable (definitions.map (·.value.bare)) ↔ Registrable (definitions.map (·.value)) := by
  have hkind : ∀ d : Definition,
      ((∃ t, d.bare = .table t) ∨ ∃ e, d.bare = .enumeration e) ↔ (∃ t, d = .table t) ∨ ∃ e, d = .enumeration e := by
    intro d
    cases d <;> simp [Definition.bare]
  have htableNames : (tableDeclarations (definitions.map (·.value.bare))).map (·.name.text) =
      (declared definitions).tableNames := by
    rw [tableDeclarations_bare, List.map_map]
    rfl
  have henumerationNames : (enumerationDeclarations (definitions.map (·.value.bare))).map (·.name.text) =
      (declared definitions).enumerationNames := by
    rw [enumerationDeclarations_bare, List.map_map]
    rfl
  rw [registrable_iff, ← htableNames, ← henumerationNames]
  constructor
  · rintro ⟨hdeclarations, htables, henumerations⟩
    refine ⟨fun d hd => ?_, htables, henumerations⟩
    exact (hkind d.value).1 (hdeclarations _ (List.mem_map_of_mem hd))
  · rintro ⟨hdeclarations, htables, henumerations⟩
    exact ⟨List.forall_mem_map.2 fun d hd => (hkind d.value).2 (hdeclarations d hd), htables, henumerations⟩

theorem foldlM_registerOne_eq_ok_iff {catalog : Catalog} :
    definitions.foldlM registerOne .empty = .ok catalog ↔
      Registrable (definitions.map (·.value.bare)) ∧ catalog = declared definitions := by
  obtain ⟨hreports, hcatalog⟩ := registerOne_foldlM_reports definitions
  rw [registrable_bare_iff, registrable_iff, ← inOrder_definitionViolations_eq_nil_iff, ← hreports.exists_ok_iff]
  constructor
  · intro h
    exact ⟨⟨catalog, h⟩, hcatalog catalog h⟩
  · rintro ⟨⟨found, hfound⟩, rfl⟩
    rw [hfound, hcatalog found hfound]

theorem resolvesTo_declared_iff {schema : Schema} :
    (declared definitions).ResolvesTo schema ↔
      List.Forall₂
          (fun t table => resolveTable (catalogOfDefinitions (definitions.map (·.value.bare))) t = .ok table)
          (tableDeclarations (definitions.map (·.value.bare))) schema.tables ∧
        List.Forall₂ (fun e enumeration => resolveEnumeration e = .ok enumeration)
          (enumerationDeclarations (definitions.map (·.value.bare))) schema.enumerations := by
  rw [← bare_declared, tableDeclarations_bare, enumerationDeclarations_bare, List.forall₂_map_left_iff,
    List.forall₂_map_left_iff]
  simp only [resolveTable_bare_eq_ok_iff, resolveEnumeration_bare_eq_ok_iff]
  exact ⟨fun ⟨htables, henumerations⟩ => ⟨htables, henumerations⟩,
    fun ⟨htables, henumerations⟩ => ⟨htables, henumerations⟩⟩

end Declared

theorem bareDefinitions_eq (documents : List Document) :
    bareDefinitions documents = (documents.flatMap definitionsOf).map (·.value.bare) := by
  rw [bareDefinitions, ← map_value_flatMap_definitionsOf, List.map_map]
  rfl

/-- The catalog of documents is that of all their definitions, if these can be registered. -/
theorem outcome_catalogOf_eq_ok_iff {documents : List Document} {catalog : Catalog} :
    (catalogOf documents).outcome = .ok catalog ↔
      Registrable (bareDefinitions documents) ∧ catalog = declared (documents.flatMap definitionsOf) := by
  rw [bareDefinitions_eq, ← foldlM_registerOne_eq_ok_iff, catalogOf, Run.outcome_fold]

/-- The schema of documents by their bare definitions. -/
theorem outcome_analyzeDocuments_eq_ok_iff {documents : List Document} {schema : Schema} :
    (analyzeDocuments documents).outcome = .ok schema ↔
      Registrable (bareDefinitions documents) ∧
        List.Forall₂ (fun t table => resolveTable (catalogOfDefinitions (bareDefinitions documents)) t = .ok table)
          (tableDeclarations (bareDefinitions documents)) schema.tables ∧
        List.Forall₂ (fun e enumeration => resolveEnumeration e = .ok enumeration)
          (enumerationDeclarations (bareDefinitions documents)) schema.enumerations := by
  rw [analyzeDocuments, Run.outcome_bind, bind_eq_ok_iff]
  simp only [outcome_catalogOf_eq_ok_iff, outcome_schemaOf_eq_ok_iff]
  rw [bareDefinitions_eq, ← resolvesTo_declared_iff]
  constructor
  · rintro ⟨_, ⟨hregistrable, rfl⟩, hresolves⟩
    exact ⟨hregistrable, hresolves⟩
  · rintro ⟨hregistrable, hresolves⟩
    exact ⟨_, ⟨hregistrable, rfl⟩, hresolves⟩

/-! ### Other arrangements -/

/-- Two lists of parts that hold the same part for the same declaration, each in the order of its own declarations. -/
def SameParts {δ α : Type} (declarations declarations' : List δ) (parts parts' : List α) : Prop :=
  parts.Perm parts' ∧
    ∃ part? : δ → Option α, parts.map some = declarations.map part? ∧ parts'.map some = declarations'.map part?

/-- Two schemas that hold the same tables and enumerations, each in the order of its own declarations. -/
structure SameSchema (definitions definitions' : List Definition) (schema schema' : Schema) : Prop where
  tables : SameParts (tableDeclarations definitions) (tableDeclarations definitions') schema.tables schema'.tables
  enumerations :
    SameParts (enumerationDeclarations definitions) (enumerationDeclarations definitions') schema.enumerations
      schema'.enumerations

section Parts

variable {δ α ε : Type} {resolve : δ → Except ε α} {declarations declarations' : List δ} {parts parts' : List α}

private theorem map_some_of_forall₂ (h : List.Forall₂ (fun d part => resolve d = .ok part) declarations parts) :
    parts.map some = declarations.map fun d => (resolve d).toOption := by
  induction h with
  | nil => rfl
  | @cons d part _ _ hd _ ih =>
    rw [List.map_cons, List.map_cons, hd, ih]
    rfl

/-- Declarations that resolve each by itself are the same parts in every order. -/
theorem sameParts_of_forall₂ (h : declarations.Perm declarations')
    (hparts : List.Forall₂ (fun d part => resolve d = .ok part) declarations parts)
    (hparts' : List.Forall₂ (fun d part => resolve d = .ok part) declarations' parts') :
    SameParts declarations declarations' parts parts' := by
  have hmap := map_some_of_forall₂ hparts
  have hmap' := map_some_of_forall₂ hparts'
  refine ⟨?_, _, hmap, hmap'⟩
  have hsome : (parts.map some).Perm (parts'.map some) := by
    rw [hmap, hmap']
    exact h.map _
  exact (List.map_perm_map_iff fun _ _ => Option.some.inj).1 hsome

end Parts

/-- A schema of documents gives one of any other documents with the same definitions. -/
private theorem exists_outcome_analyzeDocuments {documents documents' : List Document}
    (h : (bareDefinitions documents).Perm (bareDefinitions documents')) {schema : Schema}
    (hschema : (analyzeDocuments documents).outcome = .ok schema) :
    ∃ schema', (analyzeDocuments documents').outcome = .ok schema' := by
  obtain ⟨hregistrable, htables, henumerations⟩ := outcome_analyzeDocuments_eq_ok_iff.1 hschema
  simp only [resolveTable_catalogOfDefinitions_perm h hregistrable] at htables
  obtain ⟨tables, htables', -⟩ := List.perm_comp_forall₂ (h.filterMap _).symm htables
  obtain ⟨enumerations, henumerations', -⟩ := List.perm_comp_forall₂ (h.filterMap _).symm henumerations
  exact ⟨⟨tables, enumerations⟩,
    outcome_analyzeDocuments_eq_ok_iff.2 ⟨hregistrable.perm h, htables', henumerations'⟩⟩

/-- Documents with the same definitions, in whatever order and however grouped, have a schema together or none of them
has one, and the same declaration is the same table or enumeration in both schemas. -/
theorem outcome_analyzeDocuments_perm {documents documents' : List Document}
    (h : (bareDefinitions documents).Perm (bareDefinitions documents')) :
    ((∃ schema, (analyzeDocuments documents).outcome = .ok schema) ↔
        ∃ schema', (analyzeDocuments documents').outcome = .ok schema') ∧
      ∀ schema schema', (analyzeDocuments documents).outcome = .ok schema →
        (analyzeDocuments documents').outcome = .ok schema' →
          SameSchema (bareDefinitions documents) (bareDefinitions documents') schema schema' := by
  refine ⟨⟨?_, ?_⟩, ?_⟩
  · rintro ⟨schema, hschema⟩
    exact exists_outcome_analyzeDocuments h hschema
  · rintro ⟨schema', hschema'⟩
    exact exists_outcome_analyzeDocuments h.symm hschema'
  · intro schema schema' hschema hschema'
    obtain ⟨hregistrable, htables, henumerations⟩ := outcome_analyzeDocuments_eq_ok_iff.1 hschema
    obtain ⟨-, htables', henumerations'⟩ := outcome_analyzeDocuments_eq_ok_iff.1 hschema'
    simp only [resolveTable_catalogOfDefinitions_perm h hregistrable] at htables
    exact ⟨sameParts_of_forall₂ (h.filterMap _) htables htables',
      sameParts_of_forall₂ (h.filterMap _) henumerations henumerations'⟩

/-- Two tables that refer to each other and an enumeration, from two documents and from three. -/
theorem outcome_analyzeDocuments_perm_regrouped :
    ∃ sources sources' : List Source,
      let documents := sources.filterMap (·.document?)
      let documents' := sources'.filterMap (·.document?)
      (bareDefinitions documents).Perm (bareDefinitions documents') ∧
        (∃ schema, (analyzeDocuments documents).outcome = .ok schema) ∧
        ((∃ schema, (analyzeDocuments documents).outcome = .ok schema) ↔
            ∃ schema', (analyzeDocuments documents').outcome = .ok schema') ∧
          ∀ schema schema', (analyzeDocuments documents).outcome = .ok schema →
            (analyzeDocuments documents').outcome = .ok schema' →
              SameSchema (bareDefinitions documents) (bareDefinitions documents') schema schema' := by
  let a := "type A \x7b b: [B] @ref(column: \"id\") e: E \x7d"
  let b := "type B \x7b id: i32 @unique a: A \x7d"
  let e := "enum E @indexing(first: 1) \x7b x _ \x7d"
  let sources := [Source.numbered 1 (a ++ " " ++ e), .numbered 2 b]
  let sources' := [Source.numbered 1 e, .numbered 2 b, .numbered 3 a]
  have hperm : (bareDefinitions (sources.filterMap (·.document?))).Perm
      (bareDefinitions (sources'.filterMap (·.document?))) := by decide +kernel
  have hsome : (analyzeDocuments (sources.filterMap (·.document?))).outcome.toOption.isSome = true := by decide +kernel
  refine ⟨sources, sources', hperm, ?_, outcome_analyzeDocuments_perm hperm⟩
  cases h : (analyzeDocuments (sources.filterMap (·.document?))).outcome with
  | ok schema => exact ⟨schema, rfl⟩
  | error failure =>
    rw [h] at hsome
    cases hsome

end TableSchema
