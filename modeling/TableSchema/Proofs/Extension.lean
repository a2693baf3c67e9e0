import TableSchema.Proofs.Nodes
import TableSchema.Proofs.References

/-!
# More documents

What is declared in further documents can be called like anything: like a scalar, like a placeholder, like a table that
is there already.  Whatever a name meant before, it still means, unless a table takes the name of an enumeration that
is there: a table comes first where a name is looked up.

* (catalogs) `Catalog.Extends`: the tables that are found stay the same, the names of enumerations stay, and those of
  them that name no table still name none;
* (steps) `Means.extend`, `referencedType_extend`, `resolveColumn_extend` and `resolveTable_extend`: what resolves in a
  catalog resolves into the same in one that extends it;
* (violations) `violationsBehind_append`: everything that is wrong is wrong with the further documents.

Main statement: the schema of the documents begins with what it was, and an analysis that fails tells of a further
definition (`outcome_analyzeDocuments_append`).
-/

namespace TableSchema

open Syntax Analysis

/-! ### Catalogs -/

/-- A catalog in which the names of another one mean what they mean there. -/
structure Catalog.Extends (larger catalog : Catalog) : Prop where
  tables : ∀ name t, catalog.table? name = some t → larger.table? name = some t
  enumerations : ∀ name ∈ catalog.enumerationNames, name ∈ larger.enumerationNames
  disjoint : ∀ name ∈ catalog.enumerationNames, name ∉ catalog.tableNames → name ∉ larger.tableNames

section Steps

variable {catalog larger : Catalog} {table : String}

theorem Catalog.Extends.mem_tableNames (h : larger.Extends catalog) {name : String}
    (hname : name ∈ catalog.tableNames) : name ∈ larger.tableNames := by
  obtain ⟨t, ht⟩ := Option.isSome_iff_exists.1 (Catalog.isSome_table?_iff.2 hname)
  rw [← Catalog.isSome_table?_iff, h.tables name t ht]
  rfl

/-- A name keeps its meaning.  Only that of an enumeration could be lost, to a table. -/
theorem Means.extend (h : larger.Extends catalog) {name : String} {type : ColumnType} {target : Option String}
    (hmeans : Means catalog table name type target) : Means larger table name type target := by
  cases hmeans with
  | own => exact .own
  | anyRow htable => exact .anyRow htable
  | unknown htable => exact .unknown htable
  | scalar s htable => exact .scalar s htable
  | foreign htable hreserved hname => exact .foreign htable hreserved (h.mem_tableNames hname)
  | enumeration htable hreserved hnot hname =>
    exact .enumeration htable hreserved (h.disjoint name hname hnot) (h.enumerations name hname)

theorem classify_extend (h : larger.Extends catalog) {type : TypeExpr} {c : Classification}
    (hc : classify catalog table type = .ok c) : classify larger table type = .ok c := by
  obtain ⟨name, hdeclares, hmeans⟩ := classify_eq_ok_iff.1 hc
  exact classify_eq_ok_iff.2 ⟨name, hdeclares, hmeans.extend h⟩

theorem referencedType_extend (h : larger.Extends catalog) {directive : Directive} {target column : String}
    {scalar : Scalar} (hcheck : referencedType catalog directive target column = .ok scalar) :
    referencedType larger directive target column = .ok scalar := by
  obtain ⟨t, ht, hfield⟩ := referencedType_eq_ok_iff.1 hcheck
  exact referencedType_eq_ok_iff.2 ⟨t, h.tables target t ht, hfield⟩

theorem applyRef_extend (h : larger.Extends catalog) {field : FieldDeclaration} {marks : List Marked}
    {c : Classification} {type : ColumnType} {reference : Option Reference}
    (happly : applyRef catalog field marks c = .ok (type, reference)) :
    applyRef larger field marks c = .ok (type, reference) := by
  rw [applyRef_eq_ok_iff] at happly ⊢
  rcases happly with hplain | ⟨directive, column, target, scalar, href, htarget, hcheck, htype, hreference⟩
  · exact .inl hplain
  · have hcheck := referencedType_extend h hcheck
    exact .inr ⟨directive, column, target, scalar, href, htarget, hcheck, htype, hreference⟩

theorem resolveColumn_extend (h : larger.Extends catalog) {field : FieldDeclaration} {column : Column}
    (hcolumn : resolveColumn catalog table field = .ok column) : resolveColumn larger table field = .ok column := by
  obtain ⟨marks, c, type, reference, hmarks, hc, happly, rfl⟩ := resolveColumn_eq_ok_iff.1 hcolumn
  have hc := classify_extend h hc
  have happly := applyRef_extend h happly
  exact resolveColumn_eq_ok_iff.2 ⟨marks, c, type, reference, hmarks, hc, happly, rfl⟩

/-- The loop over fields sees of the catalog only what it makes of each of them. -/
theorem resolveFields_extend (h : larger.Extends catalog) {seen : List String} {fields : List FieldDeclaration}
    {columns : List Column} (hcolumns : resolveFields catalog table seen fields = .ok columns) :
    resolveFields larger table seen fields = .ok columns := by
  induction fields generalizing seen columns with
  | nil => exact hcolumns
  | cons field fields ih =>
    rw [resolveFields] at hcolumns ⊢
    obtain ⟨column, hcolumn, hcolumns⟩ := bind_eq_ok_iff.1 hcolumns
    refine bind_eq_ok_iff.2 ⟨column, resolveColumn_extend h hcolumn, ?_⟩
    cases hname : column.name with
    | none =>
      simp only [hname] at hcolumns
      obtain ⟨rest, hrest, rfl⟩ := map_eq_ok_iff.1 hcolumns
      exact map_eq_ok_iff.2 ⟨rest, ih hrest, rfl⟩
    | some name =>
      simp only [hname] at hcolumns
      dsimp only
      by_cases hseen : name ∈ seen
      · rw [if_pos hseen] at hcolumns
        cases hcolumns
      · rw [if_neg hseen] at hcolumns ⊢
        obtain ⟨rest, hrest, rfl⟩ := map_eq_ok_iff.1 hcolumns
        exact map_eq_ok_iff.2 ⟨rest, ih hrest, rfl⟩

theorem resolveTable_extend (h : larger.Extends catalog) {t : TableDeclaration} {resolved : Table}
    (ht : resolveTable catalog t = .ok resolved) : resolveTable larger t = .ok resolved := by
  obtain ⟨hname, htags, hcolumns⟩ := resolveTable_eq_ok_iff.1 ht
  exact resolveTable_eq_ok_iff.2 ⟨hname, htags, resolveFields_extend h hcolumns⟩

end Steps

/-! ### Definitions behind others -/

section Behind

variable {before definitions : List (Sourced Definition)}

theorem tables_declared_append :
    (declared (before ++ definitions)).tables = (declared before).tables ++ (declared definitions).tables := by
  simp only [declared, List.filterMap_append]

theorem enumerations_declared_append :
    (declared (before ++ definitions)).enumerations =
      (declared before).enumerations ++ (declared definitions).enumerations := by
  simp only [declared, List.filterMap_append]

/-- Definitions whose tables do not take the name of an enumeration before them extend the catalog. -/
theorem declared_append_extends
    (hnames : ∀ name ∈ (declared before).enumerationNames, name ∉ (declared definitions).tableNames) :
    (declared (before ++ definitions)).Extends (declared before) where
  tables name t ht := by
    rw [Catalog.table?, tables_declared_append, List.find?_append]
    rw [Catalog.table?] at ht
    rw [ht, Option.some_or]
  enumerations name hname := by
    rw [Catalog.enumerationNames, enumerations_declared_append, List.map_append]
    exact List.mem_append_left _ hname
  disjoint name hname hnot := by
    rw [Catalog.tableNames, tables_declared_append, List.map_append, List.mem_append, not_or]
    exact ⟨hnot, hnames name hname⟩

/-- Behind definitions that resolve, everything that is wrong is wrong with what comes behind. -/
theorem violationsBehind_append {schema : Schema} (hnone : violationsBehind [] before = [])
    (hschema : (declared before).ResolvesTo schema)
    (hextends : (declared (before ++ definitions)).Extends (declared before)) :
    violationsBehind [] (before ++ definitions) = violationsBehind before definitions := by
  -- The tables before resolve against the larger catalog too, so nothing is wrong with them there.
  have htables : ∀ t ∈ (declared before).tables,
      (tableViolations (declared (before ++ definitions)) t.value).map (·.inSource t.source) = [] := by
    intro t ht
    obtain ⟨table, htable⟩ : ∃ table, resolveTable (declared before) t.value = .ok table := by
      obtain ⟨i, hi, rfl⟩ := List.mem_iff_getElem.1 ht
      exact ⟨_, hschema.tables.get hi (hschema.tables.length_eq ▸ hi)⟩
    have hextended := resolveTable_extend hextends htable
    rw [((resolveTable_reports _ t.value).exists_ok_iff).1 ⟨table, hextended⟩, List.map_nil]
  obtain ⟨hregistration, hrest⟩ := List.append_eq_nil_iff.1 hnone
  obtain ⟨-, henumerations⟩ := List.append_eq_nil_iff.1 hrest
  have hbefore := List.flatMap_eq_nil_iff.2 htables
  simp only [violationsBehind, List.nil_append, inOrder_append, tables_declared_append, enumerations_declared_append,
    List.flatMap_append, hregistration, hbefore, henumerations]

end Behind

/-- Results of a list and of a longer one, where each result of the first list is also one in the second. -/
theorem prefix_of_forall₂_append {α β : Type} {related related' : α → β → Prop} {as more : List α} {bs bs' : List β}
    (h : List.Forall₂ related as bs) (h' : List.Forall₂ related' (as ++ more) bs')
    (hunique : ∀ a b b', related a b → related' a b' → b = b') : bs <+: bs' := by
  induction h generalizing bs' with
  | nil => exact List.nil_prefix
  | @cons a b as bs hab _ ih =>
    cases h' with
    | @cons _ b' _ bs' hab' hrest =>
      rw [hunique a b b' hab hab', List.prefix_cons_inj]
      exact ih hrest

/-! ### Documents behind others -/

section Documents

variable {documents more : List Document} {schema : Schema}

/-- A schema of documents comes from a catalog with nothing wrong in it. -/
theorem outcome_analyzeDocuments_eq_ok (h : (analyzeDocuments documents).outcome = .ok schema) :
    violationsBehind [] (documents.flatMap definitionsOf) = [] ∧
      (declared (documents.flatMap definitionsOf)).ResolvesTo schema := by
  have hnone := (outcome_analyzeDocuments_reports documents).exists_ok_iff.1 ⟨schema, h⟩
  rw [outcome_analyzeDocuments_eq_bind] at h
  obtain ⟨catalog, hcatalog, hschema⟩ := bind_eq_ok_iff.1 h
  rw [(registerOne_foldlM_reports _).2 catalog hcatalog] at hschema
  exact ⟨hnone, outcome_schemaOf_eq_ok_iff.1 hschema⟩

/-- Documents that resolve are not changed by more documents, unless these have a table with the name of an enumeration:
the schema of all of them begins with the schema, and if the analysis of all of them fails, it tells what is wrong with
one of the further definitions, in this very definition. -/
theorem outcome_analyzeDocuments_append (h : (analyzeDocuments documents).outcome = .ok schema)
    (hnames : ∀ name ∈ (documents.flatMap (·.definitions)).filterMap Definition.enumerationName?,
      name ∉ (more.flatMap (·.definitions)).filterMap Definition.tableName?) :
    (∀ extended, (analyzeDocuments (documents ++ more)).outcome = .ok extended →
        schema.tables <+: extended.tables ∧ schema.enumerations <+: extended.enumerations) ∧
      ∀ failure, (analyzeDocuments (documents ++ more)).outcome = .error failure →
        ∃ earlier d later, more.flatMap definitionsOf = earlier ++ d :: later ∧
          failure ∈ violationsOf (declared ((documents ++ more).flatMap definitionsOf))
            (documents.flatMap definitionsOf ++ earlier) d ∧
          failure.StandsIn d := by
  obtain ⟨hnone, hschema⟩ := outcome_analyzeDocuments_eq_ok h
  rw [← map_value_flatMap_definitionsOf, ← map_value_flatMap_definitionsOf, ← enumerationNames_declared,
    ← tableNames_declared] at hnames
  have hextends := declared_append_extends hnames
  constructor
  · intro extended hextended
    obtain ⟨-, hresolves⟩ := outcome_analyzeDocuments_eq_ok hextended
    obtain ⟨htables, henumerations⟩ := hresolves
    rw [List.flatMap_append, tables_declared_append] at htables
    rw [List.flatMap_append, enumerations_declared_append] at henumerations
    constructor
    · refine prefix_of_forall₂_append hschema.tables htables fun t table table' htable htable' => ?_
      rw [resolveTable_extend hextends htable] at htable'
      exact Except.ok.inj htable'
    · refine prefix_of_forall₂_append hschema.enumerations henumerations fun e part part' hpart hpart' => ?_
      rw [hpart] at hpart'
      exact Except.ok.inj hpart'
  · intro failure hfailure
    have hfirst := ((outcome_analyzeDocuments_reports _).eq_error_iff failure).1 hfailure
    rw [documentViolations_eq, List.flatMap_append, violationsBehind_append hnone hschema hextends] at hfirst
    obtain ⟨earlier, d, later, heq, hmem⟩ := mem_violationsBehind_iff.1 (List.mem_of_mem_head? hfirst)
    rw [List.flatMap_append]
    exact ⟨earlier, d, later, heq, hmem, standsIn_of_mem_violationsOf hmem⟩

end Documents

/-- A table with the name of a scalar and an enumeration with the name of a table change nothing.  A second table with
the name of the first is told of where it stands. -/
theorem outcome_analyzeDocuments_append_shadowed :
    ∃ documents schema more extended repeated failure,
      (analyzeDocuments documents).outcome = .ok schema ∧
        (analyzeDocuments (documents ++ more)).outcome = .ok extended ∧ schema.tables <+: extended.tables ∧
        schema.enumerations <+: extended.enumerations ∧
        (analyzeDocuments (documents ++ repeated)).outcome = .error failure ∧
        ∃ earlier d later, repeated.flatMap definitionsOf = earlier ++ d :: later ∧
          failure ∈ violationsOf (declared ((documents ++ repeated).flatMap definitionsOf))
            (documents.flatMap definitionsOf ++ earlier) d ∧
          failure.StandsIn d := by
  let documents := [Source.numbered 1
    "type T \x7b a: i32 @unique b: [T] @ref(column: \"a\") k: K \x7d enum K @indexing(first: 0) \x7b X \x7d"].filterMap
      (·.document?)
  let more := [Source.numbered 2 "type i32 \x7b t: T \x7d enum T @indexing(first: 1) \x7b Y \x7d"].filterMap
    (·.document?)
  let again := Source.numbered 3 "type U \x7b t: T \x7d type T \x7b u: U \x7d"
  let a : Column := ⟨some "a", none, false, .scalar .i32, true, false, none, none, none⟩
  let b : Column := ⟨some "b", none, true, .scalar .i32, false, false, some ⟨"T", some "a"⟩, none, none⟩
  let k : Column := ⟨some "k", none, false, .enumRow, false, false, some ⟨"K", none⟩, none, none⟩
  let t : Column := ⟨some "t", none, false, .foreignRow, false, false, some ⟨"T", none⟩, none, none⟩
  let schema : Schema := ⟨[⟨"T", [], [a, b, k]⟩], [⟨"K", 0, [some "X"]⟩]⟩
  let extended : Schema := ⟨schema.tables ++ [⟨"i32", [], [t]⟩], schema.enumerations ++ [⟨"T", 1, [some "Y"]⟩]⟩
  have hschema : (analyzeDocuments documents).outcome = .ok schema := by decide +kernel
  have hextended : (analyzeDocuments (documents ++ more)).outcome = .ok extended := by decide +kernel
  have hfailure : (analyzeDocuments (documents ++ [again].filterMap (·.document?))).outcome =
      .error (.problem again (.duplicateTable ⟨21, "T"⟩)) := by decide +kernel
  obtain ⟨htables, henumerations⟩ := (outcome_analyzeDocuments_append hschema (by decide +kernel)).1 extended hextended
  exact ⟨documents, schema, more, extended, _, _, hschema, hextended, htables, henumerations, hfailure,
    (outcome_analyzeDocuments_append hschema (by decide +kernel)).2 _ hfailure⟩

end TableSchema
