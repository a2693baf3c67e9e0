import TableSchema.Proofs.Arrangement
import TableSchema.Result

/-!
# What escapes an analysis

An analysis checks itself at three places, and fails only one of these checks: that there is a table or an enumeration
to refer to where a field has a reference directive.  A declared type with a reserved name refers to nothing, unless the
enclosing table has this name (`exists_classify_eq_ok_none_iff`).  Such a field (`FieldDeclaration.LacksTable`) fails
the check if nothing is wrong with the tables before its own (`ReachesTable`) and with what stands before it in its
table (`TableDeclaration.Reaches`).  Besides, an integer that is too long escapes from an enumeration if nothing is
wrong with the tables and with the enumerations before it (`ReachesEnumeration`).

* (parts) One lemma for each list of violations says when its first one is such a field
  (`head?_fieldViolations_eq_some_iff`, `head?_tableViolations_eq_some_iff`, `head?_documentViolations_eq_some_iff`);
* (analysis) `analyze_eq_refWithoutTable_iff` is the same for the sources, and `analyze_eq_integerTooLong_iff` is the
  counterpart for integers.

Main statement: sources have a result, with either a schema or a report, unless there is such a field or such an
integer, and the other two checks hold for all of them (`analysisResult_eq_error_iff`).
-/

namespace TableSchema

open Syntax Analysis

/-! ### Fields without a table to refer to -/

/-- A field with a reference directive and a declared type that refers to nothing: all its directives are fine, and the
name of its type is reserved and not that of the enclosing table. -/
structure Syntax.FieldDeclaration.LacksTable (table : String) (field : FieldDeclaration) : Prop where
  directives : ∀ d ∈ field.directives, d.WellFormed .field
  reference : ∃ d ∈ field.directives, d.name.text = MarkKind.ref.name
  type : ∃ array name, field.type.Declares array name ∧ name ∈ reservedNames ∧ name ≠ table

/-- The resolution of a table comes to one of its fields: nothing is wrong with the directives of the table, and with
the fields before this one. -/
structure Syntax.TableDeclaration.Reaches (definitions : List Definition) (t : TableDeclaration)
    (field : FieldDeclaration) : Prop where
  directives : ∀ d ∈ t.directives, d.WellFormed .table
  fields : ∃ earlier later, t.fields = earlier ++ field :: later ∧
    (∀ f ∈ earlier, f.WellFormed definitions t.name.text) ∧ (earlier.filterMap FieldDeclaration.columnName).Nodup

/-- The resolution of definitions comes to a table: nothing is wrong with the tables before it. -/
def ReachesTable (definitions : List Definition) (t : TableDeclaration) : Prop :=
  ∃ earlier later, tableDeclarations definitions = earlier ++ t :: later ∧ ∀ t' ∈ earlier, t'.WellFormed definitions

/-- The resolution of definitions comes to an enumeration: nothing is wrong with the tables, and with the enumerations
before it. -/
structure ReachesEnumeration (definitions : List Definition) (e : EnumerationDeclaration) : Prop where
  tables : ∀ t ∈ tableDeclarations definitions, t.WellFormed definitions
  enumerations : ∃ earlier later, enumerationDeclarations definitions = earlier ++ e :: later ∧
    ∀ e' ∈ earlier, e'.WellFormed

section Field

variable {catalog : Catalog} {table : String} {field : FieldDeclaration} {name : String}

/-- The declared types that mean something and refer to nothing are those with a reserved name. -/
theorem exists_classify_eq_ok_none_iff {type : TypeExpr} :
    (∃ c, classify catalog table type = .ok c ∧ c.target = none) ↔
      ∃ array name, type.Declares array name ∧ name ∈ reservedNames ∧ name ≠ table := by
  constructor
  · rintro ⟨c, hc, hnone⟩
    obtain ⟨name, hdeclares, hmeans⟩ := classify_eq_ok_iff.1 hc
    have htarget := hmeans.target_eq
    rw [hnone] at htarget
    have hrefers : ¬ (name = table ∨ name ∉ reservedNames) := by
      intro h
      rw [if_pos h] at htarget
      cases htarget
    rw [not_or, not_not] at hrefers
    exact ⟨c.array, name, hdeclares, hrefers.2, hrefers.1⟩
  · rintro ⟨array, name, hdeclares, hreserved, hne⟩
    have hsome : (meaning? catalog table name).isSome := isSome_meaning?_iff.2 (.inr (.inl hreserved))
    obtain ⟨⟨type, target⟩, hmeaning⟩ := Option.isSome_iff_exists.1 hsome
    have hmeans := meaning?_eq_some_iff.1 hmeaning
    have htarget := hmeans.target_eq
    rw [if_neg (by simp [hne, hreserved])] at htarget
    exact ⟨⟨array, type, target⟩, classify_eq_ok_iff.2 ⟨name, hdeclares, hmeans⟩, htarget⟩

/-- Behind fine directives and a declared type that means something, the reference fails the check exactly if there is
one and the type refers to nothing. -/
theorem head?_refViolations_eq_some_iff (hdirectives : ∀ d ∈ field.directives, d.WellFormed .field)
    {c : Classification} (hc : classify catalog table field.type = .ok c) :
    (refViolations catalog table field).head? = some (.refWithoutTable name) ↔
      (∃ d ∈ field.directives, d.name.text = MarkKind.ref.name) ∧ c.target = none ∧ field.name.text = name := by
  rw [← isSome_reference?_iff hdirectives]
  unfold refViolations
  rw [hc]
  cases reference? field.directives with
  | none => simp
  | some r =>
    obtain ⟨directive, column⟩ := r
    dsimp only
    cases c.target with
    | none => simp
    | some target => simp [List.head?_map]

/-- Problems with a declared type are not what fails the check, and neither are those with directives. -/
private theorem head?_map_problem_ne {problems : List Problem} :
    (problems.map Fault.problem).head? ≠ some (.refWithoutTable name) := by
  cases problems <;> simp

private theorem head?_directiveViolations_ne {site : Site} {directives : List Directive} :
    (directives.flatMap (directiveViolations site)).head? ≠ some (.refWithoutTable name) := by
  rw [ne_eq, ← (readMarks_reports site directives).eq_error_iff]
  intro h
  rcases exists_of_readMarks_eq_error h with ⟨_, hproblem⟩ | ⟨_, hcount, -⟩
  · cases hproblem
  · cases hcount

theorem head?_fieldViolations_eq_some_iff :
    (fieldViolations catalog table field).head? = some (.refWithoutTable name) ↔
      field.LacksTable table ∧ field.name.text = name := by
  unfold fieldViolations
  rw [head?_append_eq_some_iff_of_ne_left head?_directiveViolations_ne, flatMap_directiveViolations_eq_nil_iff,
    head?_append_eq_some_iff_of_ne_left head?_map_problem_ne, List.map_eq_nil_iff,
    ← (classify_reports catalog table field.type).exists_ok_iff]
  constructor
  · rintro ⟨hdirectives, ⟨c, hc⟩, hhead⟩
    obtain ⟨href, hnone, hname⟩ := (head?_refViolations_eq_some_iff hdirectives hc).1 hhead
    exact ⟨⟨hdirectives, href, exists_classify_eq_ok_none_iff.1 ⟨c, hc, hnone⟩⟩, hname⟩
  · rintro ⟨⟨hdirectives, href, htype⟩, hname⟩
    obtain ⟨c, hc, hnone⟩ := exists_classify_eq_ok_none_iff.2 htype
    exact ⟨hdirectives, ⟨c, hc⟩, (head?_refViolations_eq_some_iff hdirectives hc).2 ⟨href, hnone, hname⟩⟩

end Field

/-! ### The field that is reached first -/

theorem head?_tableViolations_eq_some_iff {definitions : List (Sourced Definition)}
    (hnodup : (declared definitions).tableNames.Nodup) {t : TableDeclaration} {name : String} :
    (tableViolations (declared definitions) t).head? = some (.refWithoutTable name) ↔
      ∃ field, t.Reaches (definitions.map (·.value)) field ∧ field.LacksTable t.name.text ∧ field.name.text = name := by
  have hrepeated : ∀ before field, (repeatedColumn before field).head? ≠ some (.refWithoutTable name) := by
    intro before field
    unfold repeatedColumn repetition
    split <;> simp
  unfold tableViolations
  rw [head?_append_eq_some_iff_of_ne_left head?_directiveViolations_ne, flatMap_directiveViolations_eq_nil_iff,
    head?_inOrder_eq_some_iff]
  simp only [inOrder_fieldViolations_eq_nil_iff hnodup, head?_append_eq_some_iff_of_ne_right (hrepeated _ _),
    head?_fieldViolations_eq_some_iff]
  constructor
  · rintro ⟨hdirectives, earlier, field, later, hfields, hearlier, hlacks⟩
    exact ⟨field, ⟨hdirectives, earlier, later, hfields, hearlier⟩, hlacks⟩
  · rintro ⟨field, ⟨hdirectives, earlier, later, hfields, hearlier⟩, hlacks⟩
    exact ⟨hdirectives, earlier, field, later, hfields, hearlier, hlacks⟩

/-- The tables that are reached are also reached in the catalog. -/
theorem exists_reachesTable_iff {definitions : List (Sourced Definition)} {p : TableDeclaration → Prop} :
    (∃ t, ReachesTable (definitions.map (·.value)) t ∧ p t) ↔
      ∃ earlier t later, (declared definitions).tables = earlier ++ t :: later ∧
        (∀ t' ∈ earlier, t'.value.WellFormed (definitions.map (·.value))) ∧ p t.value := by
  rw [exists_split_map_iff Sourced.value _ (TableDeclaration.WellFormed (definitions.map (·.value))),
    map_value_tables_declared]
  constructor
  · rintro ⟨t, ⟨earlier, later, htables, hearlier⟩, hp⟩
    exact ⟨earlier, t, later, htables, hearlier, hp⟩
  · rintro ⟨earlier, t, later, htables, hearlier, hp⟩
    exact ⟨t, ⟨earlier, later, htables, hearlier⟩, hp⟩

/-- Registering definitions fails with problems only. -/
private theorem head?_registering_ne {definitions : List (Sourced Definition)} {failure : Failure}
    (h : ∀ source p, failure ≠ .problem source p) :
    (inOrder (fun before d => (definitionViolations before d).map (Failure.problem d.source)) [] definitions).head? ≠
      some failure := by
  intro hhead
  obtain ⟨_, _, _, _, hmem⟩ := mem_inOrder_iff.1 (List.mem_of_mem_head? hhead)
  obtain ⟨p, -, hp⟩ := List.mem_map.1 hmem
  exact h _ p hp.symm

private theorem head?_map_inSource_eq_some_iff {source : Source} {faults : List Fault} (fault : Fault) :
    (faults.map (·.inSource source)).head? = some (fault.inSource source) ↔ faults.head? = some fault := by
  have hinjective : Function.Injective fun fault : Fault => fault.inSource source := by
    intro fault fault' h
    cases fault <;> cases fault' <;> cases h <;> rfl
  rw [List.head?_map]
  exact (Option.map_injective hinjective).eq_iff (b := some fault)

theorem head?_documentViolations_eq_some_iff {documents : List Document} {name : String} :
    (documentViolations documents).head? = some (.refWithoutTable name) ↔
      Registrable (documents.flatMap (·.definitions)) ∧
        ∃ t field, ReachesTable (documents.flatMap (·.definitions)) t ∧
          t.Reaches (documents.flatMap (·.definitions)) field ∧ field.LacksTable t.name.text ∧
          field.name.text = name := by
  rw [← map_value_flatMap_definitionsOf, registrable_iff]
  unfold documentViolations
  set definitions := documents.flatMap definitionsOf
  have hinSource : ∀ (source : Source) (faults : List Fault),
      (faults.map (·.inSource source)).head? = some (.refWithoutTable name) ↔
        faults.head? = some (.refWithoutTable name) :=
    fun source faults => head?_map_inSource_eq_some_iff (.refWithoutTable name)
  have henumerations :
      ((declared definitions).enumerations.flatMap fun e =>
        (enumerationViolations e.value).map (·.inSource e.source)).head? ≠ some (.refWithoutTable name) := by
    intro h
    obtain ⟨_, e, _, _, _, hhead⟩ := head?_flatMap_eq_some_iff.1 h
    rw [hinSource, ← (resolveEnumeration_reports e.value).eq_error_iff] at hhead
    exact resolveEnumeration_ne_refWithoutTable hhead
  rw [head?_append_eq_some_iff_of_ne_left (head?_registering_ne (by simp)), inOrder_definitionViolations_eq_nil_iff,
    head?_append_eq_some_iff_of_ne_right henumerations, head?_flatMap_eq_some_iff]
  refine and_congr_right fun ⟨_, hnodup, _⟩ => ?_
  simp only [hinSource, List.map_eq_nil_iff, tableViolations_eq_nil_iff hnodup,
    head?_tableViolations_eq_some_iff hnodup]
  simp only [exists_and_left]
  rw [exists_reachesTable_iff]

/-! ### The enumeration that is reached first -/

/-- The enumerations that are reached are also reached in the catalog. -/
theorem exists_reachesEnumeration_iff {definitions : List (Sourced Definition)} {p : EnumerationDeclaration → Prop} :
    (∃ e, ReachesEnumeration (definitions.map (·.value)) e ∧ p e) ↔
      (∀ t ∈ (declared definitions).tables, t.value.WellFormed (definitions.map (·.value))) ∧
        ∃ earlier e later, (declared definitions).enumerations = earlier ++ e :: later ∧
          (∀ e' ∈ earlier, e'.value.WellFormed) ∧ p e.value := by
  rw [exists_split_map_iff Sourced.value _ EnumerationDeclaration.WellFormed, map_value_enumerations_declared,
    ← List.forall_mem_map (f := Sourced.value), map_value_tables_declared]
  constructor
  · rintro ⟨e, ⟨htables, earlier, later, henumerations, hearlier⟩, hp⟩
    exact ⟨htables, earlier, e, later, henumerations, hearlier, hp⟩
  · rintro ⟨htables, earlier, e, later, henumerations, hearlier, hp⟩
    exact ⟨e, ⟨htables, earlier, later, henumerations, hearlier⟩, hp⟩

theorem head?_documentViolations_eq_integerTooLong_iff {documents : List Document} {count : Nat} :
    (documentViolations documents).head? = some (.integerTooLong count) ↔
      Registrable (documents.flatMap (·.definitions)) ∧
        ∃ e, ReachesEnumeration (documents.flatMap (·.definitions)) e ∧
          FirstTooLong .enumeration count e.directives := by
  rw [← map_value_flatMap_definitionsOf, registrable_iff]
  unfold documentViolations
  set definitions := documents.flatMap definitionsOf
  have hinSource : ∀ (source : Source) (faults : List Fault),
      (faults.map (·.inSource source)).head? = some (.integerTooLong count) ↔
        faults.head? = some (.integerTooLong count) :=
    fun source faults => head?_map_inSource_eq_some_iff (.integerTooLong count)
  have htables :
      ((declared definitions).tables.flatMap fun t =>
        (tableViolations (declared definitions) t.value).map (·.inSource t.source)).head? ≠
        some (.integerTooLong count) := by
    intro h
    obtain ⟨_, t, _, _, _, hhead⟩ := head?_flatMap_eq_some_iff.1 h
    rw [hinSource, ← (resolveTable_reports _ t.value).eq_error_iff] at hhead
    exact resolveTable_ne_integerTooLong t.value hhead
  rw [head?_append_eq_some_iff_of_ne_left (head?_registering_ne (by simp)),
    inOrder_definitionViolations_eq_nil_iff, head?_append_eq_some_iff_of_ne_left htables, head?_flatMap_eq_some_iff]
  refine and_congr_right fun ⟨_, hnodup, _⟩ => ?_
  simp only [hinSource, List.map_eq_nil_iff, List.flatMap_eq_nil_iff, tableViolations_eq_nil_iff hnodup,
    enumerationViolations_eq_nil_iff, ← (resolveEnumeration_reports _).eq_error_iff,
    resolveEnumeration_eq_integerTooLong_iff]
  rw [exists_reachesEnumeration_iff]

/-! ### Results -/

/-- The analysis fails behind the syntax exactly if all sources can be parsed and their documents fail so. -/
private theorem analyze_eq_error_iff_of_ne_syntaxError {sources : List Source} {failure : Failure}
    (h : ∀ source e, failure ≠ .syntaxError source e) :
    analyze sources = .error failure ↔
      ∃ documents, sources.mapM parse = .ok documents ∧ (documentViolations documents).head? = some failure := by
  have hsyntax : (sources.flatMap syntaxViolations).head? ≠ some failure := by
    intro hhead
    obtain ⟨source, -, hmem⟩ := List.mem_flatMap.1 (List.mem_of_mem_head? hhead)
    unfold syntaxViolations at hmem
    cases hparse : parse source <;> simp [hparse, h] at hmem
  rw [(analyze_reports sources).eq_error_iff, violations, head?_append_eq_some_iff_of_ne_left hsyntax,
    ← (mapM_parseSource_reports sources).exists_ok_iff]
  simp only [← mapM_parseSource_eq_ok_iff]
  constructor
  · rintro ⟨⟨documents, hparse⟩, hhead⟩
    rw [mapM_parseSource hparse] at hhead
    exact ⟨documents, hparse, hhead⟩
  · rintro ⟨documents, hparse, hhead⟩
    rw [← mapM_parseSource hparse] at hhead
    exact ⟨⟨documents, hparse⟩, hhead⟩

/-- The analysis fails on a reference without a table exactly if all sources can be parsed, their definitions can be
registered, and the first thing that is wrong with them is a field without a table to refer to. -/
theorem analyze_eq_refWithoutTable_iff {sources : List Source} {name : String} :
    analyze sources = .error (.refWithoutTable name) ↔
      ∃ documents, sources.mapM parse = .ok documents ∧ Registrable (documents.flatMap (·.definitions)) ∧
        ∃ t field, ReachesTable (documents.flatMap (·.definitions)) t ∧
          t.Reaches (documents.flatMap (·.definitions)) field ∧ field.LacksTable t.name.text ∧
          field.name.text = name := by
  rw [analyze_eq_error_iff_of_ne_syntaxError (by simp)]
  simp only [head?_documentViolations_eq_some_iff]

/-- The analysis breaks off at an integer exactly if all sources can be parsed, their definitions can be registered, and
the first thing that is wrong with them is the length of an integer. -/
theorem analyze_eq_integerTooLong_iff {sources : List Source} {count : Nat} :
    analyze sources = .error (.integerTooLong count) ↔
      ∃ documents, sources.mapM parse = .ok documents ∧ Registrable (documents.flatMap (·.definitions)) ∧
        ∃ e, ReachesEnumeration (documents.flatMap (·.definitions)) e ∧
          FirstTooLong .enumeration count e.directives := by
  rw [analyze_eq_error_iff_of_ne_syntaxError (by simp)]
  simp only [head?_documentViolations_eq_integerTooLong_iff]

/-- A check of the analysis on itself fails exactly where the analysis fails on a reference without a table. -/
theorem analysisResult_eq_internal_iff_analyze {sources : List Source} {e : InternalError} :
    analysisResult sources = .error (.internal e) ↔
      ∃ name, analyze sources = .error (.refWithoutTable name) ∧ e = .refWithoutTable name := by
  unfold analysisResult
  cases analyze sources with
  | ok schema => simp
  | error failure => cases failure <;> simp [eq_comm]

theorem analysisResult_eq_integerTooLong_iff_analyze {sources : List Source} {count : Nat} :
    analysisResult sources = .error (.integerTooLong count) ↔ analyze sources = .error (.integerTooLong count) := by
  unfold analysisResult
  cases analyze sources with
  | ok schema => simp
  | error failure => cases failure <;> simp

/-- A result holds the schema of the analysis or the report of its failure, and hands it out. -/
theorem exists_of_analysisResult_eq_ok {sources : List Source} {r : Result} (h : analysisResult sources = .ok r) :
    (∃ schema, analyze sources = .ok schema ∧ r = ⟨some schema, none⟩ ∧ r.unwrap = .ok schema) ∨
      ∃ failure report, analyze sources = .error failure ∧ failure.report? = some report ∧
        r = ⟨none, some report⟩ ∧ r.unwrap = .error (.report report) := by
  unfold analysisResult at h
  cases houtcome : analyze sources with
  | ok schema =>
    rw [houtcome] at h
    cases h
    exact .inl ⟨schema, rfl, rfl, rfl⟩
  | error failure =>
    rw [houtcome] at h
    cases failure with
    | syntaxError source e =>
      cases h
      exact .inr ⟨_, _, rfl, rfl, rfl, rfl⟩
    | problem source p =>
      cases h
      exact .inr ⟨_, _, rfl, rfl, rfl, rfl⟩
    | refWithoutTable field => cases h
    | integerTooLong digits => cases h

/-- The only check of the analysis on itself that fails is that of a reference without a table, and it fails for just
the sources whose first violation is such a reference.  Besides, an integer escapes, for just the sources whose first
violation is its length.  For all others there is a result: it holds a schema or a report and nothing else, and gives it
without failing the check of results.  The last check of a column never fails. -/
theorem analysisResult_eq_error_iff (sources : List Source) :
    (∀ e, analysisResult sources = .error (.internal e) ↔
        ∃ documents, sources.mapM parse = .ok documents ∧ Registrable (documents.flatMap (·.definitions)) ∧
          ∃ t field, ReachesTable (documents.flatMap (·.definitions)) t ∧
            t.Reaches (documents.flatMap (·.definitions)) field ∧ field.LacksTable t.name.text ∧
            e = .refWithoutTable field.name.text) ∧
      (∀ count, analysisResult sources = .error (.integerTooLong count) ↔
        ∃ documents, sources.mapM parse = .ok documents ∧ Registrable (documents.flatMap (·.definitions)) ∧
          ∃ e, ReachesEnumeration (documents.flatMap (·.definitions)) e ∧
            FirstTooLong .enumeration count e.directives) ∧
      (∀ r, analysisResult sources = .ok r →
        (∃ schema, analyze sources = .ok schema ∧ r = ⟨some schema, none⟩ ∧ r.unwrap = .ok schema) ∨
          ∃ failure report, analyze sources = .error failure ∧ failure.report? = some report ∧
            r = ⟨none, some report⟩ ∧ r.unwrap = .error (.report report)) ∧
      ∀ catalog table field column, resolveColumn catalog table field = .ok column →
        checkType column.type.text = .ok column.type := by
  refine ⟨fun e => ?_, fun count => ?_, fun r => exists_of_analysisResult_eq_ok, fun catalog table field column _ => ?_⟩
  · rw [analysisResult_eq_internal_iff_analyze]
    simp only [analyze_eq_refWithoutTable_iff]
    constructor
    · rintro ⟨_, ⟨documents, hparse, hregistrable, t, field, ht, hfield, hlacks, rfl⟩, rfl⟩
      exact ⟨documents, hparse, hregistrable, t, field, ht, hfield, hlacks, rfl⟩
    · rintro ⟨documents, hparse, hregistrable, t, field, ht, hfield, hlacks, rfl⟩
      exact ⟨_, ⟨documents, hparse, hregistrable, t, field, ht, hfield, hlacks, rfl⟩, rfl⟩
  · rw [analysisResult_eq_integerTooLong_iff_analyze, analyze_eq_integerTooLong_iff]
  · rw [checkType, ColumnType.ofText?_text]

/-- Sources without a result need not fail a check: there is an integer that is too long. -/
theorem not_results_or_internalErrors :
    ¬ ∀ sources, (∃ r, analysisResult sources = .ok r) ∨ ∃ e, analysisResult sources = .error (.internal e) := by
  intro h
  have hlong := analysisResult_eq_integerTooLong_iff_analyze.2 (analyze_onesSource (Nat.lt_succ_self Text.maxDigits))
  rcases h [onesSource (Text.maxDigits + 1)] with ⟨r, hr⟩ | ⟨e, he⟩
  · cases hr.symm.trans hlong
  · cases he.symm.trans hlong

/-- The same field in two tables: a scalar has no table to refer to, unless the enclosing table has its name. -/
example :
    analysisResult [.numbered 1 "type T \x7b a: i32 @unique @ref(column: \"a\") \x7d"] =
        .error (.internal (.refWithoutTable "a")) ∧
      ∃ schema, analysisResult [.numbered 1 "type i32 \x7b a: i32 @unique @ref(column: \"a\") \x7d"] =
        .ok ⟨some schema, none⟩ := by
  let a : Column := ⟨some "a", none, false, .scalar .i32, true, false, some ⟨"i32", some "a"⟩, none, none⟩
  exact ⟨by decide +kernel, ⟨[⟨"i32", [], [a]⟩], []⟩, by decide +kernel⟩

end TableSchema
