import TableSchema.Proofs.Nodes
import TableSchema.Proofs.Positions
import TableSchema.Proofs.Spans

/-!
# What a report points at

A report is told of one source.  It points at an offset in it if this is no document, and at nodes of one definition in
it otherwise.  There is a cause behind a syntax error, and behind a reference to a column that is not fit.  In the
latter case the cause points at this column, which may be in another source.

* (problems) `Problem.isSome_cause_iff`, `Problem.nodes_ne_nil` and `Problem.kind_not_mem` hold of every problem;
* (causes) `refusesTarget_of_mem_targetViolations`: what is wrong with a target shows at the field or at its type;
* (references) `Report.BlamesTarget` says how the report of a reference hangs together, from the field with the
  directive to the column that it leads to (`HasUnfitTarget.blamesTarget`).

Main statement: every report of a result is well shaped (`report_wellShaped`).
-/

namespace TableSchema

open Syntax Analysis

/-! ### Problems -/

theorem TypeProblem.kind_eq (problem : TypeProblem) :
    problem.kind = .invalidType ∨ problem.kind = .placeholderType := by
  cases problem with
  | malformed type => exact .inl rfl
  | placeholder type => exact .inr rfl

theorem Problem.isSome_cause_iff (p : Problem) : p.cause.isSome ↔ p.kind = .columnInvalid := by
  cases p with
  | declaredType problem => rcases problem.kind_eq with h | h <;> simp [Problem.cause, Problem.kind, h]
  | _ => simp [Problem.cause, Problem.kind]

theorem Problem.nodes_ne_nil (p : Problem) : p.nodes ≠ [] := by
  cases p <;> exact List.cons_ne_nil _ _

/-- No problem is a syntax error, and what can be wrong with the target of a reference is none by itself, except for
its declared type. -/
theorem Problem.kind_not_mem (p : Problem) :
    p.kind ∉ [.malformedSyntax, .columnArray, .columnNotUnique, .columnNotScalar] := by
  cases p with
  | declaredType problem => rcases problem.kind_eq with h | h <;> simp [Problem.kind, h]
  | _ => simp [Problem.kind]

/-! ### Causes -/

/-- A finding about a field as the target of a reference.  That the column is not unique shows at the whole field, and
anything else at its type. -/
def Finding.RefusesTarget (target : FieldDeclaration) (f : Finding) : Prop :=
  (f.kind = .columnNotUnique ∧ f.places = .nodes [target.node]) ∨
    (f.kind ∈ [.invalidType, .placeholderType, .columnArray, .columnNotScalar] ∧ f.places = .nodes [target.type.node])

theorem refusesTarget_of_mem_targetViolations {target : FieldDeclaration} {cause : TargetProblem}
    (h : cause ∈ targetViolations target) (source : Source) : (cause.finding source).RefusesTarget target := by
  unfold targetViolations at h
  cases hd : declaredType target.type with
  | error problem =>
    rw [hd] at h
    obtain rfl := List.mem_singleton.1 h
    have hnode : problem.node = target.type.node := node_of_declaredType_eq_error hd
    refine .inr ⟨?_, ?_⟩
    · show problem.kind ∈ _
      rcases problem.kind_eq with hkind | hkind <;> simp [hkind]
    · show Places.nodes [problem.node] = _
      rw [hnode]
  | ok declared =>
    rw [hd] at h
    simp only [List.mem_append] at h
    rcases h with (h | h) | h
    · split at h
      · obtain rfl := List.mem_singleton.1 h
        exact .inr ⟨by simp [TargetProblem.finding, TargetProblem.kind], rfl⟩
      · cases h
    · split at h
      · cases h
      · obtain rfl := List.mem_singleton.1 h
        exact .inl ⟨rfl, rfl⟩
    · split at h
      · cases h
      · obtain rfl := List.mem_singleton.1 h
        exact .inr ⟨by simp [TargetProblem.finding, TargetProblem.kind], rfl⟩

/-! ### References -/

/-- A report of a reference from a field of the table `t` to the column of the field `found` of the table `target`,
which is not fit: the reference directive is shown, and the cause shows why the column is not fit. -/
structure Report.BlamesTarget (definitions : List (Sourced Definition)) (r : Report) (t target : TableDeclaration)
    (field found : FieldDeclaration) (directive : Directive) (cause : Finding) : Prop where
  table_mem : ⟨r.finding.source, .table t⟩ ∈ definitions
  field_mem : field ∈ t.fields
  directive_mem : directive ∈ field.directives
  directive_name : directive.name.text = MarkKind.ref.name
  places_eq : r.finding.places = .nodes [directive.node]
  declares : ∃ array, field.type.Declares array target.name.text
  target_eq : (declared definitions).table? target.name.text = some ⟨cause.source, target⟩
  found_eq : ∃ column, reference? field.directives = some (directive, column) ∧
    target.fields.find? (·.name.text = column) = some found
  cause_eq : r.cause = some (.finding cause)
  refuses : cause.RefusesTarget found

/-- A type that refers to something declares its name. -/
theorem declares_of_classify {catalog : Catalog} {table name : String} {type : TypeExpr} {c : Classification}
    (h : classify catalog table type = .ok c) (htarget : c.target = some name) :
    ∃ array, type.Declares array name := by
  obtain ⟨name', hdeclares, hmeans⟩ := classify_eq_ok_iff.1 h
  have heq := hmeans.target_eq
  rw [htarget] at heq
  split at heq
  · cases heq
    exact ⟨c.array, hdeclares⟩
  · cases heq

theorem Syntax.FieldDeclaration.HasUnfitTarget.blamesTarget {definitions : List (Sourced Definition)} {source : Source}
    {t : TableDeclaration} {field : FieldDeclaration} {p : Problem} (ht : ⟨source, .table t⟩ ∈ definitions)
    (hfield : field ∈ t.fields) (h : field.HasUnfitTarget (declared definitions) t.name.text p) :
    ∃ target found directive cause,
      (p.report source).BlamesTarget definitions t target field found directive cause := by
  obtain ⟨directive, column, c, name, ⟨targetSource, target⟩, found, problem, href, hc, htarget, htable, hfound,
    hproblem, rfl⟩ := h
  obtain ⟨hmem, hname⟩ := mem_of_reference?_eq_some href
  obtain ⟨-, rfl⟩ := Catalog.table?_eq_some htable
  refine ⟨target, found, directive, problem.finding targetSource, ?_⟩
  exact {
    table_mem := ht
    field_mem := hfield
    directive_mem := hmem
    directive_name := hname
    places_eq := rfl
    declares := declares_of_classify hc htarget
    target_eq := htable
    found_eq := ⟨column, href, hfound⟩
    cause_eq := rfl
    refuses := refusesTarget_of_mem_targetViolations hproblem targetSource }

/-! ### Reports -/

/-- What a report about sources consists of.  A cause comes with syntax errors and invalid references only.  The offset
of a syntax error lies in a source that is no document, and any other report shows nodes of one definition in a
document.  What makes a column unfit as a target is told as a cause and never by itself. -/
structure Report.WellShaped (sources : List Source) (r : Report) : Prop where
  cause : r.cause.isSome ↔ r.finding.kind = .malformedSyntax ∨ r.finding.kind = .columnInvalid
  source : r.finding.source ∈ sources
  syntaxError : r.finding.kind = .malformedSyntax →
    ∃ e, parse r.finding.source = .error e ∧ r.finding.places = .offset e.position ∧
      e.position ≤ r.finding.source.body.length
  nodes : r.finding.kind ≠ .malformedSyntax →
    ∃ document shown, parse r.finding.source = .ok document ∧ r.finding.places = .nodes shown ∧ shown ≠ [] ∧
      ∃ d ∈ document.definitions, shown ⊆ d.nodes
  reference : r.finding.kind = .columnInvalid →
    ∃ documents t target field found directive cause, sources.mapM parse = .ok documents ∧
      r.BlamesTarget (documents.flatMap definitionsOf) t target field found directive cause
  outermost : r.finding.kind ∉ [.columnArray, .columnNotUnique, .columnNotScalar]

section Shape

variable {sources : List Source}

theorem wellShaped_of_syntaxError {source : Source} {e : SyntaxError} (hsource : source ∈ sources)
    (h : parse source = .error e) : (SyntaxError.report source e).WellShaped sources where
  cause := by simp [SyntaxError.report]
  source := hsource
  syntaxError _ := ⟨e, h, rfl, position_le_of_parse_eq_error h⟩
  nodes hkind := absurd rfl hkind
  reference hkind := by cases hkind
  outermost := by simp [SyntaxError.report]

/-- A definition of documents stands in the document that its source is parsed into. -/
theorem exists_parse_of_mem_definitions {documents : List Document} (h : sources.mapM parse = .ok documents)
    {d : Sourced Definition} (hd : d ∈ documents.flatMap definitionsOf) :
    d.source ∈ sources ∧ ∃ document, parse d.source = .ok document ∧ d.value ∈ document.definitions := by
  obtain ⟨document, hdocument, hd⟩ := List.mem_flatMap.1 hd
  obtain ⟨definition, hdefinition, rfl⟩ := List.mem_map.1 hd
  obtain ⟨source, hsource, hparse⟩ := exists_of_forall₂_of_mem (mapM_eq_ok_iff.1 h) hdocument
  obtain ⟨heq, -⟩ := reads_of_parse hparse
  show document.source ∈ sources ∧ _
  rw [heq]
  exact ⟨hsource, document, hparse, hdefinition⟩

theorem wellShaped_of_problem {documents : List Document} (h : sources.mapM parse = .ok documents) {source : Source}
    {p : Problem} (hp : .problem source p ∈ documentViolations documents) : (p.report source).WellShaped sources := by
  rw [documentViolations_eq, mem_violationsBehind_iff] at hp
  obtain ⟨earlier, d, later, hdefinitions, hmem⟩ := hp
  rw [List.nil_append] at hmem
  have hd : d ∈ documents.flatMap definitionsOf := by simp [hdefinitions]
  obtain ⟨hsource, document, hparse, hdefinition⟩ := exists_parse_of_mem_definitions h hd
  obtain ⟨rfl, hnodes⟩ : source = d.source ∧ p.nodes ⊆ d.value.nodes := standsIn_of_mem_violationsOf hmem
  have hkinds := p.kind_not_mem
  rw [List.mem_cons, not_or] at hkinds
  obtain ⟨hdocument, houtermost⟩ := hkinds
  refine {
    cause := ?_
    source := hsource
    syntaxError := fun hkind => absurd hkind hdocument
    nodes := fun _ => ⟨document, p.nodes, hparse, rfl, p.nodes_ne_nil, d.value, hdefinition, hnodes⟩
    reference := fun hkind => ?_
    outermost := houtermost }
  · show p.cause.isSome ↔ p.kind = .malformedSyntax ∨ p.kind = .columnInvalid
    rw [p.isSome_cause_iff, or_iff_right hdocument]
  · -- A problem with a cause is not one that shows in its definition alone.
    have hcause : p.cause.isSome := p.isSome_cause_iff.2 hkind
    obtain ⟨p', hp', hshows⟩ | ⟨t, ht, field, hfield, ⟨hnothing, -⟩ | ⟨p', hp', hunfit⟩⟩ | ⟨_, _, _, hlong, -⟩ :=
      mem_violationsOf hmem
    · cases hp'
      rw [hshows.1] at hcause
      cases hcause
    · cases hnothing
    · cases hp'
      have htable : ⟨d.source, .table t⟩ ∈ documents.flatMap definitionsOf := by rwa [← ht]
      obtain ⟨target, found, directive, cause, hblames⟩ := hunfit.blamesTarget htable hfield
      exact ⟨documents, t, target, field, found, directive, cause, h, hblames⟩
    · cases hlong

/-- An analysis fails on a source that is no document, or on one of the violations of the documents. -/
theorem analyze_eq_error_cases {failure : Failure} (h : analyze sources = .error failure) :
    (∃ source ∈ sources, ∃ e, parse source = .error e ∧ failure = .syntaxError source e) ∨
      ∃ documents, sources.mapM parse = .ok documents ∧ failure ∈ documentViolations documents := by
  cases hparse : sources.mapM parseSource with
  | error failure' =>
    rw [analyze_eq_bind, hparse] at h
    cases h
    have hmem := List.mem_of_mem_head? ((mapM_parseSource_reports sources).eq_error_iff failure |>.1 hparse)
    obtain ⟨source, hsource, hmem⟩ := List.mem_flatMap.1 hmem
    unfold syntaxViolations at hmem
    split at hmem
    · cases hmem
    · rename_i e he
      exact .inl ⟨source, hsource, e, he, List.mem_singleton.1 hmem⟩
  | ok documents =>
    have hdocuments : sources.mapM parse = .ok documents := mapM_parseSource_eq_ok_iff.1 hparse
    rw [analyze_eq_of_mapM_parse hdocuments] at h
    have hhead := (outcome_analyzeDocuments_reports documents).eq_error_iff failure |>.1 h
    exact .inr ⟨documents, hdocuments, List.mem_of_mem_head? hhead⟩

/-- Every report of a result is well shaped. -/
theorem report_wellShaped {result : Result} (h : analysisResult sources = .ok result) {r : Report}
    (hr : result.report = some r) : r.WellShaped sources := by
  obtain ⟨schema, -, rfl, -⟩ | ⟨failure, report, hfailure, hreport, rfl, -⟩ := exists_of_analysisResult_eq_ok h
  · cases hr
  · cases hr
    obtain ⟨source, hsource, e, he, rfl⟩ | ⟨documents, hdocuments, hmem⟩ := analyze_eq_error_cases hfailure
    · cases hreport
      exact wellShaped_of_syntaxError hsource he
    · cases failure with
      | syntaxError source e =>
        -- Nothing in documents is a syntax error.
        rw [documentViolations_eq, mem_violationsBehind_iff] at hmem
        obtain ⟨_, _, _, _, hmem⟩ := hmem
        exact (standsIn_of_mem_violationsOf hmem).elim
      | problem source p =>
        cases hreport
        exact wellShaped_of_problem hdocuments hmem
      | refWithoutTable name => cases hreport
      | integerTooLong count => cases hreport

end Shape

/-- A reference into another source, to a column that is not unique. -/
theorem report_wellShaped_across_sources :
    ∃ sources result r, analysisResult sources = .ok result ∧ result.report = some r ∧
      r.finding.kind = .columnInvalid ∧ (∃ cause, r.cause = some (.finding cause) ∧ cause.source ≠ r.finding.source) ∧
      r.WellShaped sources := by
  let from' := Source.numbered 1 "type A \x7b b: B @ref(column: \"id\") \x7d"
  let into := Source.numbered 2 "type B \x7b id: i32 \x7d"
  let cause : Finding :=
    ⟨.columnNotUnique, "Values in the referenced column must be unique.", into, .nodes [⟨.field, 9⟩]⟩
  let report : Report :=
    ⟨⟨.columnInvalid, "An error occurred while validating the referenced column.", from', .nodes [⟨.directive, 14⟩]⟩,
      some (.finding cause)⟩
  have h : analysisResult [from', into] = .ok ⟨none, some report⟩ := by decide +kernel
  exact ⟨_, _, report, h, rfl, rfl, ⟨cause, rfl, by decide⟩, report_wellShaped h rfl⟩

end TableSchema
