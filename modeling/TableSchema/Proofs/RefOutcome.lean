import TableSchema.Proofs.Mirror
import TableSchema.Proofs.References
import TableSchema.Proofs.Refusals

/-!
# What comes of a reference

A reference directive names a column of the table that the type of its field refers to.  `Catalog.Answers` lists what
can come of it, judged by the declaration of that table alone: the first field with the name counts, and of everything
that is wrong with this field the first in the order of the rules is told, as the cause of a report at the directive.

Main statement: exactly one outcome fits the declarations, and exactly this one shows in the column or in the report
(`ref_has_one_outcome`).
-/

namespace TableSchema

open Syntax

/-! ### Rules -/

/-- What can come of a reference: there is no such column, or it cannot be referred to, or it gives its type. -/
inductive RefOutcome
  | notFound
  | invalid (cause : Finding)
  | found (scalar : Scalar)

/-- The first field of a table with a name. -/
def Syntax.TableDeclaration.HasFirst (t : TableDeclaration) (name : String) (field : FieldDeclaration) : Prop :=
  field.name.text = name ∧ ∃ before after, t.fields = before ++ field :: after ∧ ∀ f ∈ before, f.name.text ≠ name

/-- What comes of a reference to a field, by its declared type and its directives. -/
inductive Syntax.FieldDeclaration.Answers (source : Source) (field : FieldDeclaration) : RefOutcome → Prop
  | malformed (hname : ∀ start name, field.type ≠ .named start name)
      (hlist : ∀ start inner name, field.type ≠ .list start (.named inner name)) :
    Answers source field (.invalid ⟨.invalidType, "Valid type expected.", source, .nodes [field.type.node]⟩)
  | placeholder {start : Nat} (h : field.type = .named start placeholder) :
    Answers source field (.invalid
      ⟨.placeholderType, "Unknown type is only allowed inside an array.", source, .nodes [field.type.node]⟩)
  | array {start inner : Nat} {name : String} (h : field.type = .list start (.named inner name)) :
    Answers source field (.invalid
      ⟨.columnArray, "Cannot refer to a column with an array type.", source, .nodes [field.type.node]⟩)
  | notUnique {start : Nat} {name : String} (h : field.type = .named start name) (hname : name ≠ TableSchema.placeholder)
      (hunique : ∀ d ∈ field.directives, d.name.text ≠ MarkKind.unique.name) :
    Answers source field (.invalid
      ⟨.columnNotUnique, "Values in the referenced column must be unique.", source, .nodes [field.node]⟩)
  | notScalar {start : Nat} {name : String} (h : field.type = .named start name) (hname : name ≠ TableSchema.placeholder)
      (hunique : ∃ d ∈ field.directives, d.name.text = MarkKind.unique.name) (hscalar : ∀ s : Scalar, name ≠ s.text) :
    Answers source field (.invalid
      ⟨.columnNotScalar, "Cannot refer to a column with a non-scalar type.", source, .nodes [field.type.node]⟩)
  | found {scalar : Scalar} (h : field.IsTarget scalar) : Answers source field (.found scalar)

/-- What comes of a reference to a column of a table. -/
inductive Catalog.Answers (catalog : Catalog) (table column : String) : RefOutcome → Prop
  | noTable (h : table ∉ catalog.tableNames) : Answers catalog table column .notFound
  | noField {t : Sourced TableDeclaration} (ht : catalog.table? table = some t)
      (h : ∀ field ∈ t.value.fields, field.name.text ≠ column) :
    Answers catalog table column .notFound
  | field {t : Sourced TableDeclaration} {field : FieldDeclaration} {outcome : RefOutcome}
      (ht : catalog.table? table = some t) (hfield : t.value.HasFirst column field)
      (h : field.Answers t.source outcome) :
    Answers catalog table column outcome

/-- How an outcome shows where a field with the reference directive `d` is resolved.  A column keeps everything that its
field says, apart from the type and the reference. -/
def RefOutcome.Shows (field : FieldDeclaration) (d : Directive) (table column : String) (r : Except Fault Column) :
    RefOutcome → Prop
  | notFound => ∃ p, r = .error (.problem p) ∧ ∀ source, p.report source =
      .plain source .columnNotFound s!"Can't find column \"{column}\" in table \"{table}\"." [d.node]
  | invalid cause => ∃ p, r = .error (.problem p) ∧ ∀ source, p.report source =
      ⟨⟨.columnInvalid, "An error occurred while validating the referenced column.", source, .nodes [d.node]⟩,
        some (.finding cause)⟩
  | found scalar => ∃ k : Column, r = .ok k ∧ k.type = .scalar scalar ∧ k.reference = some ⟨table, some column⟩ ∧
      k.Mirrors field

/-! ### The rules and the checks -/

/-- The outcome that the check of a target comes to. -/
def RefOutcome.ofTarget (source : Source) : Except TargetProblem (Option Scalar) → RefOutcome
  | .error cause => .invalid (cause.finding source)
  | .ok none => .notFound
  | .ok (some scalar) => .found scalar

/-- The outcome that the checks of a reference come to. -/
def Catalog.refOutcome (catalog : Catalog) (table column : String) : RefOutcome :=
  match catalog.table? table with
  | none => .notFound
  | some t => .ofTarget t.source (targetType t.value column)

theorem Syntax.TableDeclaration.hasFirst_iff {t : TableDeclaration} {name : String} {field : FieldDeclaration} :
    t.HasFirst name field ↔ t.fields.find? (·.name.text = name) = some field := by
  unfold HasFirst
  rw [List.find?_eq_some_iff_append]
  simp

section Rules

variable {t : TableDeclaration} {column : String} {field : FieldDeclaration} {source : Source} {outcome : RefOutcome}

/-- The check of a declared type in the right form. -/
theorem targetType_of_declares (hfield : t.HasFirst column field) {array : Bool} {name : String}
    (hdeclares : field.type.Declares array name) :
    targetType t column =
      if array then .error (.array field.type)
      else if (firstNamed MarkKind.unique.name field.directives).isNone then .error (.notUnique field)
      else match Scalar.ofName? name with
        | none => .error (.notScalar field.type)
        | some scalar => .ok (some scalar) := by
  have hdeclared := declaredType_eq_ok_iff.2 hdeclares
  unfold targetType
  rw [TableDeclaration.hasFirst_iff.1 hfield]
  dsimp only
  generalize declaredType field.type = declared at hdeclared ⊢
  subst hdeclared
  rfl

theorem targetType_of_error (hfield : t.HasFirst column field) {problem : TypeProblem}
    (h : declaredType field.type = .error problem) : targetType t column = .error (.declaredType problem) := by
  unfold targetType
  rw [TableDeclaration.hasFirst_iff.1 hfield]
  dsimp only
  rw [h]

theorem targetType_of_absent (h : ∀ f ∈ t.fields, f.name.text ≠ column) : targetType t column = .ok none := by
  have hfind : t.fields.find? (·.name.text = column) = none := by simpa using h
  unfold targetType
  rw [hfind]

theorem declaredType_of_malformed {type : TypeExpr} (hname : ∀ start name, type ≠ .named start name)
    (hlist : ∀ start inner name, type ≠ .list start (.named inner name)) :
    declaredType type = .error (.malformed type) := by
  unfold declaredType
  split
  · exact absurd rfl (hname _ _)
  · exact absurd rfl (hlist _ _ _)
  · rfl

theorem declaredType_placeholder (start : Nat) :
    declaredType (.named start placeholder) = .error (.placeholder (.named start placeholder)) := by
  simp [declaredType]

theorem firstNamed_eq_none_iff {name : String} {directives : List Directive} :
    firstNamed name directives = none ↔ ∀ d ∈ directives, d.name.text ≠ name := by
  simp [firstNamed]

/-- What the rules say of a field is what its check comes to. -/
theorem Syntax.FieldDeclaration.Answers.eq_ofTarget (h : field.Answers source outcome)
    (hfield : t.HasFirst column field) : outcome = .ofTarget source (targetType t column) := by
  cases h with
  | malformed hname hlist =>
    rw [targetType_of_error hfield (declaredType_of_malformed hname hlist)]
    rfl
  | @placeholder start htype =>
    have herror : declaredType field.type = .error (.placeholder field.type) := by
      rw [htype, declaredType_placeholder]
    rw [targetType_of_error hfield herror]
    rfl
  | @array start inner name htype =>
    have hdeclares : field.type.Declares true name := htype ▸ .list start inner name
    rw [targetType_of_declares hfield hdeclares]
    rfl
  | @notUnique start name htype hname hunique =>
    have hdeclares : field.type.Declares false name := htype ▸ .single start hname
    rw [targetType_of_declares hfield hdeclares, firstNamed_eq_none_iff.2 hunique]
    rfl
  | @notScalar start name htype hname hunique hscalar =>
    have hdeclares : field.type.Declares false name := htype ▸ .single start hname
    obtain ⟨d, hd⟩ := Option.isSome_iff_exists.1 (isSome_firstNamed_iff.2 hunique)
    have hnone : Scalar.ofName? name = none := by
      simpa using mt isSome_ofName?_iff.1 (not_exists.2 hscalar)
    rw [targetType_of_declares hfield hdeclares, hd, hnone]
    rfl
  | found his =>
    rw [targetType_eq_ok_some_iff.2 ⟨field, TableDeclaration.hasFirst_iff.1 hfield, his⟩]
    rfl

/-- The rules leave no field out. -/
theorem Syntax.TableDeclaration.HasFirst.answers (hfield : t.HasFirst column field) (source : Source) :
    field.Answers source (.ofTarget source (targetType t column)) := by
  -- three forms of types end here
  have hmalformed : (∀ start name, field.type ≠ .named start name) →
      (∀ start inner name, field.type ≠ .list start (.named inner name)) →
        field.Answers source (.ofTarget source (targetType t column)) := by
    intro hname hlist
    rw [targetType_of_error hfield (declaredType_of_malformed hname hlist)]
    exact .malformed hname hlist
  cases htype : field.type with
  | named start name =>
    by_cases hname : name = placeholder
    · subst hname
      have herror : declaredType field.type = .error (.placeholder field.type) := by
        rw [htype, declaredType_placeholder]
      rw [targetType_of_error hfield herror]
      exact .placeholder htype
    · have hdeclares : field.type.Declares false name := htype ▸ .single start hname
      rw [targetType_of_declares hfield hdeclares]
      cases hunique : firstNamed MarkKind.unique.name field.directives with
      | none => exact .notUnique htype hname (firstNamed_eq_none_iff.1 hunique)
      | some d =>
        have hexists := isSome_firstNamed_iff.1 (Option.isSome_of_eq_some hunique)
        cases hscalar : Scalar.ofName? name with
        | none =>
          refine .notScalar htype hname hexists fun s hs => ?_
          rw [hs, Scalar.ofName?_text] at hscalar
          cases hscalar
        | some scalar =>
          obtain rfl := Scalar.text_of_ofName? hscalar
          exact .found ⟨⟨start, htype⟩, hexists⟩
  | list start item =>
    cases item with
    | named inner name =>
      have hdeclares : field.type.Declares true name := htype ▸ .list start inner name
      rw [targetType_of_declares hfield hdeclares]
      exact .array htype
    | list => exact hmalformed (by simp [htype]) (by simp [htype])
    | nonNull => exact hmalformed (by simp [htype]) (by simp [htype])
  | nonNull => exact hmalformed (by simp [htype]) (by simp [htype])

end Rules

section Catalog

variable {catalog : Catalog} {table column : String} {outcome : RefOutcome}

/-- Exactly one outcome fits the declarations: the one that the checks come to. -/
theorem Catalog.answers_iff : catalog.Answers table column outcome ↔ outcome = catalog.refOutcome table column := by
  unfold Catalog.refOutcome
  constructor
  · intro h
    cases h with
    | noTable h =>
      rw [table?_eq_none_iff.2 h]
    | noField ht h =>
      rw [ht]
      dsimp only
      rw [targetType_of_absent h]
      rfl
    | field ht hfield h =>
      rw [ht]
      exact h.eq_ofTarget hfield
  · rintro rfl
    cases ht : catalog.table? table with
    | none => exact .noTable (table?_eq_none_iff.1 ht)
    | some t =>
      dsimp only
      cases hfind : t.value.fields.find? (·.name.text = column) with
      | none =>
        have habsent : ∀ f ∈ t.value.fields, f.name.text ≠ column := by simpa using hfind
        rw [targetType_of_absent habsent]
        exact .noField ht habsent
      | some field =>
        have hfield := TableDeclaration.hasFirst_iff.2 hfind
        exact .field ht hfield (hfield.answers t.source)

end Catalog

/-! ### The resolution of a field with a reference -/

section Resolution

variable {catalog : Catalog} {table target column : String} {field : FieldDeclaration} {d : Directive}
  {marks : List Marked} {c : Classification}

/-- The outcome that a result can show: a column tells it by its type, a problem by its cause. -/
def RefOutcome.shown? : Except Fault Column → Option RefOutcome
  | .ok k =>
    match k.type with
    | .scalar scalar => some (.found scalar)
    | _ => none
  | .error (.problem p) =>
    match p.cause with
    | none => some .notFound
    | some (.finding cause) => some (.invalid cause)
    | some (.parser _) => none
  | .error (.refWithoutTable _) => none
  | .error (.integerTooLong _) => none

theorem RefOutcome.Shows.shown?_eq {r : Except Fault Column} {outcome : RefOutcome}
    (h : outcome.Shows field d target column r) : RefOutcome.shown? r = some outcome := by
  cases outcome with
  | notFound =>
    obtain ⟨p, rfl, hp⟩ := h
    -- what is said of all sources is read off at one of them
    have hcause : p.cause = none := congrArg Report.cause (hp (.ofText "" ""))
    simp only [RefOutcome.shown?, hcause]
  | invalid cause =>
    obtain ⟨p, rfl, hp⟩ := h
    have hcause : p.cause = some (.finding cause) := congrArg Report.cause (hp (.ofText "" ""))
    simp only [RefOutcome.shown?, hcause]
  | found scalar =>
    obtain ⟨k, rfl, htype, -⟩ := h
    simp only [RefOutcome.shown?, htype]

/-- A result shows at most one outcome. -/
theorem RefOutcome.Shows.unique {r : Except Fault Column} {outcome outcome' : RefOutcome}
    (h : outcome.Shows field d target column r) (h' : outcome'.Shows field d target column r) : outcome = outcome' :=
  Option.some_inj.1 (h.shown?_eq.symm.trans h'.shown?_eq)

section

variable (hmarks : readMarks .field field.directives = .ok marks) (hfirst : firstRef marks = some (d, column))
  (hc : classify catalog table field.type = .ok c) (htarget : c.target = some target)

include hmarks hfirst hc htarget

theorem resolveColumn_of_referencedType_eq_error {p : Problem}
    (h : referencedType catalog d target column = .error p) :
    resolveColumn catalog table field = .error (.problem p) := by
  have happly : applyRef catalog field marks c = .error (.problem p) := by
    rw [applyRef_of_target hfirst htarget, h]
    rfl
  unfold resolveColumn
  rw [hmarks, hc]
  show (applyRef catalog field marks c >>= _) = _
  rw [happly]
  rfl

theorem shows_of_referencedType_eq_ok {scalar : Scalar} (h : referencedType catalog d target column = .ok scalar) :
    (RefOutcome.found scalar).Shows field d target column (resolveColumn catalog table field) := by
  have happly : applyRef catalog field marks c = .ok (.scalar scalar, some ⟨target, some column⟩) :=
    applyRef_eq_ok_iff.2 (.inr ⟨d, column, target, scalar, hfirst, htarget, h, rfl, rfl⟩)
  have hcolumn := resolveColumn_eq_ok_iff.2 ⟨marks, c, _, _, hmarks, hc, happly, rfl⟩
  exact ⟨_, hcolumn, rfl, rfl, mirrors_of_resolveColumn hcolumn⟩

/-- The outcome that the checks come to shows. -/
theorem refOutcome_shows :
    (catalog.refOutcome target column).Shows field d target column (resolveColumn catalog table field) := by
  have herror : ∀ {p}, referencedType catalog d target column = .error p →
      resolveColumn catalog table field = .error (.problem p) :=
    resolveColumn_of_referencedType_eq_error hmarks hfirst hc htarget
  have hok : ∀ {scalar}, referencedType catalog d target column = .ok scalar →
      (RefOutcome.found scalar).Shows field d target column (resolveColumn catalog table field) :=
    shows_of_referencedType_eq_ok hmarks hfirst hc htarget
  unfold referencedType at herror hok
  unfold Catalog.refOutcome
  cases ht : catalog.table? target with
  | none =>
    rw [ht] at herror
    exact ⟨_, herror rfl, fun _ => rfl⟩
  | some t =>
    rw [ht] at herror hok
    dsimp only at herror hok ⊢
    cases hcheck : targetType t.value column with
    | error cause =>
      rw [hcheck] at herror
      exact ⟨_, herror rfl, fun _ => rfl⟩
    | ok found =>
      rw [hcheck] at herror hok
      cases found with
      | none => exact ⟨_, herror rfl, fun _ => rfl⟩
      | some scalar => exact hok rfl

end

end Resolution

/-- Where the declared type of a field refers to a name, its first reference directive has exactly one outcome, by the
declaration under this name, and exactly this one shows. -/
theorem ref_has_one_outcome {catalog : Catalog} {table target column : String} {field : FieldDeclaration}
    {d : Directive} {c : Classification} (hdirectives : ∀ e ∈ field.directives, e.WellFormed .field)
    (hfirst : firstNamed MarkKind.ref.name field.directives = some d) (hsaid : d.Says (.ref column))
    (hc : classify catalog table field.type = .ok c) (htarget : c.target = some target) :
    ∃ outcome, ∀ other,
      (catalog.Answers target column other ↔ other = outcome) ∧
        (other.Shows field d target column (resolveColumn catalog table field) ↔ other = outcome) := by
  obtain ⟨marks, hmarks⟩ := exists_readMarks_eq_ok_iff.2 hdirectives
  have href : firstRef marks = some (d, column) := by
    rw [firstRef_eq_reference? hmarks]
    exact (reference?_eq_some_iff hdirectives).2 ⟨hfirst, hsaid⟩
  have hshows := refOutcome_shows hmarks href hc htarget
  -- the declarations and the result have it in common
  refine ⟨catalog.refOutcome target column, fun other => ⟨Catalog.answers_iff, fun h => h.unique hshows, ?_⟩⟩
  rintro rfl
  exact hshows

/-- A target in a list, which is neither unique nor of a scalar type: the list is told, at the first of two fields. -/
theorem ref_has_one_outcome_list :
    ∃ (catalog : Catalog) (t : Sourced TableDeclaration) (first second field : FieldDeclaration) (d : Directive)
      (outcome : RefOutcome),
      t ∈ catalog.tables ∧ t.value.fields = [first, second] ∧ first.name.text = second.name.text ∧
        outcome = .invalid ⟨.columnArray, "Cannot refer to a column with an array type.", t.source,
          .nodes [first.type.node]⟩ ∧
        ∀ other : RefOutcome, other.Shows field d "R" "c" (resolveColumn catalog "T" field) ↔ other = outcome := by
  let source : Source := ⟨"R.graphql", "type R { c: [R] c: i32 @unique }", ⟨1, 1⟩⟩
  let first : FieldDeclaration := ⟨9, none, ⟨9, "c"⟩, [], .list 12 (.named 13 "R"), []⟩
  let second : FieldDeclaration := ⟨16, none, ⟨16, "c"⟩, [], .named 19 "i32", [⟨23, ⟨24, "unique"⟩, []⟩]⟩
  let t : Sourced TableDeclaration := ⟨source, ⟨0, 32, none, ⟨5, "R"⟩, [], [], [first, second]⟩⟩
  let d : Directive := ⟨14, ⟨15, "ref"⟩, [⟨⟨19, "column"⟩, .literal (.string 27 "c")⟩]⟩
  let field : FieldDeclaration := ⟨9, none, ⟨9, "x"⟩, [], .named 12 "R", [d]⟩
  let catalog : Catalog := ⟨[t], []⟩
  have hdirectives : ∀ e ∈ field.directives, e.WellFormed .field :=
    flatMap_directiveViolations_eq_nil_iff.1 (by decide)
  have href : firstNamed MarkKind.ref.name field.directives = some d := rfl
  have hsaid : d.Says (.ref "c") := ⟨rfl, .ref _ _ _⟩
  have hclass : classify catalog "T" field.type = .ok ⟨false, .foreignRow, some "R"⟩ := rfl
  obtain ⟨outcome, houtcome⟩ := ref_has_one_outcome hdirectives href hsaid hclass rfl
  have hfirst : t.value.HasFirst "c" first := ⟨rfl, [], [second], rfl, by simp⟩
  have hanswers : catalog.Answers "R" "c" _ := .field rfl hfirst (.array rfl)
  refine ⟨catalog, t, first, second, field, d, outcome, .head _, rfl, rfl, ?_, fun other => (houtcome other).2⟩
  exact ((houtcome _).1.1 hanswers).symm

end TableSchema
