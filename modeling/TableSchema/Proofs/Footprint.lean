import TableSchema.Proofs.RefOutcome
import TableSchema.Proofs.Verdict

/-!
# What a column depends on

A field becomes a column in three steps: its directives are read, its type is classified, and its first reference is
followed.  Only the last two see the catalog, and they see little of it.  Changes of the type and of the catalog are
followed through these steps by `resolveColumn_counterpart`, up to the places that are told with a failure.

* (arrays) a name means the same in an array and outside: what becomes of the field differs in being an array only
  (`list_resolves_alike`);
* (footprint) a field needs to know whether its declared name is a table and whether it is an enumeration, and of the
  field that its first reference names the type and the names of the directives (`Catalog.AgreesOn`).  Everything else
  can change freely (`Catalog.Spares`), and its column stays the same (`resolveColumn_local`).
-/

namespace TableSchema

open Syntax

/-! ### Verdicts on a single declaration -/

/-- What is told of a problem apart from places. -/
def Problem.verdict (p : Problem) : Verdict :=
  ⟨some p.kind, p.message, p.cause.map Cause.verdict⟩

/-- What is told of a fault apart from places. -/
def Fault.verdict : Fault → Verdict
  | .problem p => p.verdict
  | .refWithoutTable field => ⟨none, refWithoutTableMessage field, none⟩
  | .integerTooLong digits => ⟨none, Text.integerTooLongMessage digits, none⟩

/-- What is told of a problem with a target apart from places. -/
def TargetProblem.verdict (p : TargetProblem) : Option ProblemKind × String :=
  (some p.kind, p.message)

/-! ### Following the steps of a field -/

section Runs

variable {ε ν α α' β β' : Type} {e : ε → ν}

/-- Two runs in a row that tell the same, as long as each step does. -/
theorem mapError_bind_counterpart {r : Except ε α} {r' : Except ε α'} {next : α → Except ε β}
    {next' : α' → Except ε β'} {k : α → α'} {l : β → β'} (h : r'.mapError e = k <$> r.mapError e)
    (hnext : ∀ a, r = .ok a → (next' (k a)).mapError e = l <$> (next a).mapError e) :
    (r' >>= next').mapError e = l <$> (r >>= next).mapError e := by
  cases r with
  | error problem =>
    cases r' with
    | error problem' => exact congrArg Except.error (Except.error.inj h)
    | ok a' => cases h
  | ok a =>
    obtain rfl := mapError_eq_ok_iff.1 h
    exact hnext a rfl

theorem mapError_mapError {ε' : Type} {f : ε' → ε} {r : Except ε' α} :
    (r.mapError f).mapError e = r.mapError fun x => e (f x) := by
  cases r <;> rfl

end Runs

section Steps

variable {catalog catalog' : Catalog} {table : String} {field : FieldDeclaration} {type' : TypeExpr}

/-- Following a reference looks at the name of the field, and at nothing else of its declaration. -/
theorem applyRef_counterpart {marks : List Marked} {c : Classification} (array : Bool)
    (href : ∀ d column target, firstRef marks = some (d, column) → c.target = some target →
      (referencedType catalog' d target column).mapError Problem.verdict =
        (referencedType catalog d target column).mapError Problem.verdict) :
    (applyRef catalog' { field with type := type' } marks { c with array := array }).mapError Fault.verdict =
      (applyRef catalog field marks c).mapError Fault.verdict := by
  cases hfirst : firstRef marks with
  | none => simp only [applyRef, hfirst]
  | some found =>
    obtain ⟨d, column⟩ := found
    cases htarget : c.target with
    | none => simp only [applyRef, hfirst, htarget]
    | some target =>
      rw [applyRef_of_target hfirst htarget, applyRef_of_target (c := ⟨array, c.type, some target⟩) hfirst rfl,
        map_mapError, map_mapError, mapError_mapError, mapError_mapError]
      exact congrArg _ (href d column target hfirst htarget)

/-- Where classifying the type and following the reference come to the same, apart from places and from arrays, so does
the field. -/
theorem resolveColumn_counterpart (onArray : Bool → Bool)
    (hclassify : (classify catalog' table type').mapError Problem.verdict =
      (fun c => { c with array := onArray c.array }) <$> (classify catalog table field.type).mapError Problem.verdict)
    (href : ∀ d column c target, firstNamed MarkKind.ref.name field.directives = some d → d.Says (.ref column) →
      classify catalog table field.type = .ok c → c.target = some target →
      (referencedType catalog' d target column).mapError Problem.verdict =
        (referencedType catalog d target column).mapError Problem.verdict) :
    (resolveColumn catalog' table { field with type := type' }).mapError Fault.verdict =
      (fun column => { column with array := onArray column.array }) <$>
        (resolveColumn catalog table field).mapError Fault.verdict := by
  unfold resolveColumn
  refine mapError_bind_counterpart (id_map _).symm fun marks hmarks => ?_
  refine mapError_bind_counterpart (k := fun c => { c with array := onArray c.array }) ?_ fun c hc => ?_
  · rw [mapError_mapError, mapError_mapError]
    exact hclassify
  · have hdirectives := exists_readMarks_eq_ok_iff.1 ⟨marks, hmarks⟩
    refine mapError_bind_counterpart (k := id) ?_ fun _ _ => rfl
    rw [id_map]
    refine applyRef_counterpart (onArray c.array) fun d column target hfirst htarget => ?_
    rw [id_eq, firstRef_eq_reference? hmarks] at hfirst
    obtain ⟨hnamed, hsaid⟩ := (reference?_eq_some_iff hdirectives).1 hfirst
    exact href d column c target hnamed hsaid (mapError_eq_ok_iff.1 hc) htarget

end Steps

/-! ### Arrays -/

section Arrays

variable {catalog : Catalog} {table name : String} {field : FieldDeclaration} {column : Column}

/-- An array of what a name means, as a type. -/
theorem classify_list (catalog : Catalog) (table : String) (hname : name ≠ placeholder) (start start' inner : Nat) :
    (classify catalog table (.list start' (.named inner name))).mapError Problem.verdict =
      (fun c => { c with array := true }) <$>
        (classify catalog table (.named start name)).mapError Problem.verdict := by
  have hnamed : declaredType (.named start name) = .ok ⟨false, name⟩ := declaredType_eq_ok_iff.2 (.single start hname)
  have hlist : declaredType (.list start' (.named inner name)) = .ok ⟨true, name⟩ := rfl
  unfold classify
  rw [hnamed, hlist]
  dsimp only
  cases meaning? catalog table name <;> rfl

/-- A type refers to nothing or to the name that it is declared with. -/
theorem target_of_classify {array : Bool} {type : TypeExpr} {c : Classification} {target : String}
    (hdeclares : type.Declares array name) (hc : classify catalog table type = .ok c)
    (htarget : c.target = some target) : target = name := by
  obtain ⟨name', hdeclares', hmeans⟩ := classify_eq_ok_iff.1 hc
  obtain ⟨-, rfl⟩ := hdeclares.unique hdeclares'
  have heq := hmeans.target_eq
  rw [htarget] at heq
  split at heq
  · exact Option.some.inj heq
  · cases heq

/-- The column of a field with a reference directive has the type of the field that the directive names. -/
theorem type_of_reference {array : Bool} (hdeclares : field.type.Declares array name)
    (h : resolveColumn catalog table field = .ok column) {d : Directive} {said : String}
    (hfirst : firstNamed MarkKind.ref.name field.directives = some d) (hsaid : d.Says (.ref said)) :
    ∃ t target scalar, catalog.table? name = some t ∧ t.value.HasFirst said target ∧ target.IsTarget scalar ∧
      column.type = .scalar scalar ∧ column.reference = some ⟨name, some said⟩ := by
  obtain ⟨marks, c, type, reference, hmarks, hc, happly, rfl⟩ := resolveColumn_eq_ok_iff.1 h
  have hdirectives := exists_readMarks_eq_ok_iff.1 ⟨marks, hmarks⟩
  have href : firstRef marks = some (d, said) := by
    rw [firstRef_eq_reference? hmarks]
    exact (reference?_eq_some_iff hdirectives).2 ⟨hfirst, hsaid⟩
  rcases applyRef_eq_ok_iff.1 happly with ⟨hnone, -⟩ | ⟨d', said', _, scalar, hsome, htarget, hcheck, rfl, rfl⟩
  · rw [href] at hnone
    cases hnone
  · obtain ⟨rfl, rfl⟩ := Prod.mk.inj (Option.some.inj (href.symm.trans hsome))
    obtain rfl := target_of_classify hdeclares hc htarget
    obtain ⟨t, ht, target, htargetField, his⟩ := referencedType_eq_ok_iff.1 hcheck
    exact ⟨t, target, scalar, ht, TableDeclaration.hasFirst_iff.2 htargetField, his, rfl, rfl⟩

/-- A field whose type is a name other than the placeholder resolves as it does with a list of this name for its type:
either both give a column, and these columns are the same but for one being an array, or both fail with the same
verdict.  A reference gives both of them the type of the field that it names. -/
theorem list_resolves_alike {start : Nat} (htype : field.type = .named start name) (hname : name ≠ placeholder)
    (start' inner : Nat) :
    (∃ column : Column, resolveColumn catalog table field = .ok column ∧ column.array = false ∧
        resolveColumn catalog table { field with type := .list start' (.named inner name) } =
          .ok { column with array := true } ∧
        ∀ d said, firstNamed MarkKind.ref.name field.directives = some d → d.Says (.ref said) →
          ∃ t target scalar, catalog.table? name = some t ∧ t.value.HasFirst said target ∧ target.IsTarget scalar ∧
            column.type = .scalar scalar ∧ column.reference = some ⟨name, some said⟩) ∨
      ∃ fault fault', resolveColumn catalog table field = .error fault ∧
        resolveColumn catalog table { field with type := .list start' (.named inner name) } = .error fault' ∧
        fault'.verdict = fault.verdict := by
  have hdeclares : field.type.Declares false name := htype ▸ .single start hname
  have hclassify := classify_list catalog table hname start start' inner
  rw [← htype] at hclassify
  have hverdict := resolveColumn_counterpart (fun _ => true) hclassify fun _ _ _ _ _ _ _ _ => rfl
  cases hcolumn : resolveColumn catalog table field with
  | error fault =>
    rw [hcolumn] at hverdict
    cases hlist : resolveColumn catalog table { field with type := .list start' (.named inner name) } with
    | error fault' =>
      rw [hlist] at hverdict
      exact .inr ⟨fault, fault', rfl, rfl, Except.error.inj hverdict⟩
    | ok column' =>
      rw [hlist] at hverdict
      cases hverdict
  | ok column =>
    rw [hcolumn] at hverdict
    refine .inl ⟨column, rfl, ?_, mapError_eq_ok_iff.1 hverdict, fun d said => type_of_reference hdeclares hcolumn⟩
    rw [Bool.eq_false_iff, ne_eq, (mirrors_of_resolveColumn hcolumn).array, htype]
    simp

/-- A list of the rows of a table, with a reference to one of its columns: the items get the type of this column. -/
theorem list_resolves_alike_reference :
    ∃ (catalog : Catalog) (field : FieldDeclaration) (start inner : Nat) (column : Column),
      field.type = .named start "R" ∧ (∃ d ∈ field.directives, d.Says (.ref "c")) ∧
        resolveColumn catalog "T" field = .ok column ∧ column.type = .scalar .i32 ∧ column.array = false ∧
        resolveColumn catalog "T" { field with type := .list start (.named inner "R") } =
          .ok { column with array := true } := by
  let source : Source := ⟨"R.graphql", "type R \x7b c: i32 @unique \x7d", ⟨1, 1⟩⟩
  let c : FieldDeclaration := ⟨9, none, ⟨9, "c"⟩, [], .named 12 "i32", [⟨16, ⟨17, "unique"⟩, []⟩]⟩
  let catalog : Catalog := ⟨[⟨source, ⟨0, 25, none, ⟨5, "R"⟩, [], [], [c]⟩⟩], []⟩
  let d : Directive := ⟨14, ⟨15, "ref"⟩, [⟨⟨19, "column"⟩, .literal (.string 27 "c")⟩]⟩
  let field : FieldDeclaration := ⟨9, none, ⟨9, "x"⟩, [], .named 12 "R", [d]⟩
  have hname : "R" ≠ placeholder := by decide
  have hsaid : d.Says (.ref "c") := ⟨rfl, .ref _ _ _⟩
  have hresolves : ∃ column, resolveColumn catalog "T" field = .ok column ∧ column.type = .scalar .i32 := ⟨_, rfl, rfl⟩
  obtain ⟨column, hcolumn, htype⟩ := hresolves
  refine ⟨catalog, field, 12, 13, column, rfl, ⟨d, .head _, hsaid⟩, hcolumn, htype, ?_⟩
  rcases @list_resolves_alike catalog "T" "R" field 12 rfl hname 12 13 with
    ⟨_, hcolumn', harray, hlist, -⟩ | ⟨fault, -, hfault, -⟩
  · obtain rfl := Except.ok.inj (hcolumn.symm.trans hcolumn')
    exact ⟨harray, hlist⟩
  · cases hcolumn.symm.trans hfault

end Arrays

/-! ### The footprint of a field -/

/-- The name that a type is written with, alone or in a list. -/
def Syntax.TypeExpr.name? : TypeExpr → Option String
  | .named _ name => some name
  | .list _ (.named _ name) => some name
  | _ => none

/-- What a reference sees of the field that it names: the type without its place, and the names of the directives. -/
structure Face where
  type : TypeExpr
  directives : List String
deriving DecidableEq

/-- What references see of a field. -/
def Syntax.FieldDeclaration.face (field : FieldDeclaration) : Face :=
  ⟨field.type.bare, field.directives.map (·.name.text)⟩

/-- What references see of the first field with a name in a table. -/
def Catalog.face? (catalog : Catalog) (table column : String) : Option Face :=
  (catalog.table? table).bind fun t => (t.value.fields.find? (·.name.text = column)).map FieldDeclaration.face

/-- Catalogs that agree on all that a field with a declared name needs. -/
structure Catalog.AgreesOn (catalog catalog' : Catalog) (name : String) (field : FieldDeclaration) : Prop where
  table : name ∈ catalog.tableNames ↔ name ∈ catalog'.tableNames
  enumeration : name ∈ catalog.enumerationNames ↔ name ∈ catalog'.enumerationNames
  target : ∀ d column, firstNamed MarkKind.ref.name field.directives = some d → d.Says (.ref column) →
    catalog.face? name column = catalog'.face? name column

/-- A change of a catalog that leaves alone what a field with a declared name needs.  Declarations of other names can be
edited, added, moved and removed.  So can, in a table of this name, all fields but those that the first reference
names, and of these all but their types and the names of their directives. -/
structure Catalog.Spares (catalog catalog' : Catalog) (name : String) (field : FieldDeclaration) : Prop where
  tables : List.Forall₂
    (fun t t' => ∀ d column, firstNamed MarkKind.ref.name field.directives = some d → d.Says (.ref column) →
      (t.value.fields.filter (·.name.text = column)).map FieldDeclaration.face =
        (t'.value.fields.filter (·.name.text = column)).map FieldDeclaration.face)
    (catalog.tables.filter (·.value.name.text = name)) (catalog'.tables.filter (·.value.name.text = name))
  enumerations : catalog.enumerations.filter (·.value.name.text = name) =
    catalog'.enumerations.filter (·.value.name.text = name)

section Footprint

variable {catalog catalog' : Catalog} {table name column : String} {field field' : FieldDeclaration}

/-- The first items of lists of counterparts are counterparts. -/
private theorem head?_of_forall₂ {α β : Type} {related : α → β → Prop} {as : List α} {bs : List β}
    (h : List.Forall₂ related as bs) :
    (as.head? = none ∧ bs.head? = none) ∨ ∃ a b, as.head? = some a ∧ bs.head? = some b ∧ related a b := by
  cases h with
  | nil => exact .inl ⟨rfl, rfl⟩
  | cons hfirst _ => exact .inr ⟨_, _, rfl, rfl, hfirst⟩

theorem Catalog.Spares.agreesOn (h : catalog.Spares catalog' name field) : catalog.AgreesOn catalog' name field := by
  -- a look-up takes the first of those that the change has to spare
  have htable? : ∀ c : Catalog, c.table? name = (c.tables.filter (·.value.name.text = name)).head? :=
    fun c => List.head?_filter.symm
  have hface? : ∀ (t : TableDeclaration) (column : String),
      (t.fields.find? (·.name.text = column)).map FieldDeclaration.face =
        ((t.fields.filter (·.name.text = column)).map FieldDeclaration.face).head? := by
    intro t column
    rw [List.head?_map, List.head?_filter]
  have henumeration? : catalog.enumeration? name = catalog'.enumeration? name := by
    rw [enumeration?, enumeration?, ← List.head?_filter, ← List.head?_filter, h.enumerations]
  have htables := head?_of_forall₂ h.tables
  rw [← htable?, ← htable?] at htables
  constructor
  case table =>
    rw [← isSome_table?_iff, ← isSome_table?_iff]
    rcases htables with ⟨hnone, hnone'⟩ | ⟨t, t', ht, ht', -⟩
    · rw [hnone, hnone']
    · simp [ht, ht']
  case enumeration => rw [← isSome_enumeration?_iff, ← isSome_enumeration?_iff, henumeration?]
  case target =>
    intro d column hfirst hsaid
    unfold Catalog.face?
    rcases htables with ⟨hnone, hnone'⟩ | ⟨t, t', ht, ht', hfaces⟩
    · rw [hnone, hnone']
    · rw [ht, ht', Option.bind_some, Option.bind_some, hface?, hface?, hfaces d column hfirst hsaid]

/-! #### What a reference sees -/

theorem Syntax.TypeExpr.name?_eq_of_declares {type : TypeExpr} {array : Bool} (h : type.Declares array name) :
    type.name? = some name := by
  cases h <;> rfl

/-- A type without its place is read as the type is, and what is wrong with it is told alike. -/
theorem declaredType_mapError_of_bare_eq {type type' : TypeExpr} (h : type.bare = type'.bare) :
    (declaredType type).mapError (fun p => (TargetProblem.declaredType p).verdict) =
      (declaredType type').mapError fun p => (TargetProblem.declaredType p).verdict := by
  have hbare : ∀ type : TypeExpr, (declaredType type).mapError (fun p => (TargetProblem.declaredType p).verdict) =
      (declaredType type.bare).mapError fun p => (TargetProblem.declaredType p).verdict := by
    intro type
    rw [declaredType_bare, mapError_mapError]
    refine congrArg (fun told => (declaredType type).mapError told) (funext fun p => ?_)
    cases p <;> rfl
  rw [hbare type, hbare type', h]

theorem isNone_firstNamed_congr {directives directives' : List Directive} (wanted : String)
    (h : directives.map (·.name.text) = directives'.map (·.name.text)) :
    (firstNamed wanted directives).isNone = (firstNamed wanted directives').isNone := by
  have hmem : ∀ directives : List Directive,
      (firstNamed wanted directives).isNone ↔ wanted ∉ directives.map (·.name.text) := by
    intro directives
    simp [firstNamed]
  rw [Bool.eq_iff_iff, hmem, hmem, h]

/-- The check of a target comes to the same for fields with the same face. -/
theorem targetType_mapError_of_face_eq {t t' : TableDeclaration} (hfield : t.HasFirst column field)
    (hfield' : t'.HasFirst column field') (h : field.face = field'.face) :
    (targetType t column).mapError TargetProblem.verdict = (targetType t' column).mapError TargetProblem.verdict := by
  obtain ⟨htype, hdirectives⟩ := Face.mk.inj h
  have hdeclared := declaredType_mapError_of_bare_eq htype
  cases hd : declaredType field.type with
  | error problem =>
    rw [hd] at hdeclared
    cases hd' : declaredType field'.type with
    | error problem' =>
      rw [hd'] at hdeclared
      rw [targetType_of_error hfield hd, targetType_of_error hfield' hd']
      exact congrArg Except.error (Except.error.inj hdeclared)
    | ok declared' =>
      rw [hd'] at hdeclared
      cases hdeclared
  | ok declared =>
    obtain ⟨array, name⟩ := declared
    rw [hd] at hdeclared
    have hd' := mapError_eq_ok_iff.1 hdeclared.symm
    rw [targetType_of_declares hfield (declaredType_eq_ok_iff.1 hd),
      targetType_of_declares hfield' (declaredType_eq_ok_iff.1 hd'),
      isNone_firstNamed_congr MarkKind.unique.name hdirectives]
    -- the rules are the same, and each tells its kind and its message only
    split
    · rfl
    · split
      · rfl
      · split <;> rfl

theorem Catalog.face?_eq_some_iff {face : Face} :
    catalog.face? name column = some face ↔
      ∃ t field, catalog.table? name = some t ∧ t.value.HasFirst column field ∧ field.face = face := by
  simp [Catalog.face?, TableDeclaration.hasFirst_iff, Option.bind_eq_some_iff]

/-- Without a table, and without a field in the table, there is no such column. -/
theorem referencedType_of_face?_eq_none (d : Directive) (h : catalog.face? name column = none) :
    referencedType catalog d name column = .error (.columnNotFound d name column) := by
  unfold referencedType
  cases ht : catalog.table? name with
  | none => rfl
  | some t =>
    have habsent : ∀ f ∈ t.value.fields, f.name.text ≠ column := by simpa [Catalog.face?, ht] using h
    dsimp only
    rw [targetType_of_absent habsent]

/-- What is wrong with a target is the cause of what is told of the reference. -/
theorem referencedType_mapError (d : Directive) {t : Sourced TableDeclaration} (ht : catalog.table? name = some t) :
    (referencedType catalog d name column).mapError Problem.verdict =
      match (targetType t.value column).mapError TargetProblem.verdict with
      | .error cause =>
        .error ⟨some .columnInvalid, "An error occurred while validating the referenced column.", some cause⟩
      | .ok none => .error (Problem.columnNotFound d name column).verdict
      | .ok (some scalar) => .ok scalar := by
  unfold referencedType
  rw [ht]
  dsimp only
  cases targetType t.value column with
  | error cause => rfl
  | ok found => cases found <;> rfl

/-- Following a reference comes to the same where it finds the same face, or none. -/
theorem referencedType_mapError_of_face?_eq (d : Directive)
    (h : catalog.face? name column = catalog'.face? name column) :
    (referencedType catalog d name column).mapError Problem.verdict =
      (referencedType catalog' d name column).mapError Problem.verdict := by
  cases hface : catalog.face? name column with
  | none =>
    rw [referencedType_of_face?_eq_none d hface, referencedType_of_face?_eq_none d (h ▸ hface)]
  | some face =>
    obtain ⟨t, field, ht, hfield, rfl⟩ := Catalog.face?_eq_some_iff.1 hface
    obtain ⟨t', field', ht', hfield', hsame⟩ := Catalog.face?_eq_some_iff.1 (h ▸ hface)
    have htarget := targetType_mapError_of_face_eq hfield hfield' hsame.symm
    rw [referencedType_mapError d ht, referencedType_mapError d ht', htarget]

/-- A classified type with a name has it for its declared name. -/
theorem exists_declares_of_classify {type : TypeExpr} {c : Classification} (hname : type.name? = some name)
    (hc : classify catalog table type = .ok c) : ∃ array, type.Declares array name := by
  obtain ⟨name', hdeclares, -⟩ := classify_eq_ok_iff.1 hc
  obtain rfl : name = name' := Option.some.inj (hname.symm.trans (TypeExpr.name?_eq_of_declares hdeclares))
  exact ⟨_, hdeclares⟩

/-- The class of a type does not depend on more of the catalog than the kind of its name. -/
theorem Catalog.AgreesOn.classify_eq (h : catalog.AgreesOn catalog' name field) (hname : field.type.name? = some name)
    (table : String) : classify catalog' table field.type = classify catalog table field.type := by
  have hmeaning : meaning? catalog' table name = meaning? catalog table name := by
    have htable := (isSome_table?_iff.trans h.table).trans isSome_table?_iff.symm
    have henumeration := (isSome_enumeration?_iff.trans h.enumeration).trans isSome_enumeration?_iff.symm
    unfold meaning?
    rw [Bool.eq_iff_iff.2 htable, Bool.eq_iff_iff.2 henumeration]
  unfold classify
  cases hdeclared : declaredType field.type with
  | error problem => rfl
  | ok declared =>
    have hdeclares := TypeExpr.name?_eq_of_declares (declaredType_eq_ok_iff.1 hdeclared)
    obtain rfl := Option.some.inj (hname.symm.trans hdeclares)
    dsimp only
    rw [hmeaning]

/-- In catalogs that agree on what a field needs, a field with this declared name comes to the same: the same column, or
failures with the same verdict.  A change that spares what the field needs is one between such catalogs. -/
theorem resolveColumn_local (hname : field.type.name? = some name) (table : String) :
    (catalog.AgreesOn catalog' name field →
        (resolveColumn catalog' table field).mapError Fault.verdict =
          (resolveColumn catalog table field).mapError Fault.verdict) ∧
      (catalog.Spares catalog' name field →
        (resolveColumn catalog' table field).mapError Fault.verdict =
          (resolveColumn catalog table field).mapError Fault.verdict) := by
  have hagrees : catalog.AgreesOn catalog' name field →
      (resolveColumn catalog' table field).mapError Fault.verdict =
        (resolveColumn catalog table field).mapError Fault.verdict := by
    intro h
    have hclassify := h.classify_eq hname table
    refine (resolveColumn_counterpart id (hclassify ▸ (id_map _).symm) ?_).trans (id_map _)
    intro d column c target hfirst hsaid hc htarget
    obtain ⟨array, hdeclares⟩ := exists_declares_of_classify hname hc
    obtain rfl := target_of_classify hdeclares hc htarget
    exact (referencedType_mapError_of_face?_eq d (h.target d column hfirst hsaid)).symm
  exact ⟨hagrees, fun h => hagrees h.agreesOn⟩

/-- Another table in front, an enumeration more, and in the table that is referred to another field in front and other
words about the unique column: the target is still no scalar, and this is told of both. -/
theorem resolveColumn_local_spared :
    ∃ (catalog catalog' : Catalog) (field : FieldDeclaration) (fault fault' : Fault),
      catalog.Spares catalog' "R" field ∧ catalog.AgreesOn catalog' "R" field ∧
        catalog.tableNames = ["R"] ∧ catalog'.tableNames = ["Q", "R"] ∧ catalog'.enumerationNames = ["E"] ∧
        (resolveColumn catalog' "T" field).mapError Fault.verdict =
          (resolveColumn catalog "T" field).mapError Fault.verdict ∧
        resolveColumn catalog "T" field = .error fault ∧ resolveColumn catalog' "T" field = .error fault' ∧
        fault.verdict = fault'.verdict ∧ fault ≠ fault' := by
  let source : Source := ⟨"R.graphql", "type R \x7b c: R @unique \x7d", ⟨1, 1⟩⟩
  let c : FieldDeclaration := ⟨9, none, ⟨9, "c"⟩, [], .named 12 "R", [⟨14, ⟨15, "unique"⟩, []⟩]⟩
  let catalog : Catalog := ⟨[⟨source, ⟨0, 23, none, ⟨5, "R"⟩, [], [], [c]⟩⟩], []⟩
  let source' : Source :=
    ⟨"R.graphql", "type Q \x7b c: i32 \x7d type R \x7b b: i32 \"C\" c: R @unique(x: 1) \x7d enum E \x7b _ \x7d", ⟨1, 1⟩⟩
  let b' : FieldDeclaration := ⟨27, none, ⟨27, "b"⟩, [], .named 30 "i32", []⟩
  let c' : FieldDeclaration :=
    ⟨34, some "C", ⟨38, "c"⟩, [], .named 41 "R", [⟨43, ⟨44, "unique"⟩, [⟨⟨51, "x"⟩, .literal (.int 54 "1")⟩]⟩]⟩
  let other : TableDeclaration := ⟨0, 17, none, ⟨5, "Q"⟩, [], [], [⟨9, none, ⟨9, "c"⟩, [], .named 12 "i32", []⟩]⟩
  let e : EnumerationDeclaration := ⟨59, 71, none, ⟨64, "E"⟩, [], [⟨68, none, ⟨68, "_"⟩, []⟩]⟩
  let catalog' : Catalog := ⟨[⟨source', other⟩, ⟨source', ⟨18, 58, none, ⟨23, "R"⟩, [], [], [b', c']⟩⟩], [⟨source', e⟩]⟩
  let d : Directive := ⟨14, ⟨15, "ref"⟩, [⟨⟨19, "column"⟩, .literal (.string 27 "c")⟩]⟩
  let field : FieldDeclaration := ⟨9, none, ⟨9, "x"⟩, [], .named 12 "R", [d]⟩
  have hspares : catalog.Spares catalog' "R" field := by
    refine ⟨.cons ?_ .nil, rfl⟩
    rintro _ column ⟨⟩ hsaid
    obtain rfl : "c" = column := Option.some.inj hsaid.column?_eq
    rfl
  have hfault : resolveColumn catalog "T" field =
      .error (.problem (.invalidTarget d source (.notScalar (.named 12 "R")))) := rfl
  have hfault' : resolveColumn catalog' "T" field =
      .error (.problem (.invalidTarget d source' (.notScalar (.named 41 "R")))) := rfl
  have hlocal := @resolveColumn_local catalog catalog' "R" field rfl "T"
  have hverdict := hlocal.1 hspares.agreesOn
  rw [hfault, hfault'] at hverdict
  exact ⟨catalog, catalog', field, _, _, hspares, hspares.agreesOn, rfl, rfl, rfl, hlocal.2 hspares, hfault, hfault',
    Except.error.inj hverdict.symm, by decide⟩

end Footprint

end TableSchema
