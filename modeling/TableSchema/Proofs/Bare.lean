import Mathlib
import TableSchema.Proofs.Resolution

/-!
# Declarations without their places

A declaration says more than a schema needs: where each of its parts stands, descriptions of other things than fields,
interfaces, arguments of fields.  `bare` takes all this away, from declarations as well as from the problems that show
them.

Main statements: what bare declarations resolve to is what the declarations resolve to, and if they do not resolve, the
problem with them is the bare one (`resolveTable_bare`, `resolveEnumeration_bare`).  Of its catalog a table needs no
more than what is found under each name (`resolveTable_congr`).
-/

namespace TableSchema

open Syntax

/-! ### Bare declarations -/

/-- A name without its place. -/
def Syntax.Name.bare (n : Name) : Name := ⟨0, n.text⟩

/-- A node without its place. -/
def Syntax.Node.bare (n : Node) : Node := ⟨n.kind, 0⟩

/-- A literal without its place. -/
def Syntax.Literal.bare : Literal → Literal
  | .string _ text => .string 0 text
  | .int _ spelling => .int 0 spelling
  | .other _ kind => .other 0 kind

/-- A value without its place. -/
def Syntax.Value.bare : Value → Value
  | .literal value => .literal value.bare
  | .list _ items => .list 0 (items.map Literal.bare)

/-- An argument without its place. -/
def Syntax.Argument.bare (a : Argument) : Argument := ⟨a.name.bare, a.value.bare⟩

/-- A directive without its place. -/
def Syntax.Directive.bare (d : Directive) : Directive := ⟨0, d.name.bare, d.arguments.map Argument.bare⟩

/-- A type without its place. -/
def Syntax.TypeExpr.bare : TypeExpr → TypeExpr
  | .named _ name => .named 0 name
  | .list _ item => .list 0 item.bare
  | .nonNull inner => .nonNull inner.bare

/-- A field without its place and its arguments. -/
def Syntax.FieldDeclaration.bare (f : FieldDeclaration) : FieldDeclaration :=
  ⟨0, f.description, f.name.bare, [], f.type.bare, f.directives.map Directive.bare⟩

/-- A table without its place, its description and its interfaces. -/
def Syntax.TableDeclaration.bare (t : TableDeclaration) : TableDeclaration :=
  ⟨0, 0, none, t.name.bare, [], t.directives.map Directive.bare, t.fields.map FieldDeclaration.bare⟩

/-- An enumerator that is only its name. -/
def Syntax.EnumeratorDeclaration.bare (v : EnumeratorDeclaration) : EnumeratorDeclaration :=
  ⟨0, none, v.name.bare, []⟩

/-- An enumeration without its place and its description. -/
def Syntax.EnumerationDeclaration.bare (e : EnumerationDeclaration) : EnumerationDeclaration :=
  ⟨0, 0, none, e.name.bare, e.directives.map Directive.bare, e.values.map EnumeratorDeclaration.bare⟩

/-- A definition that is only what matters for a schema. -/
def Syntax.Definition.bare : Definition → Definition
  | .table t => .table t.bare
  | .enumeration e => .enumeration e.bare
  | .other kind _ _ _ => .other kind none 0 0

/-- Something declared nowhere in particular. -/
def Sourced.bare {α : Type} (strip : α → α) (d : Sourced α) : Sourced α := ⟨.ofText "" "", strip d.value⟩

/-- A catalog of bare declarations. -/
def Catalog.bare (c : Catalog) : Catalog where
  tables := c.tables.map (Sourced.bare TableDeclaration.bare)
  enumerations := c.enumerations.map (Sourced.bare EnumerationDeclaration.bare)

/-! ### Bare problems -/

/-- The problem with a bare type. -/
def TypeProblem.bare : TypeProblem → TypeProblem
  | .malformed type => .malformed type.bare
  | .placeholder type => .placeholder type.bare

/-- The problem with a bare target. -/
def TargetProblem.bare : TargetProblem → TargetProblem
  | .declaredType problem => .declaredType problem.bare
  | .array type => .array type.bare
  | .notUnique field => .notUnique field.bare
  | .notScalar type => .notScalar type.bare

/-- The problem with a bare declaration. -/
def Problem.bare : Problem → Problem
  | .unsupportedDefinition definition => .unsupportedDefinition definition.bare
  | .duplicateTable name => .duplicateTable name.bare
  | .duplicateEnumeration name => .duplicateEnumeration name.bare
  | .unknownDirective name => .unknownDirective name.bare
  | .argumentsRefused first others => .argumentsRefused first.bare (others.map Argument.bare)
  | .missingArgument directive parameter => .missingArgument directive.bare parameter
  | .unknownArgument name => .unknownArgument name.bare
  | .duplicateArgument name => .duplicateArgument name.bare
  | .unexpectedValue node expected => .unexpectedValue node.bare expected
  | .noTags node => .noTags node.bare
  | .declaredType problem => .declaredType problem.bare
  | .unresolvedType type name => .unresolvedType type.bare name
  | .duplicateColumn name => .duplicateColumn name.bare
  | .columnNotFound directive table column => .columnNotFound directive.bare table column
  | .invalidTarget directive _ cause => .invalidTarget directive.bare (.ofText "" "") cause.bare
  | .missingIndexing e => .missingIndexing e.bare
  | .duplicateEnumerator name => .duplicateEnumerator name.bare

/-- The fault of a bare declaration. -/
def Fault.bare : Fault → Fault
  | .problem p => .problem p.bare
  | .refWithoutTable field => .refWithoutTable field
  | .integerTooLong digits => .integerTooLong digits

/-- What is told of a problem does not depend on places. -/
theorem Problem.kind_bare (p : Problem) : p.bare.kind = p.kind ∧ p.bare.message = p.message := by
  cases p with
  | declaredType problem => cases problem <;> exact ⟨rfl, rfl⟩
  | _ => exact ⟨rfl, rfl⟩

/-! ### Outcomes -/

section Outcomes

variable {ε ε' α α' β β' : Type} {e : ε → ε'}

theorem bind_mapError {r : Except ε α} {next : α → Except ε β} :
    (r >>= next).mapError e = r.mapError e >>= fun a => (next a).mapError e := by
  cases r <;> rfl

theorem map_mapError {r : Except ε α} {g : α → β} : (g <$> r).mapError e = g <$> r.mapError e := by
  cases r <;> rfl

/-- Going through counterparts of items gives the counterparts of the results. -/
theorem mapM_map_of_counterpart {f : α → Except ε β} {f' : α' → Except ε' β'} {g : α → α'} {k : β → β'}
    (h : ∀ a, f' (g a) = k <$> (f a).mapError e) (items : List α) :
    (items.map g).mapM f' = List.map k <$> (items.mapM f).mapError e := by
  induction items with
  | nil => rfl
  | cons a rest ih =>
    rw [List.map_cons, List.mapM_cons, List.mapM_cons, ih, h]
    cases f a with
    | error e => rfl
    | ok b => cases rest.mapM f <;> rfl

end Outcomes

/-! ### Reading directives -/

@[simp] theorem Syntax.Name.text_bare (n : Name) : n.bare.text = n.text := rfl

theorem Syntax.Literal.node_bare (v : Literal) : v.bare.node = v.node.bare := by
  cases v <;> rfl

theorem Syntax.Value.node_bare (v : Value) : v.bare.node = v.node.bare := by
  cases v with
  | literal v => exact v.node_bare
  | list => rfl

theorem readLiteral_bare (v : Literal) : readLiteral v.bare = (readLiteral v).mapError Fault.bare := by
  cases v <;> rfl

theorem readString_bare (v : Value) : readString v.bare = (readString v).mapError Fault.bare := by
  cases v with
  | literal v => exact readLiteral_bare v
  | list => rfl

theorem readStrings_bare (expected : Expectation) (v : Value) :
    readStrings expected v.bare = (readStrings expected v).mapError Fault.bare := by
  cases v with
  | literal v =>
    show Except.error (Fault.problem (.unexpectedValue v.bare.node expected)) = _
    rw [v.node_bare]
    rfl
  | list start items =>
    have hone : ∀ v : Literal, readLiteral v.bare = id <$> (readLiteral v).mapError Fault.bare := by
      intro v
      rw [id_map]
      exact readLiteral_bare v
    have hall := mapM_map_of_counterpart hone items
    rwa [List.map_id_fun, id_map] at hall

theorem readTags_bare (v : Value) : readTags v.bare = (readTags v).mapError Fault.bare := by
  cases v with
  | literal v => exact readStrings_bare .tags (.literal v)
  | list start items =>
    cases items with
    | nil => rfl
    | cons first others => exact readStrings_bare .tags (.list start (first :: others))

/-- An integer is read alike as long as the fault that it can have stays. -/
theorem mapError_readInteger {e : Fault → Fault} (h : ∀ count, e (.integerTooLong count) = .integerTooLong count)
    (spelling : String) : (readInteger spelling).mapError e = readInteger spelling := by
  unfold readInteger
  split
  · exact congrArg Except.error (h _)
  · rfl

theorem readIndexBase_bare (v : Value) : readIndexBase v.bare = (readIndexBase v).mapError Fault.bare := by
  cases v with
  | literal v =>
    cases v with
    | int start spelling =>
      show (readInteger spelling >>= _) = Except.mapError Fault.bare (readInteger spelling >>= _)
      rw [bind_mapError, mapError_readInteger fun _ => rfl]
      congr 1
      funext n
      split
      · rfl
      · split <;> rfl
    | _ => rfl
  | list => rfl

/-- A single argument is read alike among counterparts of arguments with the same names.  Only the argument with the
right name is ever read. -/
theorem readArgument_counterpart {α : Type} {read : Value → Except Fault α} {d d' : Directive}
    {parameter : Parameter} {name : String} {g : Argument → Argument} {k : α → α} {e : Fault → Fault}
    (harguments : d'.arguments = d.arguments.map g) (hname : ∀ a, (g a).name.text = a.name.text)
    (hmissing : Fault.problem (.missingArgument d' parameter) = e (.problem (.missingArgument d parameter)))
    (hunknown : ∀ a : Argument, Fault.problem (.unknownArgument (g a).name) = e (.problem (.unknownArgument a.name)))
    (hduplicate : ∀ a : Argument,
      Fault.problem (.duplicateArgument (g a).name) = e (.problem (.duplicateArgument a.name)))
    (hread : ∀ a : Argument, a.name.text = name → read (g a).value = k <$> (read a.value).mapError e) :
    readArgument d' parameter name read = k <$> (readArgument d parameter name read).mapError e := by
  unfold readArgument
  rw [harguments]
  cases d.arguments with
  | nil => exact congrArg Except.error hmissing
  | cons first others =>
    rw [List.map_cons]
    dsimp only
    by_cases hfirst : first.name.text = name
    · rw [hname, if_neg (not_not_intro hfirst), if_neg (not_not_intro hfirst), hread first hfirst]
      cases read first.value with
      | error p => rfl
      | ok value =>
        cases others with
        | nil => rfl
        | cons second others =>
          show (if (g second).name.text ≠ name then Except.error _ else Except.error _) =
            k <$> (if second.name.text ≠ name then Except.error _ else Except.error _ : Except Fault α).mapError e
          rw [hname, hunknown, hduplicate]
          split <;> rfl
    · rw [hname, if_pos hfirst, if_pos hfirst, hunknown]
      rfl

theorem readArgument_bare {α : Type} {read : Value → Except Fault α}
    (h : ∀ v, read v.bare = (read v).mapError Fault.bare) (d : Directive) (parameter : Parameter) (name : String) :
    readArgument d.bare parameter name read = (readArgument d parameter name read).mapError Fault.bare := by
  have hread : ∀ a : Argument, a.name.text = name →
      read a.bare.value = id <$> (read a.value).mapError Fault.bare := by
    intro a _
    rw [id_map]
    exact h a.value
  have harguments : d.bare.arguments = d.arguments.map Argument.bare := rfl
  rw [readArgument_counterpart harguments (fun _ => rfl) rfl (fun _ => rfl) (fun _ => rfl) hread, id_map]

theorem readNothing_bare (d : Directive) : readNothing d.bare = (readNothing d).mapError Fault.bare := by
  unfold readNothing
  rw [show d.bare.arguments = d.arguments.map Argument.bare from rfl]
  cases d.arguments <;> rfl

theorem MarkKind.read_bare (kind : MarkKind) (d : Directive) :
    kind.read d.bare = (kind.read d).mapError Fault.bare := by
  cases kind <;> simp only [MarkKind.read, map_mapError]
  case ref => rw [readArgument_bare readString_bare]
  case unique => rw [readNothing_bare]
  case localized => rw [readNothing_bare]
  case file => rw [readArgument_bare readString_bare]
  case files => rw [readArgument_bare (readStrings_bare .extensions)]
  case indexing => rw [readArgument_bare readIndexBase_bare]
  case tags => rw [readArgument_bare readTags_bare]

/-- A bare directive and what it says. -/
def Marked.bare (a : Marked) : Marked := ⟨a.directive.bare, a.mark⟩

theorem readMark_bare (site : Site) (d : Directive) :
    readMark site d.bare = Marked.bare <$> (readMark site d).mapError Fault.bare := by
  unfold readMark
  rw [show d.bare.name.text = d.name.text from rfl]
  cases site.kind? d.name.text with
  | none => rfl
  | some kind =>
    dsimp only
    rw [MarkKind.read_bare]
    cases kind.read d <;> rfl

theorem readMarks_bare (site : Site) (directives : List Directive) :
    readMarks site (directives.map Directive.bare) =
      List.map Marked.bare <$> (readMarks site directives).mapError Fault.bare :=
  mapM_map_of_counterpart (readMark_bare site) directives

theorem firstRef_bare (marks : List Marked) :
    firstRef (marks.map Marked.bare) = (firstRef marks).map fun (d, column) => (d.bare, column) := by
  induction marks with
  | nil => rfl
  | cons a marks ih =>
    obtain ⟨d, m⟩ := a
    cases m <;> first | rfl | exact ih

theorem firstFile_bare (marks : List Marked) : firstFile (marks.map Marked.bare) = firstFile marks := by
  rw [firstFile, List.findSome?_map]
  rfl

theorem firstFiles_bare (marks : List Marked) : firstFiles (marks.map Marked.bare) = firstFiles marks := by
  rw [firstFiles, List.findSome?_map]
  rfl

theorem firstIndexing_bare (marks : List Marked) : firstIndexing (marks.map Marked.bare) = firstIndexing marks := by
  rw [firstIndexing, List.findSome?_map]
  rfl

theorem firstTags_bare (marks : List Marked) : firstTags (marks.map Marked.bare) = firstTags marks := by
  rw [firstTags, List.findSome?_map]
  rfl

theorem hasKind_bare (kind : MarkKind) (marks : List Marked) :
    hasKind kind (marks.map Marked.bare) = hasKind kind marks := by
  rw [hasKind, firstOf, List.find?_map, Option.isSome_map]
  rfl

/-! ### Types and references -/

theorem declaredType_bare (type : TypeExpr) :
    declaredType type.bare = (declaredType type).mapError TypeProblem.bare := by
  cases type with
  | named start name =>
    show declaredType (.named 0 name) = _
    unfold declaredType
    dsimp only
    split <;> rfl
  | list start item => cases item <;> rfl
  | nonNull inner => rfl

namespace Catalog

variable {catalog : Catalog}

theorem table?_bare (catalog : Catalog) (name : String) :
    catalog.bare.table? name = (catalog.table? name).map (Sourced.bare TableDeclaration.bare) := by
  unfold Catalog.table? Catalog.bare
  rw [List.find?_map]
  rfl

theorem enumeration?_bare (catalog : Catalog) (name : String) :
    catalog.bare.enumeration? name =
      (catalog.enumeration? name).map (Sourced.bare EnumerationDeclaration.bare) := by
  unfold Catalog.enumeration? Catalog.bare
  rw [List.find?_map]
  rfl

end Catalog

theorem meaning?_bare (catalog : Catalog) (table name : String) :
    meaning? catalog.bare table name = meaning? catalog table name := by
  simp only [meaning?, Catalog.table?_bare, Catalog.enumeration?_bare, Option.isSome_map]

theorem classify_bare (catalog : Catalog) (table : String) (type : TypeExpr) :
    classify catalog.bare table type.bare = (classify catalog table type).mapError Problem.bare := by
  unfold classify
  rw [declaredType_bare]
  cases declaredType type with
  | error problem => rfl
  | ok declared =>
    simp only [Except.mapError, meaning?_bare]
    cases meaning? catalog table declared.name <;> rfl

theorem targetType_bare (t : TableDeclaration) (column : String) :
    targetType t.bare column = (targetType t column).mapError TargetProblem.bare := by
  unfold targetType
  have hfind : t.bare.fields.find? (·.name.text = column) =
      (t.fields.find? (·.name.text = column)).map FieldDeclaration.bare := by
    show (t.fields.map FieldDeclaration.bare).find? _ = _
    rw [List.find?_map]
    rfl
  rw [hfind]
  cases t.fields.find? (·.name.text = column) with
  | none => rfl
  | some field =>
    have hunique : (firstNamed MarkKind.unique.name field.bare.directives).isNone =
        (firstNamed MarkKind.unique.name field.directives).isNone := by
      show (firstNamed _ (field.directives.map Directive.bare)).isNone = _
      rw [firstNamed, List.find?_map, Option.isNone_map]
      rfl
    simp only [Option.map_some]
    rw [show field.bare.type = field.type.bare from rfl, declaredType_bare, hunique]
    cases declaredType field.type with
    | error problem => rfl
    | ok declared =>
      simp only [Except.mapError]
      split
      · rfl
      · split
        · rfl
        · split <;> rfl

theorem referencedType_bare (catalog : Catalog) (d : Directive) (table column : String) :
    referencedType catalog.bare d.bare table column =
      (referencedType catalog d table column).mapError Problem.bare := by
  unfold referencedType
  rw [Catalog.table?_bare]
  cases catalog.table? table with
  | none => rfl
  | some target =>
    simp only [Option.map_some]
    rw [show (Sourced.bare TableDeclaration.bare target).value = target.value.bare from rfl, targetType_bare]
    cases targetType target.value column with
    | error cause => rfl
    | ok found => cases found <;> rfl

theorem applyRef_bare (catalog : Catalog) (field : FieldDeclaration) (marks : List Marked) (c : Classification) :
    applyRef catalog.bare field.bare (marks.map Marked.bare) c =
      (applyRef catalog field marks c).mapError Fault.bare := by
  unfold applyRef
  rw [firstRef_bare]
  cases firstRef marks with
  | none => rfl
  | some found =>
    obtain ⟨directive, column⟩ := found
    cases c.target with
    | none => rfl
    | some table =>
      simp only [Option.map_some, referencedType_bare]
      cases referencedType catalog directive table column <;> rfl

/-! ### Resolution -/

theorem resolveColumn_bare (catalog : Catalog) (table : String) (field : FieldDeclaration) :
    resolveColumn catalog.bare table field.bare = (resolveColumn catalog table field).mapError Fault.bare := by
  have hmarks := readMarks_bare .field field.directives
  have hclass := classify_bare catalog table field.type
  show (readMarks .field (field.directives.map Directive.bare) >>= fun marks =>
    (classify catalog.bare table field.type.bare).mapError Fault.problem >>= fun c =>
      applyRef catalog.bare field.bare marks c >>= _) = _
  unfold resolveColumn
  rw [hmarks, hclass]
  cases readMarks .field field.directives with
  | error p => rfl
  | ok marks =>
    cases classify catalog table field.type with
    | error p => rfl
    | ok c =>
      show (applyRef catalog.bare field.bare (marks.map Marked.bare) c >>= _) =
        Except.mapError Fault.bare (applyRef catalog field marks c >>= _)
      rw [applyRef_bare, bind_mapError, hasKind_bare, hasKind_bare, firstFile_bare, firstFiles_bare]
      rfl

theorem resolveFields_bare (catalog : Catalog) (table : String) (seen : List String) (fields : List FieldDeclaration) :
    resolveFields catalog.bare table seen (fields.map FieldDeclaration.bare) =
      (resolveFields catalog table seen fields).mapError Fault.bare := by
  induction fields generalizing seen with
  | nil => rfl
  | cons field fields ih =>
    rw [List.map_cons, resolveFields, resolveFields, resolveColumn_bare, bind_mapError]
    congr 1
    funext column
    cases column.name with
    | none =>
      dsimp only
      rw [ih, map_mapError]
    | some name =>
      dsimp only
      by_cases hseen : name ∈ seen
      · rw [if_pos hseen, if_pos hseen]
        rfl
      · rw [if_neg hseen, if_neg hseen, ih]
        show _ <$> _ = Except.mapError Fault.bare (_ <$> _)
        rw [map_mapError]

theorem resolveTable_bare (catalog : Catalog) (t : TableDeclaration) :
    resolveTable catalog.bare t.bare = (resolveTable catalog t).mapError Fault.bare := by
  have htags : tagsOf t.bare = (tagsOf t).mapError Fault.bare := by
    unfold tagsOf
    rw [show t.bare.directives = t.directives.map Directive.bare from rfl, readMarks_bare]
    cases readMarks .table t.directives with
    | error p => rfl
    | ok marks => exact congrArg Except.ok (firstTags_bare marks)
  unfold resolveTable
  rw [htags, bind_mapError]
  congr 1
  funext tags
  rw [show t.bare.fields = t.fields.map FieldDeclaration.bare from rfl, bind_mapError]
  exact congrArg (· >>= _) (resolveFields_bare catalog t.name.text [] t.fields)

theorem resolveValues_bare (seen : List String) (values : List EnumeratorDeclaration) :
    resolveValues seen (values.map EnumeratorDeclaration.bare) = (resolveValues seen values).mapError Problem.bare := by
  induction values generalizing seen with
  | nil => rfl
  | cons value values ih =>
    rw [List.map_cons, resolveValues, resolveValues, show value.bare.name.text = value.name.text from rfl]
    cases nameOf value.name.text with
    | none =>
      dsimp only
      rw [ih, map_mapError]
    | some name =>
      dsimp only
      split
      · rfl
      · rw [ih, map_mapError]

theorem resolveEnumeration_bare (e : EnumerationDeclaration) :
    resolveEnumeration e.bare = (resolveEnumeration e).mapError Fault.bare := by
  unfold resolveEnumeration
  rw [show e.bare.directives = e.directives.map Directive.bare from rfl, readMarks_bare]
  cases readMarks .enumeration e.directives with
  | error p => rfl
  | ok marks =>
    simp only [Except.mapError, Functor.map, Except.map, Bind.bind, Except.bind, firstIndexing_bare]
    cases firstIndexing marks with
    | none => rfl
    | some indexing =>
      dsimp only
      rw [show e.bare.values = e.values.map EnumeratorDeclaration.bare from rfl, resolveValues_bare]
      cases resolveValues [] e.values <;> rfl

theorem resolveTable_bare_eq_ok_iff {catalog : Catalog} {t : TableDeclaration} {table : Table} :
    resolveTable catalog.bare t.bare = .ok table ↔ resolveTable catalog t = .ok table := by
  rw [resolveTable_bare, mapError_eq_ok_iff]

theorem resolveEnumeration_bare_eq_ok_iff {e : EnumerationDeclaration} {enumeration : Enumeration} :
    resolveEnumeration e.bare = .ok enumeration ↔ resolveEnumeration e = .ok enumeration := by
  rw [resolveEnumeration_bare, mapError_eq_ok_iff]

/-! ### What a table needs of a catalog -/

/-- A table resolves alike in catalogs in which every name finds the same. -/
theorem resolveTable_congr {catalog catalog' : Catalog} (htables : ∀ name, catalog.table? name = catalog'.table? name)
    (henumerations : ∀ name, (catalog.enumeration? name).isSome = (catalog'.enumeration? name).isSome)
    (t : TableDeclaration) : resolveTable catalog t = resolveTable catalog' t := by
  have hmeaning : meaning? catalog = meaning? catalog' := by
    funext table name
    simp only [meaning?, htables, henumerations]
  have hclassify : classify catalog = classify catalog' := by
    funext table type
    simp only [classify, hmeaning]
  have hreferenced : referencedType catalog = referencedType catalog' := by
    funext directive table column
    simp only [referencedType, htables]
  have hcolumn : ∀ table field, resolveColumn catalog table field = resolveColumn catalog' table field := by
    intro table field
    simp only [resolveColumn, hclassify, applyRef, hreferenced]
  have hfields : ∀ table fields seen,
      resolveFields catalog table seen fields = resolveFields catalog' table seen fields := by
    intro table fields
    induction fields with
    | nil => exact fun _ => rfl
    | cons field fields ih =>
      intro seen
      simp only [resolveFields, hcolumn, ih]
  simp only [resolveTable, hfields]

end TableSchema
