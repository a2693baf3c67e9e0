import TableSchema.Mark
import TableSchema.Typing

/-!
# Resolution

Declarations become parts of the model against a catalog: fields become columns, tables become tables of the model,
and so do enumerations.  Everything stops at the first fault, in the order in which the declaration is written:
directives first, then the type and the reference of a field, then its name.
-/

namespace TableSchema

open Syntax

/-! ### Columns -/

/-- The type of the column with a name as the target of a reference: `none` if there is no such column.  The first
column with the name counts.  It must be no array, must carry the unique directive in any form, and must be a
scalar. -/
def targetType (table : TableDeclaration) (column : String) : Except TargetProblem (Option Scalar) :=
  match table.fields.find? (·.name.text = column) with
  | none => .ok none
  | some field =>
    match declaredType field.type with
    | .error problem => .error (.declaredType problem)
    | .ok declared =>
      if declared.array then .error (.array field.type)
      else if (firstNamed MarkKind.unique.name field.directives).isNone then .error (.notUnique field)
      else match Scalar.ofName? declared.name with
        | none => .error (.notScalar field.type)
        | some scalar => .ok (some scalar)

/-- The type that a reference gives its column: the type of the column that it names in a table. -/
def referencedType (catalog : Catalog) (directive : Directive) (table column : String) : Except Problem Scalar :=
  match catalog.table? table with
  | none => .error (.columnNotFound directive table column)
  | some target =>
    match targetType target.value column with
    | .error cause => .error (.invalidTarget directive target.source cause)
    | .ok none => .error (.columnNotFound directive table column)
    | .ok (some scalar) => .ok scalar

/-- The type and the reference of a column after its first reference directive, if it has one. -/
def applyRef (catalog : Catalog) (field : FieldDeclaration) (marks : List Marked) (c : Classification) :
    Except Fault (ColumnType × Option Reference) :=
  match firstRef marks, c.target with
  | none, target => .ok (c.type, target.map (⟨·, none⟩))
  | some _, none => .error (.refWithoutTable field.name.text)
  | some (directive, column), some table =>
    match referencedType catalog directive table column with
    | .error p => .error (.problem p)
    | .ok scalar => .ok (.scalar scalar, some ⟨table, some column⟩)

/-- The name that a declared name gives: none for the placeholder. -/
def nameOf (declared : String) : Option String :=
  if declared = placeholder then none else some declared

/-- Resolves a field of a table into a column. -/
def resolveColumn (catalog : Catalog) (table : String) (field : FieldDeclaration) : Except Fault Column := do
  let marks ← readMarks .field field.directives
  let c ← (classify catalog table field.type).mapError .problem
  let (type, reference) ← applyRef catalog field marks c
  return {
    name := nameOf field.name.text
    description := field.description
    array := c.array
    type
    unique := hasKind .unique marks
    localized := hasKind .localized marks
    reference
    file := firstFile marks
    files := firstFiles marks }

/-! ### Tables -/

/-- Resolves fields in order.  `seen` are the names of the columns before them; a name may not come twice. -/
def resolveFields (catalog : Catalog) (table : String) (seen : List String) :
    List FieldDeclaration → Except Fault (List Column)
  | [] => .ok []
  | field :: fields => do
    let column ← resolveColumn catalog table field
    match column.name with
    | none => (column :: ·) <$> resolveFields catalog table seen fields
    | some name =>
      if name ∈ seen then throw (.problem (.duplicateColumn field.name))
      (column :: ·) <$> resolveFields catalog table (name :: seen) fields

/-- The tags of a table. -/
def tagsOf (table : TableDeclaration) : Except Fault (List String) :=
  firstTags <$> readMarks .table table.directives

/-- Resolves a table. -/
def resolveTable (catalog : Catalog) (table : TableDeclaration) : Except Fault Table := do
  let tags ← tagsOf table
  let columns ← resolveFields catalog table.name.text [] table.fields
  return ⟨table.name.text, tags, columns⟩

/-! ### Enumerations -/

/-- The names of enumerators in order.  `seen` are the names before them; a name may not come twice. -/
def resolveValues (seen : List String) : List EnumeratorDeclaration → Except Problem (List (Option String))
  | [] => .ok []
  | value :: values =>
    match nameOf value.name.text with
    | none => (none :: ·) <$> resolveValues seen values
    | some name =>
      if name ∈ seen then .error (.duplicateEnumerator value.name)
      else (some name :: ·) <$> resolveValues (name :: seen) values

/-- Resolves an enumeration.  A single placeholder declares an enumeration without enumerators. -/
def resolveEnumeration (e : EnumerationDeclaration) : Except Fault Enumeration := do
  let marks ← readMarks .enumeration e.directives
  match firstIndexing marks with
  | none => throw (.problem (.missingIndexing e))
  | some indexing =>
    let enumerators ← (resolveValues [] e.values).mapError .problem
    return ⟨e.name.text, indexing, if enumerators = [none] then [] else enumerators⟩

end TableSchema
