import TableSchema.Proofs.Verdict

/-!
# Other names

A renaming gives tables and enumerations other names, and columns other names of their own.  It has to keep different
names different, and to leave alone those that mean something by themselves: the reserved names of types, and the
placeholder among the columns.  Names of types are changed where a table or an enumeration is declared and where a field
names its type, names of columns where a field is declared and in what a reference is written with.

* (declarations) `Definition.rename` renames a definition, `Table.rename` and `Enumeration.rename` what it resolves to,
  and `Problem.rename` what can be wrong with it;
* (names) `Renaming.type_eq_iff` and `meaning?_rename`: a renamed name is compared as the name is;
* (steps) one lemma for each step of the analysis says that it follows the renaming, from `readMark_rename` up to
  `resolveTable_rename` and `resolveEnumeration_rename`; registering follows it as a `Recasting`.

Main statement: the outcome for renamed documents is the renamed outcome, and a renamed failure is of the same kind
(`outcome_analyzeDocuments_rename`).
-/

namespace TableSchema

open Syntax Analysis

/-- New names for types and for columns. -/
structure Renaming where
  type : String → String
  column : String → String
  type_injective : Function.Injective type
  column_injective : Function.Injective column
  type_reserved : ∀ name ∈ reservedNames, type name = name
  column_placeholder : column placeholder = placeholder

/-- The exchange of two names that are free to use. -/
def Renaming.exchange {name name' : String} (h : name ∉ reservedNames) (h' : name' ∉ reservedNames) : Renaming where
  type := Equiv.swap name name'
  column := Equiv.swap name name'
  type_injective := (Equiv.swap name name').injective
  column_injective := (Equiv.swap name name').injective
  type_reserved _ hreserved :=
    Equiv.swap_apply_of_ne_of_ne (ne_of_mem_of_not_mem hreserved h) (ne_of_mem_of_not_mem hreserved h')
  column_placeholder :=
    have hreserved : placeholder ∈ reservedNames := mem_reservedNames_iff.2 (.inr (.inl rfl))
    Equiv.swap_apply_of_ne_of_ne (ne_of_mem_of_not_mem hreserved h) (ne_of_mem_of_not_mem hreserved h')

/-! ### Renamed declarations -/

section Declarations

variable (ρ : Renaming)

/-- A type with its name renamed. -/
def Syntax.TypeExpr.rename : TypeExpr → TypeExpr
  | .named start name => .named start (ρ.type name)
  | .list start item => .list start item.rename
  | .nonNull inner => .nonNull inner.rename

/-- A string as the name of a column. -/
def Syntax.Value.rename : Value → Value
  | .literal (.string start text) => .literal (.string start (ρ.column text))
  | value => value

/-- Only the argument of a reference holds the name of a column. -/
def Syntax.Argument.rename (a : Argument) : Argument :=
  if a.name.text = "column" then { a with value := a.value.rename ρ } else a

/-- A directive with the column that it refers to renamed. -/
def Syntax.Directive.rename (d : Directive) : Directive :=
  if d.name.text = MarkKind.ref.name then { d with arguments := d.arguments.map (·.rename ρ) } else d

/-- The argument of a field with what its directives refer to renamed. -/
def Syntax.InputValue.rename (v : InputValue) : InputValue :=
  { v with directives := v.directives.map (·.rename ρ) }

/-- A field under a new name, with its type and what it refers to renamed. -/
def Syntax.FieldDeclaration.rename (f : FieldDeclaration) : FieldDeclaration where
  start := f.start
  description := f.description
  name := ⟨f.name.start, ρ.column f.name.text⟩
  arguments := f.arguments.map (·.rename ρ)
  type := f.type.rename ρ
  directives := f.directives.map (·.rename ρ)

/-- A table under a new name, with its fields renamed. -/
def Syntax.TableDeclaration.rename (t : TableDeclaration) : TableDeclaration :=
  { t with
    name := ⟨t.name.start, ρ.type t.name.text⟩
    directives := t.directives.map (·.rename ρ)
    fields := t.fields.map (·.rename ρ) }

/-- An enumerator keeps its name. -/
def Syntax.EnumeratorDeclaration.rename (v : EnumeratorDeclaration) : EnumeratorDeclaration :=
  { v with directives := v.directives.map (·.rename ρ) }

/-- An enumeration under a new name. -/
def Syntax.EnumerationDeclaration.rename (e : EnumerationDeclaration) : EnumerationDeclaration :=
  { e with
    name := ⟨e.name.start, ρ.type e.name.text⟩
    directives := e.directives.map (·.rename ρ)
    values := e.values.map (·.rename ρ) }

/-- A definition with its names renamed. -/
def Syntax.Definition.rename : Definition → Definition
  | .table t => .table (t.rename ρ)
  | .enumeration e => .enumeration (e.rename ρ)
  | .other kind name start stop => .other kind name start stop

/-- A document with the names in its definitions renamed. -/
def Syntax.Document.rename (d : Document) : Document :=
  { d with definitions := d.definitions.map (·.rename ρ) }

/-- A catalog of renamed declarations. -/
def Catalog.rename (c : Catalog) : Catalog where
  tables := c.tables.map fun t => ⟨t.source, t.value.rename ρ⟩
  enumerations := c.enumerations.map fun e => ⟨e.source, e.value.rename ρ⟩

/-! ### Renamed schemas -/

/-- A reference to a renamed table or column. -/
def Reference.rename (r : Reference) : Reference :=
  ⟨ρ.type r.table, r.column.map ρ.column⟩

/-- A column under a new name, with what it refers to renamed. -/
def Column.rename (c : Column) : Column :=
  { c with name := c.name.map ρ.column, reference := c.reference.map (·.rename ρ) }

/-- A table under a new name, with its columns renamed. -/
def Table.rename (t : Table) : Table :=
  ⟨ρ.type t.name, t.tags, t.columns.map (·.rename ρ)⟩

/-- An enumeration under a new name. -/
def Enumeration.rename (e : Enumeration) : Enumeration :=
  { e with name := ρ.type e.name }

/-- A schema with all names renamed. -/
def Schema.rename (s : Schema) : Schema :=
  ⟨s.tables.map (·.rename ρ), s.enumerations.map (·.rename ρ)⟩

/-! ### Renamed problems -/

/-- The problem with a renamed type. -/
def TypeProblem.rename : TypeProblem → TypeProblem
  | .malformed type => .malformed (type.rename ρ)
  | .placeholder type => .placeholder (type.rename ρ)

/-- The problem with a renamed target. -/
def TargetProblem.rename : TargetProblem → TargetProblem
  | .declaredType problem => .declaredType (problem.rename ρ)
  | .array type => .array (type.rename ρ)
  | .notUnique field => .notUnique (field.rename ρ)
  | .notScalar type => .notScalar (type.rename ρ)

/-- The problem with a renamed declaration. -/
def Problem.rename : Problem → Problem
  | .unsupportedDefinition definition => .unsupportedDefinition (definition.rename ρ)
  | .duplicateTable name => .duplicateTable ⟨name.start, ρ.type name.text⟩
  | .duplicateEnumeration name => .duplicateEnumeration ⟨name.start, ρ.type name.text⟩
  | .missingArgument directive parameter => .missingArgument (directive.rename ρ) parameter
  | .declaredType problem => .declaredType (problem.rename ρ)
  | .unresolvedType type name => .unresolvedType (type.rename ρ) (ρ.type name)
  | .duplicateColumn name => .duplicateColumn ⟨name.start, ρ.column name.text⟩
  | .columnNotFound directive table column =>
    .columnNotFound (directive.rename ρ) (ρ.type table) (ρ.column column)
  | .invalidTarget directive source cause => .invalidTarget (directive.rename ρ) source (cause.rename ρ)
  | .missingIndexing e => .missingIndexing (e.rename ρ)
  | problem => problem

/-- The fault of a renamed declaration. -/
def Fault.rename : Fault → Fault
  | .problem p => .problem (p.rename ρ)
  | .refWithoutTable field => .refWithoutTable (ρ.column field)
  | .integerTooLong digits => .integerTooLong digits

/-- The failure of renamed documents. -/
def Failure.rename : Failure → Failure
  | .syntaxError source e => .syntaxError source e
  | .problem source p => .problem source (p.rename ρ)
  | .refWithoutTable field => .refWithoutTable (ρ.column field)
  | .integerTooLong digits => .integerTooLong digits

end Declarations

variable (ρ : Renaming)

/-! ### Names -/

section Names

variable {ρ}

/-- A name becomes a reserved one only if it is this name already. -/
theorem Renaming.type_eq_iff {name reserved : String} (h : reserved ∈ reservedNames) :
    ρ.type name = reserved ↔ name = reserved := by
  constructor
  · intro heq
    rw [← ρ.type_reserved reserved h] at heq
    exact ρ.type_injective heq
  · rintro rfl
    exact ρ.type_reserved name h

theorem Renaming.type_eq_placeholder_iff {name : String} : ρ.type name = placeholder ↔ name = placeholder :=
  ρ.type_eq_iff (mem_reservedNames_iff.2 (.inr (.inl rfl)))

theorem Renaming.type_eq_anyRow_iff {name : String} : ρ.type name = anyRow ↔ name = anyRow :=
  ρ.type_eq_iff (mem_reservedNames_iff.2 (.inl rfl))

theorem Scalar.ofName?_rename (name : String) : Scalar.ofName? (ρ.type name) = Scalar.ofName? name := by
  have hiff : ∀ s : Scalar, Scalar.ofName? (ρ.type name) = some s ↔ Scalar.ofName? name = some s := by
    intro s
    constructor
    · intro h
      rw [(ρ.type_eq_iff s.mem_reservedNames).1 (Scalar.text_of_ofName? h).symm, Scalar.ofName?_text]
    · intro h
      rw [← Scalar.text_of_ofName? h, ρ.type_reserved _ s.mem_reservedNames, Scalar.ofName?_text]
  exact Option.ext hiff

theorem nameOf_rename (name : String) : nameOf (ρ.column name) = (nameOf name).map ρ.column := by
  have hiff : ρ.column name = placeholder ↔ name = placeholder := by
    constructor
    · intro h
      exact ρ.column_injective (h.trans ρ.column_placeholder.symm)
    · rintro rfl
      exact ρ.column_placeholder
  unfold nameOf
  by_cases h : name = placeholder
  · rw [if_pos h, if_pos (hiff.2 h)]
    rfl
  · rw [if_neg h, if_neg (mt hiff.1 h)]
    rfl

/-- A search by name in renamed items finds the renamed item. -/
private theorem find?_map_rename {α : Type} (key : α → String) (rename : α → α) {new : String → String}
    (hnew : Function.Injective new) (hkey : ∀ a, key (rename a) = new (key a)) (items : List α) (name : String) :
    (items.map rename).find? (fun a => key a = new name) = (items.find? fun a => key a = name).map rename := by
  rw [List.find?_map]
  congr 2
  funext a
  rw [Function.comp_apply, hkey, decide_eq_decide]
  exact hnew.eq_iff

theorem Catalog.table?_rename (catalog : Catalog) (name : String) :
    (catalog.rename ρ).table? (ρ.type name) = (catalog.table? name).map fun t => ⟨t.source, t.value.rename ρ⟩ :=
  find?_map_rename (fun t : Sourced TableDeclaration => t.value.name.text) (fun t => ⟨t.source, t.value.rename ρ⟩)
    ρ.type_injective (fun _ => rfl) catalog.tables name

theorem Catalog.enumeration?_rename (catalog : Catalog) (name : String) :
    (catalog.rename ρ).enumeration? (ρ.type name) =
      (catalog.enumeration? name).map fun e => ⟨e.source, e.value.rename ρ⟩ :=
  find?_map_rename (fun e : Sourced EnumerationDeclaration => e.value.name.text)
    (fun e => ⟨e.source, e.value.rename ρ⟩) ρ.type_injective (fun _ => rfl) catalog.enumerations name

theorem meaning?_rename (catalog : Catalog) (table name : String) :
    meaning? (catalog.rename ρ) (ρ.type table) (ρ.type name) =
      (meaning? catalog table name).map fun (type, target) => (type, target.map ρ.type) := by
  unfold meaning?
  simp only [ρ.type_injective.eq_iff, ρ.type_eq_anyRow_iff, ρ.type_eq_placeholder_iff, Scalar.ofName?_rename,
    Catalog.table?_rename, Catalog.enumeration?_rename, Option.isSome_map]
  -- Both sides go through the same tests now.
  split
  · rfl
  split
  · rfl
  split
  · rfl
  cases Scalar.ofName? name with
  | some s => rfl
  | none =>
    dsimp only
    split
    · rfl
    split <;> rfl

end Names

/-! ### Directives -/

/-- What a renamed directive says. -/
def Mark.rename : Mark → Mark
  | .ref column => .ref (ρ.column column)
  | mark => mark

/-- A renamed directive and what it says. -/
def Marked.rename (a : Marked) : Marked := ⟨a.directive.rename ρ, a.mark.rename ρ⟩

theorem Syntax.Directive.name_rename (d : Directive) : (d.rename ρ).name = d.name := by
  unfold Directive.rename
  split <;> rfl

theorem Syntax.Directive.rename_of_ne {d : Directive} (h : d.name.text ≠ MarkKind.ref.name) : d.rename ρ = d :=
  if_neg h

theorem Syntax.Argument.name_rename (a : Argument) : (a.rename ρ).name = a.name := by
  unfold Argument.rename
  split <;> rfl

theorem firstNamed_rename (name : String) (directives : List Directive) :
    firstNamed name (directives.map (·.rename ρ)) = (firstNamed name directives).map (·.rename ρ) := by
  rw [firstNamed, List.find?_map]
  simp only [Function.comp_def, Directive.name_rename]
  rfl

/-- The column of a reference is renamed as it is read. -/
theorem readString_rename (v : Value) :
    readString (v.rename ρ) = ρ.column <$> (readString v).mapError (Fault.rename ρ) := by
  cases v with
  | literal v => cases v <;> rfl
  | list start items => rfl

/-! What is not the column of a reference is read as before, with problems that hold no name of a type or a column. -/

section OtherValues

variable {ρ}

theorem readLiteral_mapError_rename (v : Literal) :
    readLiteral v = (readLiteral v).mapError (Fault.rename ρ) := by
  cases v <;> rfl

theorem readString_mapError_rename (v : Value) : readString v = (readString v).mapError (Fault.rename ρ) := by
  cases v with
  | literal v => exact readLiteral_mapError_rename v
  | list start items => rfl

theorem readStrings_mapError_rename (expected : Expectation) (v : Value) :
    readStrings expected v = (readStrings expected v).mapError (Fault.rename ρ) := by
  cases v with
  | literal v => rfl
  | list start items =>
    have hone : ∀ v : Literal, readLiteral (id v) = id <$> (readLiteral v).mapError (Fault.rename ρ) := by
      intro v
      rw [id_map]
      exact readLiteral_mapError_rename v
    have hall := mapM_map_of_counterpart hone items
    rwa [List.map_id, List.map_id_fun, id_map] at hall

theorem readTags_mapError_rename (v : Value) : readTags v = (readTags v).mapError (Fault.rename ρ) := by
  unfold readTags
  split
  · rfl
  · exact readStrings_mapError_rename .tags v

theorem readIndexBase_mapError_rename (v : Value) :
    readIndexBase v = (readIndexBase v).mapError (Fault.rename ρ) := by
  match v with
  | .literal (.int start spelling) =>
    show readInteger spelling >>= _ = Except.mapError (Fault.rename ρ) (readInteger spelling >>= _)
    rw [bind_mapError, mapError_readInteger fun _ => rfl]
    congr 1
    funext n
    split
    · rfl
    · split <;> rfl
  | .literal (.string _ _) => rfl
  | .literal (.other _ _) => rfl
  | .list _ _ => rfl

/-- A single argument of a directive that is no reference. -/
theorem readArgument_mapError_rename {α : Type} {read : Value → Except Fault α} {d : Directive}
    (hd : d.name.text ≠ MarkKind.ref.name) (h : ∀ v, read v = (read v).mapError (Fault.rename ρ))
    (parameter : Parameter) (name : String) :
    readArgument d parameter name read = (readArgument d parameter name read).mapError (Fault.rename ρ) := by
  have harguments : d.arguments = d.arguments.map id := (List.map_id _).symm
  have hmissing : Fault.problem (.missingArgument d parameter) =
      (Fault.problem (.missingArgument d parameter)).rename ρ :=
    congrArg (Fault.problem <| .missingArgument · parameter) (Directive.rename_of_ne ρ hd).symm
  have hread : ∀ a : Argument, a.name.text = name →
      read (id a).value = id <$> (read a.value).mapError (Fault.rename ρ) := by
    intro a _
    rw [id_map]
    exact h a.value
  have hcounterpart :=
    readArgument_counterpart harguments (fun _ => rfl) hmissing (fun _ => rfl) (fun _ => rfl) hread
  rwa [id_map] at hcounterpart

theorem readNothing_mapError_rename (d : Directive) :
    readNothing d = (readNothing d).mapError (Fault.rename ρ) := by
  unfold readNothing
  cases d.arguments <;> rfl

end OtherValues

theorem MarkKind.read_rename {kind : MarkKind} {d : Directive} (h : kind.name = d.name.text) :
    kind.read (d.rename ρ) = Mark.rename ρ <$> (kind.read d).mapError (Fault.rename ρ) := by
  by_cases hkind : kind = .ref
  · subst hkind
    have harguments : (d.rename ρ).arguments = d.arguments.map (·.rename ρ) := by
      rw [Directive.rename, if_pos h.symm]
    have hunknown : ∀ a : Argument,
        Fault.problem (.unknownArgument (a.rename ρ).name) = (Fault.problem (.unknownArgument a.name)).rename ρ :=
      fun a => congrArg (Fault.problem <| .unknownArgument ·) (a.name_rename ρ)
    have hduplicate : ∀ a : Argument,
        Fault.problem (.duplicateArgument (a.rename ρ).name) =
          (Fault.problem (.duplicateArgument a.name)).rename ρ :=
      fun a => congrArg (Fault.problem <| .duplicateArgument ·) (a.name_rename ρ)
    have hread : ∀ a : Argument, a.name.text = "column" →
        readString (a.rename ρ).value = ρ.column <$> (readString a.value).mapError (Fault.rename ρ) := by
      intro a ha
      rw [Argument.rename, if_pos ha]
      exact readString_rename ρ a.value
    have hname : ∀ a : Argument, (a.rename ρ).name.text = a.name.text :=
      fun a => congrArg Name.text (a.name_rename ρ)
    show Mark.ref <$> readArgument (d.rename ρ) .referencedColumn "column" readString =
      Mark.rename ρ <$> (Mark.ref <$> readArgument d .referencedColumn "column" readString).mapError _
    rw [readArgument_counterpart harguments hname rfl hunknown hduplicate hread]
    cases readArgument d .referencedColumn "column" readString <;> rfl
  · have hd : d.name.text ≠ MarkKind.ref.name := fun e => hkind (MarkKind.name_injective (h.trans e))
    have hread : kind.read d = (kind.read d).mapError (Fault.rename ρ) := by
      cases kind <;> simp only [MarkKind.read, map_mapError]
      case ref => exact absurd rfl hkind
      case unique => rw [← readNothing_mapError_rename]
      case localized => rw [← readNothing_mapError_rename]
      case file => rw [← readArgument_mapError_rename hd readString_mapError_rename]
      case files => rw [← readArgument_mapError_rename hd (readStrings_mapError_rename .extensions)]
      case indexing => rw [← readArgument_mapError_rename hd readIndexBase_mapError_rename]
      case tags => rw [← readArgument_mapError_rename hd readTags_mapError_rename]
    rw [Directive.rename_of_ne ρ hd, ← hread]
    cases hmark : kind.read d with
    | error p => rfl
    | ok mark =>
      obtain ⟨rfl, -⟩ := MarkKind.read_eq_ok_iff.1 hmark
      cases mark <;> first | rfl | exact absurd rfl hkind

theorem readMark_rename (site : Site) (d : Directive) :
    readMark site (d.rename ρ) = Marked.rename ρ <$> (readMark site d).mapError (Fault.rename ρ) := by
  unfold readMark
  rw [Directive.name_rename]
  cases hkind : site.kind? d.name.text with
  | none => rfl
  | some kind =>
    dsimp only
    rw [MarkKind.read_rename ρ (Site.kind?_eq_some_iff.1 hkind).2]
    cases kind.read d <;> rfl

theorem readMarks_rename (site : Site) (directives : List Directive) :
    readMarks site (directives.map (·.rename ρ)) =
      List.map (Marked.rename ρ) <$> (readMarks site directives).mapError (Fault.rename ρ) :=
  mapM_map_of_counterpart (readMark_rename ρ site) directives

section Marks

variable {ρ} (marks : List Marked)

theorem firstRef_rename :
    firstRef (marks.map (Marked.rename ρ)) = (firstRef marks).map fun (d, column) => (d.rename ρ, ρ.column column) := by
  induction marks with
  | nil => rfl
  | cons a marks ih =>
    obtain ⟨d, m⟩ := a
    cases m <;> first | rfl | exact ih

/-- A search that does not look for references finds the same in renamed marks. -/
private theorem findSome?_rename {α : Type} {find : Marked → Option α} (h : ∀ a : Marked, find (a.rename ρ) = find a) :
    (marks.map (Marked.rename ρ)).findSome? find = marks.findSome? find := by
  rw [List.findSome?_map]
  congr 1
  funext a
  exact h a

theorem firstFile_rename : firstFile (marks.map (Marked.rename ρ)) = firstFile marks :=
  findSome?_rename marks fun ⟨_, m⟩ => by cases m <;> rfl

theorem firstFiles_rename : firstFiles (marks.map (Marked.rename ρ)) = firstFiles marks :=
  findSome?_rename marks fun ⟨_, m⟩ => by cases m <;> rfl

theorem firstIndexing_rename : firstIndexing (marks.map (Marked.rename ρ)) = firstIndexing marks :=
  findSome?_rename marks fun ⟨_, m⟩ => by cases m <;> rfl

theorem firstTags_rename : firstTags (marks.map (Marked.rename ρ)) = firstTags marks := by
  unfold firstTags
  rw [findSome?_rename marks fun ⟨_, m⟩ => by cases m <;> rfl]

theorem hasKind_rename (kind : MarkKind) : hasKind kind (marks.map (Marked.rename ρ)) = hasKind kind marks := by
  have hkind : ∀ m : Mark, (m.rename ρ).kind = m.kind := by
    intro m
    cases m <;> rfl
  rw [hasKind, firstOf, List.find?_map, Option.isSome_map]
  simp only [Function.comp_def, Marked.rename, hkind]
  rfl

end Marks

/-! ### Types and references -/

theorem declaredType_rename (type : TypeExpr) :
    declaredType (type.rename ρ) =
      (fun d => ⟨d.array, ρ.type d.name⟩) <$> (declaredType type).mapError (TypeProblem.rename ρ) := by
  cases type with
  | named start name =>
    show (if ρ.type name = placeholder then _ else _) =
      _ <$> (if name = placeholder then _ else _ : Except _ _).mapError _
    by_cases h : name = placeholder
    · rw [if_pos h, if_pos (ρ.type_eq_placeholder_iff.2 h)]
      rfl
    · rw [if_neg h, if_neg (mt ρ.type_eq_placeholder_iff.1 h)]
      rfl
  | list start item => cases item <;> rfl
  | nonNull inner => rfl

/-- A classification that refers to a renamed table or enumeration. -/
def Classification.rename (c : Classification) : Classification :=
  { c with target := c.target.map ρ.type }

theorem classify_rename (catalog : Catalog) (table : String) (type : TypeExpr) :
    classify (catalog.rename ρ) (ρ.type table) (type.rename ρ) =
      Classification.rename ρ <$> (classify catalog table type).mapError (Problem.rename ρ) := by
  unfold classify
  rw [declaredType_rename]
  cases declaredType type with
  | error problem => rfl
  | ok declared =>
    simp only [Except.mapError, Functor.map, Except.map, meaning?_rename]
    cases meaning? catalog table declared.name <;> rfl

theorem targetType_rename (t : TableDeclaration) (column : String) :
    targetType (t.rename ρ) (ρ.column column) = (targetType t column).mapError (TargetProblem.rename ρ) := by
  have hfind : (t.rename ρ).fields.find? (·.name.text = ρ.column column) =
      (t.fields.find? (·.name.text = column)).map (·.rename ρ) :=
    find?_map_rename (·.name.text) (·.rename ρ) ρ.column_injective (fun _ => rfl) t.fields column
  unfold targetType
  rw [hfind]
  cases t.fields.find? (·.name.text = column) with
  | none => rfl
  | some field =>
    have hunique : (firstNamed MarkKind.unique.name (field.rename ρ).directives).isNone =
        (firstNamed MarkKind.unique.name field.directives).isNone := by
      show (firstNamed _ (field.directives.map (·.rename ρ))).isNone = _
      rw [firstNamed_rename, Option.isNone_map]
    simp only [Option.map_some]
    rw [show (field.rename ρ).type = field.type.rename ρ from rfl, declaredType_rename, hunique]
    cases declaredType field.type with
    | error problem => rfl
    | ok declared =>
      simp only [Except.mapError, Functor.map, Except.map, Scalar.ofName?_rename]
      split
      · rfl
      split
      · rfl
      split <;> rfl

theorem referencedType_rename (catalog : Catalog) (d : Directive) (table column : String) :
    referencedType (catalog.rename ρ) (d.rename ρ) (ρ.type table) (ρ.column column) =
      (referencedType catalog d table column).mapError (Problem.rename ρ) := by
  unfold referencedType
  rw [Catalog.table?_rename]
  cases catalog.table? table with
  | none => rfl
  | some target =>
    simp only [Option.map_some]
    rw [targetType_rename]
    cases targetType target.value column with
    | error cause => rfl
    | ok found => cases found <;> rfl

theorem applyRef_rename (catalog : Catalog) (field : FieldDeclaration) (marks : List Marked) (c : Classification) :
    applyRef (catalog.rename ρ) (field.rename ρ) (marks.map (Marked.rename ρ)) (c.rename ρ) =
      (fun (type, reference) => (type, reference.map (·.rename ρ))) <$>
        (applyRef catalog field marks c).mapError (Fault.rename ρ) := by
  obtain ⟨array, type, target⟩ := c
  unfold applyRef Classification.rename
  rw [firstRef_rename]
  cases firstRef marks with
  | none => cases target <;> rfl
  | some found =>
    obtain ⟨directive, column⟩ := found
    cases target with
    | none => rfl
    | some table =>
      simp only [Option.map_some, referencedType_rename]
      cases referencedType catalog directive table column <;> rfl

/-! ### Resolution -/

theorem resolveColumn_rename (catalog : Catalog) (table : String) (field : FieldDeclaration) :
    resolveColumn (catalog.rename ρ) (ρ.type table) (field.rename ρ) =
      Column.rename ρ <$> (resolveColumn catalog table field).mapError (Fault.rename ρ) := by
  have hmarks := readMarks_rename ρ .field field.directives
  have hclass := classify_rename ρ catalog table field.type
  show (readMarks .field (field.directives.map (·.rename ρ)) >>= fun marks =>
    (classify (catalog.rename ρ) (ρ.type table) (field.type.rename ρ)).mapError Fault.problem >>= fun c =>
      applyRef (catalog.rename ρ) (field.rename ρ) marks c >>= _) = _
  unfold resolveColumn
  rw [hmarks, hclass]
  cases readMarks .field field.directives with
  | error p => rfl
  | ok marks =>
    cases classify catalog table field.type with
    | error p => rfl
    | ok c =>
      show (applyRef (catalog.rename ρ) (field.rename ρ) (marks.map (Marked.rename ρ)) (c.rename ρ) >>= _) =
        Column.rename ρ <$> Except.mapError (Fault.rename ρ) (applyRef catalog field marks c >>= _)
      rw [applyRef_rename, hasKind_rename, hasKind_rename, firstFile_rename, firstFiles_rename]
      cases applyRef catalog field marks c with
      | error fault => rfl
      | ok result =>
        have hname : nameOf (field.rename ρ).name.text = (nameOf field.name.text).map ρ.column :=
          nameOf_rename field.name.text
        show Except.ok (Column.mk (nameOf (field.rename ρ).name.text) _ _ _ _ _ _ _ _) = _
        rw [hname]
        rfl

theorem resolveFields_rename (catalog : Catalog) (table : String) (seen : List String)
    (fields : List FieldDeclaration) :
    resolveFields (catalog.rename ρ) (ρ.type table) (seen.map ρ.column) (fields.map (·.rename ρ)) =
      List.map (Column.rename ρ) <$> (resolveFields catalog table seen fields).mapError (Fault.rename ρ) := by
  have hcons : ∀ (column : Column) (r : Except Fault (List Column)),
      (Column.rename ρ column :: ·) <$> (List.map (Column.rename ρ) <$> r.mapError (Fault.rename ρ)) =
        List.map (Column.rename ρ) <$> ((column :: ·) <$> r).mapError (Fault.rename ρ) := by
    intro column r
    cases r <;> rfl
  induction fields generalizing seen with
  | nil => rfl
  | cons field fields ih =>
    rw [List.map_cons, resolveFields, resolveFields, resolveColumn_rename]
    refine bind_of_counterpart fun column => ?_
    have hname : (column.rename ρ).name = column.name.map ρ.column := rfl
    rw [hname]
    cases column.name with
    | none =>
      dsimp only [Option.map_none]
      rw [ih, hcons]
    | some name =>
      dsimp only [Option.map_some]
      have hmem : ρ.column name ∈ seen.map ρ.column ↔ name ∈ seen := List.mem_map_of_injective ρ.column_injective
      by_cases hseen : name ∈ seen
      · rw [if_pos hseen, if_pos (hmem.2 hseen)]
        rfl
      · rw [if_neg hseen, if_neg (mt hmem.1 hseen), ← List.map_cons, ih]
        exact hcons column _

theorem tagsOf_rename (t : TableDeclaration) :
    tagsOf (t.rename ρ) = (tagsOf t).mapError (Fault.rename ρ) := by
  unfold tagsOf
  rw [show (t.rename ρ).directives = t.directives.map (·.rename ρ) from rfl, readMarks_rename]
  cases readMarks .table t.directives with
  | error p => rfl
  | ok marks => exact congrArg Except.ok (firstTags_rename marks)

theorem resolveTable_rename (catalog : Catalog) (t : TableDeclaration) :
    resolveTable (catalog.rename ρ) (t.rename ρ) =
      Table.rename ρ <$> (resolveTable catalog t).mapError (Fault.rename ρ) := by
  have hfields : resolveFields (catalog.rename ρ) (ρ.type t.name.text) [] (t.fields.map (·.rename ρ)) =
      List.map (Column.rename ρ) <$> (resolveFields catalog t.name.text [] t.fields).mapError (Fault.rename ρ) :=
    resolveFields_rename ρ catalog t.name.text [] t.fields
  unfold resolveTable
  rw [tagsOf_rename]
  cases tagsOf t with
  | error p => rfl
  | ok tags =>
    show (resolveFields (catalog.rename ρ) (ρ.type t.name.text) [] (t.fields.map (·.rename ρ)) >>= _) =
      Table.rename ρ <$> Except.mapError (Fault.rename ρ) (resolveFields catalog t.name.text [] t.fields >>= _)
    rw [hfields]
    cases resolveFields catalog t.name.text [] t.fields <;> rfl

theorem resolveValues_rename (seen : List String) (values : List EnumeratorDeclaration) :
    resolveValues seen (values.map (·.rename ρ)) = (resolveValues seen values).mapError (Problem.rename ρ) := by
  induction values generalizing seen with
  | nil => rfl
  | cons value values ih =>
    rw [List.map_cons, resolveValues, resolveValues, show (value.rename ρ).name = value.name from rfl]
    cases nameOf value.name.text with
    | none =>
      dsimp only
      rw [ih, map_mapError]
    | some name =>
      dsimp only
      split
      · rfl
      · rw [ih, map_mapError]

theorem resolveEnumeration_rename (e : EnumerationDeclaration) :
    resolveEnumeration (e.rename ρ) =
      Enumeration.rename ρ <$> (resolveEnumeration e).mapError (Fault.rename ρ) := by
  unfold resolveEnumeration
  rw [show (e.rename ρ).directives = e.directives.map (·.rename ρ) from rfl, readMarks_rename]
  cases readMarks .enumeration e.directives with
  | error p => rfl
  | ok marks =>
    simp only [Except.mapError, Functor.map, Except.map, Bind.bind, Except.bind, firstIndexing_rename]
    cases firstIndexing marks with
    | none => rfl
    | some indexing =>
      dsimp only
      rw [show (e.rename ρ).values = e.values.map (·.rename ρ) from rfl, resolveValues_rename]
      cases resolveValues [] e.values <;> rfl

/-! ### Analysis -/

/-- A renaming as a change of definitions. -/
def Renaming.recasting : Recasting where
  source := id
  table := (·.rename ρ)
  enumeration := (·.rename ρ)
  definition := (·.rename ρ)
  problem := Problem.rename ρ
  fault := Fault.rename ρ
  failure := Failure.rename ρ
  name := ρ.type
  name_injective := ρ.type_injective
  name_table _ := rfl
  name_enumeration _ := rfl
  definition_table _ := rfl
  definition_enumeration _ := rfl
  definition_other _ name start stop := ⟨name, start, stop, rfl⟩
  problem_duplicateTable _ := rfl
  problem_duplicateEnumeration _ := rfl
  problem_unsupportedDefinition _ := rfl
  failure_problem _ _ := rfl
  failure_inSource _ f := by cases f <;> rfl

theorem TargetProblem.kind_rename (p : TargetProblem) : (p.rename ρ).kind = p.kind := by
  cases p with
  | declaredType problem => cases problem <;> rfl
  | _ => rfl

theorem Failure.kind_rename (failure : Failure) :
    (failure.rename ρ).verdict.kind = failure.verdict.kind ∧
      (failure.rename ρ).verdict.cause.map Prod.fst = failure.verdict.cause.map Prod.fst := by
  cases failure with
  | syntaxError source e => exact ⟨rfl, rfl⟩
  | refWithoutTable field => exact ⟨rfl, rfl⟩
  | integerTooLong digits => exact ⟨rfl, rfl⟩
  | problem source p =>
    cases p with
    | declaredType problem => cases problem <;> exact ⟨rfl, rfl⟩
    | invalidTarget directive source cause => exact ⟨rfl, congrArg (some <| some ·) (cause.kind_rename ρ)⟩
    | _ => exact ⟨rfl, rfl⟩

/-- The schema of renamed documents is the renamed schema.  If there is none, the failure is the renamed failure, and is
of the same kind with a cause of the same kind. -/
theorem outcome_analyzeDocuments_rename (documents : List Document) :
    (analyzeDocuments (documents.map (·.rename ρ))).outcome =
        Schema.rename ρ <$> (analyzeDocuments documents).outcome.mapError (Failure.rename ρ) ∧
      ∀ failure : Failure, (failure.rename ρ).verdict.kind = failure.verdict.kind ∧
        (failure.rename ρ).verdict.cause.map Prod.fst = failure.verdict.cause.map Prod.fst := by
  have hdefinitions : (documents.map (·.rename ρ)).flatMap definitionsOf =
      (documents.flatMap definitionsOf).map (ρ.recasting.inSource ρ.recasting.definition) := by
    rw [List.flatMap_map, List.map_flatMap]
    simp only [definitionsOf, Document.rename, List.map_map]
    rfl
  refine ⟨?_, fun failure => failure.kind_rename ρ⟩
  exact ρ.recasting.outcome_analyzeDocuments_eq (resolveTable_rename ρ) (resolveEnumeration_rename ρ) hdefinitions

/-- The exchange of two names in a table that has the name of its own column: both are called otherwise, each by its own
rule, as in the text with the other names.  A reference to a column that is not unique fails under either name. -/
theorem outcome_analyzeDocuments_rename_exchange :
    ∃ (ρ : Renaming) (documents documents' failing : List Document) (schema : Schema) (failure : Failure),
      bareDefinitions (documents.map (·.rename ρ)) = bareDefinitions documents' ∧
        bareDefinitions documents ≠ bareDefinitions documents' ∧
        (analyzeDocuments documents).outcome = .ok schema ∧
        (analyzeDocuments (documents.map (·.rename ρ))).outcome = .ok (schema.rename ρ) ∧
        (schema.rename ρ).tables.map (·.name) = ["b"] ∧
        (analyzeDocuments failing).outcome = .error failure ∧
        (analyzeDocuments (failing.map (·.rename ρ))).outcome = .error (failure.rename ρ) ∧
        failure.rename ρ ≠ failure ∧ (failure.rename ρ).verdict.kind = some .columnInvalid ∧
        (failure.rename ρ).verdict.cause.map Prod.fst = some (some .columnNotUnique) := by
  let ρ : Renaming := .exchange (show "a" ∉ reservedNames by decide) (show "b" ∉ reservedNames by decide)
  let documents := [Source.numbered 1 "type a \x7b a: i32 @unique b: a @ref(column: \"a\") \x7d"].filterMap
    (·.document?)
  let documents' := [Source.numbered 1 "type b \x7b b: i32 @unique a: b @ref(column: \"b\") \x7d"].filterMap
    (·.document?)
  let source := Source.numbered 1 "type a \x7b a: i32 b: a @ref(column: \"a\") \x7d"
  let failing := [source].filterMap (·.document?)
  let a : Column := ⟨some "a", none, false, .scalar .i32, true, false, none, none, none⟩
  let b : Column := ⟨some "b", none, false, .scalar .i32, false, false, some ⟨"a", some "a"⟩, none, none⟩
  let schema : Schema := ⟨[⟨"a", [], [a, b]⟩], []⟩
  let directive : Directive := ⟨21, ⟨22, "ref"⟩, [⟨⟨26, "column"⟩, .literal (.string 34 "a")⟩]⟩
  let failure : Failure := .problem source
    (.invalidTarget directive source (.notUnique ⟨9, none, ⟨9, "a"⟩, [], .named 12 "i32", []⟩))
  have hschema : (analyzeDocuments documents).outcome = .ok schema := by decide +kernel
  have hfailure : (analyzeDocuments failing).outcome = .error failure := by decide +kernel
  have hrenamed := (outcome_analyzeDocuments_rename ρ documents).1
  rw [hschema] at hrenamed
  obtain ⟨hfailing, hkinds⟩ := outcome_analyzeDocuments_rename ρ failing
  rw [hfailure] at hfailing
  obtain ⟨hkind, hcause⟩ := hkinds failure
  exact ⟨ρ, documents, documents', failing, schema, failure, by decide +kernel, by decide +kernel, hschema, hrenamed,
    by decide +kernel, hfailure, hfailing, by decide +kernel, hkind, hcause⟩

end TableSchema
