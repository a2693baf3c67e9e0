import TableSchema.Proofs.References

/-!
# Shapes of columns

The type of a column and its reference come from two steps: what its declared type means, and then its first reference
directive, which replaces the type and adds a column to the reference.  Together they take one of five shapes
(`Column.HasShape`), whatever tables and enumerations are called.

Main statement: in a schema every column has exactly one of the shapes, everything that a reference names is part of the
schema, and only scalars refer to a column (`column_hasShape`).
-/

namespace TableSchema

open Syntax Analysis

/-- What a column is, by its type. -/
inductive ColumnShape
  | row
  | foreignRow
  | enumRow
  | array
  | scalar
deriving DecidableEq

/-- A column of a table with a type and a reference that belong together in a schema. -/
def Column.HasShape (schema : Schema) (table : Table) (column : Column) : ColumnShape → Prop
  | .row => column.type = .row ∧ column.reference = some ⟨table.name, none⟩
  | .foreignRow => column.type = .foreignRow ∧
      (column.reference = none ∨
        ∃ other ∈ schema.tables, other.name ≠ table.name ∧ column.reference = some ⟨other.name, none⟩)
  | .enumRow => column.type = .enumRow ∧
      ∃ e ∈ schema.enumerations, (∀ t ∈ schema.tables, t.name ≠ e.name) ∧ column.reference = some ⟨e.name, none⟩
  | .array => column.type = .array ∧ column.array = true ∧ column.reference = none
  | .scalar => (∃ s, column.type = .scalar s) ∧
      (column.reference = none ∨
        ∃ other ∈ schema.tables, ∃ name, column.reference = some ⟨other.name, some name⟩)

/-- The shape that goes with a type. -/
def ColumnType.shape : ColumnType → ColumnShape
  | .scalar _ => .scalar
  | .row => .row
  | .foreignRow => .foreignRow
  | .enumRow => .enumRow
  | .array => .array

/-- A column has no other shape than the one that goes with its type. -/
theorem Column.HasShape.shape_eq {schema : Schema} {table : Table} {column : Column} {shape : ColumnShape}
    (h : column.HasShape schema table shape) : shape = column.type.shape := by
  cases shape with
  | scalar =>
    obtain ⟨⟨s, hs⟩, -⟩ := h
    rw [hs]
    rfl
  | _ =>
    rw [h.1]
    rfl

section Names

variable {catalog : Catalog} {schema : Schema}

theorem Catalog.ResolvesTo.mem_tableNames_iff (h : catalog.ResolvesTo schema) {name : String} :
    name ∈ catalog.tableNames ↔ ∃ t ∈ schema.tables, t.name = name := by
  rw [← h.tableNames_eq, List.mem_map]

theorem Catalog.ResolvesTo.mem_enumerationNames_iff (h : catalog.ResolvesTo schema) {name : String} :
    name ∈ catalog.enumerationNames ↔ ∃ e ∈ schema.enumerations, e.name = name := by
  rw [← h.enumerationNames_eq, List.mem_map]

end Names

section Shapes

variable {catalog : Catalog} {schema : Schema} {table : Table} {column : Column}

/-- A column without a reference directive has the shape of what its declared type means. -/
theorem Means.hasShape (h : catalog.ResolvesTo schema) {name : String} {type : ColumnType} {target : Option String}
    (hmeans : Means catalog table.name name type target) (htype : column.type = type)
    (hreference : column.reference = target.map (⟨·, none⟩)) (harray : name = placeholder → column.array = true) :
    column.HasShape schema table type.shape := by
  cases hmeans with
  | own => exact ⟨htype, hreference⟩
  | anyRow _ => exact ⟨htype, .inl hreference⟩
  | unknown _ => exact ⟨htype, harray rfl, hreference⟩
  | scalar s _ => exact ⟨⟨s, htype⟩, .inl hreference⟩
  | foreign hother _ hname =>
    obtain ⟨t, ht, rfl⟩ := h.mem_tableNames_iff.1 hname
    exact ⟨htype, .inr ⟨t, ht, hother, hreference⟩⟩
  | enumeration _ _ hnot hname =>
    obtain ⟨e, he, rfl⟩ := h.mem_enumerationNames_iff.1 hname
    exact ⟨htype, e, he, fun t ht heq => hnot (h.mem_tableNames_iff.2 ⟨t, ht, heq⟩), hreference⟩

/-- A placeholder stands in a list. -/
theorem Syntax.TypeExpr.Declares.array_eq_true {type : TypeExpr} {array : Bool} {name : String}
    (h : type.Declares array name) (hname : name = placeholder) : array = true := by
  cases h with
  | single _ hne => exact absurd hname hne
  | list => rfl

/-- Every column that a field resolves into has a shape. -/
theorem hasShape_of_resolveColumn (h : catalog.ResolvesTo schema) {field : FieldDeclaration}
    (hcolumn : resolveColumn catalog table.name field = .ok column) :
    column.HasShape schema table column.type.shape := by
  obtain ⟨marks, c, type, reference, -, hc, happly, rfl⟩ := resolveColumn_eq_ok_iff.1 hcolumn
  rcases applyRef_eq_ok_iff.1 happly with ⟨-, rfl, rfl⟩ | ⟨_, name, target, s, -, -, hcheck, rfl, rfl⟩
  · obtain ⟨name, hdeclares, hmeans⟩ := classify_eq_ok_iff.1 hc
    exact hmeans.hasShape h rfl rfl hdeclares.array_eq_true
  · -- The check looked the table up in the catalog, so it is one of the schema.
    obtain ⟨declaration, hdeclaration, -⟩ := referencedType_eq_ok_iff.1 hcheck
    have hmem : target ∈ catalog.tableNames := by
      rw [← Catalog.isSome_table?_iff, hdeclaration]
      rfl
    obtain ⟨other, hother, rfl⟩ := h.mem_tableNames_iff.1 hmem
    exact ⟨⟨s, rfl⟩, .inr ⟨other, hother, name, rfl⟩⟩

/-- A reference names a table or an enumeration of the schema. -/
theorem Column.HasShape.names_declared (ht : table ∈ schema.tables) {shape : ColumnShape}
    (h : column.HasShape schema table shape) {reference : Reference} (hreference : column.reference = some reference) :
    (∃ t ∈ schema.tables, t.name = reference.table) ∨ ∃ e ∈ schema.enumerations, e.name = reference.table := by
  cases shape with
  | row =>
    obtain ⟨-, h⟩ := h
    cases h.symm.trans hreference
    exact .inl ⟨table, ht, rfl⟩
  | foreignRow =>
    obtain ⟨-, h | ⟨other, hother, -, h⟩⟩ := h
    · cases h.symm.trans hreference
    · cases h.symm.trans hreference
      exact .inl ⟨other, hother, rfl⟩
  | enumRow =>
    obtain ⟨-, e, he, -, h⟩ := h
    cases h.symm.trans hreference
    exact .inr ⟨e, he, rfl⟩
  | array =>
    obtain ⟨-, -, h⟩ := h
    cases h.symm.trans hreference
  | scalar =>
    obtain ⟨-, h | ⟨other, hother, name, h⟩⟩ := h
    · cases h.symm.trans hreference
    · cases h.symm.trans hreference
      exact .inl ⟨other, hother, rfl⟩

/-- Only a scalar refers to a column. -/
theorem Column.HasShape.scalar_of_column {shape : ColumnShape} (h : column.HasShape schema table shape)
    {t name : String} (hreference : column.reference = some ⟨t, some name⟩) : shape = .scalar := by
  cases shape with
  | row =>
    obtain ⟨-, h⟩ := h
    cases h.symm.trans hreference
  | foreignRow =>
    obtain ⟨-, h | ⟨_, -, -, h⟩⟩ := h <;> cases h.symm.trans hreference
  | enumRow =>
    obtain ⟨-, _, -, -, h⟩ := h
    cases h.symm.trans hreference
  | array =>
    obtain ⟨-, -, h⟩ := h
    cases h.symm.trans hreference
  | scalar => rfl

end Shapes

/-- Every column of a schema has exactly one shape; what its reference names is part of the schema, and it refers to a
column only if it is a scalar. -/
theorem column_hasShape {sources : List Source} {schema : Schema} (h : analyze sources = .ok schema) {table : Table}
    (ht : table ∈ schema.tables) {column : Column} (hc : column ∈ table.columns) :
    (∃! shape, column.HasShape schema table shape) ∧
      ∀ reference, column.reference = some reference →
        ((∃ t ∈ schema.tables, t.name = reference.table) ∨ ∃ e ∈ schema.enumerations, e.name = reference.table) ∧
          (reference.column ≠ none → ∃ s, column.type = .scalar s) := by
  obtain ⟨documents, -, -, hresolves⟩ := analyze_eq_ok_iff.1 h
  obtain ⟨declaration, -, htable⟩ := exists_of_forall₂_of_mem hresolves.tables ht
  obtain ⟨hname, -, hcolumns⟩ := resolveTable_eq_ok_iff.1 htable
  obtain ⟨field, -, hcolumn⟩ := exists_of_forall₂_of_mem (resolveFields_forall₂ hcolumns) hc
  rw [← hname] at hcolumn
  have hshape := hasShape_of_resolveColumn hresolves hcolumn
  refine ⟨⟨_, hshape, fun shape h => h.shape_eq⟩, fun reference hreference => ⟨?_, fun hne => ?_⟩⟩
  · exact hshape.names_declared ht hreference
  · obtain ⟨target, name⟩ := reference
    obtain ⟨name, rfl⟩ := Option.ne_none_iff_exists'.1 hne
    have hscalar := hshape.scalar_of_column hreference
    rw [hscalar] at hshape
    exact hshape.1

/-- A table that is called like a scalar, and one that is called like an enumeration. -/
theorem column_hasShape_in_i32 :
    ∃ sources schema, analyze sources = .ok schema ∧ ∃ table ∈ schema.tables, ∃ column ∈ table.columns,
      table.name = "i32" ∧
      (∃! shape, column.HasShape schema table shape) ∧
        ∀ reference, column.reference = some reference →
          ((∃ t ∈ schema.tables, t.name = reference.table) ∨ ∃ e ∈ schema.enumerations, e.name = reference.table) ∧
            (reference.column ≠ none → ∃ s, column.type = .scalar s) := by
  let sources : List Source := [.numbered 1
    "type i32 \x7b x: [i32] e: E @ref(column: \"x\") \x7d type E \x7b x: bool @unique \x7d enum E @indexing(first: 0)"]
  let x : Column := ⟨some "x", none, true, .row, false, false, some ⟨"i32", none⟩, none, none⟩
  let e : Column := ⟨some "e", none, false, .scalar .bool, false, false, some ⟨"E", some "x"⟩, none, none⟩
  let unique : Column := ⟨some "x", none, false, .scalar .bool, true, false, none, none, none⟩
  have h : analyze sources = .ok ⟨[⟨"i32", [], [x, e]⟩, ⟨"E", [], [unique]⟩], [⟨"E", 0, []⟩]⟩ := by decide +kernel
  exact ⟨sources, _, h, ⟨"i32", [], [x, e]⟩, .head _, e, .tail _ (.head _), rfl,
    column_hasShape h (.head _) (.tail _ (.head _))⟩

end TableSchema
