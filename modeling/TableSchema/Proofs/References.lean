import TableSchema.Proofs.WellFormed

/-!
# Where references lead

A reference to a column is checked against the declaration of the table that it names.  Whoever reads the schema follows
it through the tables and columns of the schema instead.  Both find the same column, with two exceptions that come from
the names which mean something else in a declaration than in the schema:

* a field with the name of the placeholder can be referred to, but its column has no name and is not found;
* in a table with the name of a scalar, a field that is declared with this name is taken for a scalar by the check, and
  is a row of the table in the schema.

Main statements: `reference_leads_to_target` says what there is behind a reference in every schema, and
`references_not_sound` that neither exception can be left out.
-/

namespace TableSchema

open Syntax Analysis

/-! ### From declarations to the schema -/

/-- A search in a list finds the counterpart of what an equivalent search in a list of counterparts finds. -/
theorem find?_of_forall₂ {α β : Type} {related : α → β → Prop} {p : α → Bool} {q : β → Bool} {as : List α}
    {bs : List β} (h : List.Forall₂ related as bs) (hpq : ∀ a b, related a b → p a = q b) {a : α}
    (ha : as.find? p = some a) : ∃ b, bs.find? q = some b ∧ related a b := by
  induction h with
  | nil => cases ha
  | @cons first counterpart as bs hfirst _ ih =>
    cases hp : p first with
    | true =>
      rw [List.find?_cons_of_pos hp] at ha
      cases ha
      exact ⟨counterpart, List.find?_cons_of_pos (hpq _ _ hfirst ▸ hp), hfirst⟩
    | false =>
      have hq : ¬ q counterpart = true := by simp [← hpq _ _ hfirst, hp]
      rw [List.find?_cons_of_neg (by simp [hp])] at ha
      rw [List.find?_cons_of_neg hq]
      exact ih ha

theorem nameOf_inj {name name' : String} : nameOf name = nameOf name' ↔ name = name' := by
  constructor
  · intro h
    unfold nameOf at h
    split at h <;> split at h <;> simp_all
  · rintro rfl
    rfl

theorem map_nameOf_eq_iff {names names' : List String} : names.map nameOf = names'.map nameOf ↔ names = names' :=
  (List.map_injective_iff.2 fun _ _ => nameOf_inj.1).eq_iff

theorem nameOf_eq_some_iff {declared name : String} :
    nameOf declared = some name ↔ declared ≠ placeholder ∧ declared = name := by
  unfold nameOf
  split <;> simp [*]

theorem nameOf_ne_placeholder (name : String) : nameOf name ≠ some placeholder := by
  unfold nameOf
  split <;> simp_all

variable {catalog : Catalog}

/-- A table that is found in the catalog is found in the schema. -/
theorem Catalog.ResolvesTo.table?_eq_some {schema : Schema} (h : catalog.ResolvesTo schema) {name : String}
    {t : Sourced TableDeclaration} (ht : catalog.table? name = some t) :
    ∃ table, schema.table? name = some table ∧ resolveTable catalog t.value = .ok table := by
  refine find?_of_forall₂ h.tables (fun t table hresolve => ?_) ht
  rw [(resolveTable_eq_ok_iff.1 hresolve).1]

/-- A field that is found in a declaration is found among the columns, under the name that it gives. -/
theorem find?_columns_eq_some {table : String} {seen : List String} {fields : List FieldDeclaration}
    {columns : List Column} (h : resolveFields catalog table seen fields = .ok columns) {name : String}
    {field : FieldDeclaration} (hfield : fields.find? (·.name.text = name) = some field) :
    ∃ column, columns.find? (·.name = nameOf name) = some column ∧ resolveColumn catalog table field = .ok column := by
  refine find?_of_forall₂ (resolveFields_forall₂ h) (fun field column hresolve => ?_) hfield
  rw [name_of_resolveColumn hresolve, FieldDeclaration.columnName, decide_eq_decide, nameOf_inj]

/-- Under a name that stands for no name no column is found, and under any other the column of that name. -/
theorem column?_eq {declaration : TableDeclaration} {table : Table} (h : resolveTable catalog declaration = .ok table)
    (name : String) :
    table.column? name = if name = placeholder then none else table.columns.find? (·.name = nameOf name) := by
  have hfields := resolveFields_forall₂ (resolveTable_eq_ok_iff.1 h).2.2
  unfold Table.column?
  by_cases hname : name = placeholder
  · rw [if_pos hname, List.find?_eq_none]
    intro column hcolumn
    obtain ⟨field, -, hresolve⟩ := exists_of_forall₂_of_mem hfields hcolumn
    have hne : column.name ≠ some name := by
      rw [name_of_resolveColumn hresolve, hname]
      exact nameOf_ne_placeholder field.name.text
    simpa using hne
  · rw [if_neg hname, nameOf, if_neg hname]

/-! ### The check of a target -/

theorem targetType_eq_ok_some_iff {t : TableDeclaration} {column : String} {scalar : Scalar} :
    targetType t column = .ok (some scalar) ↔
      ∃ field, t.fields.find? (·.name.text = column) = some field ∧ field.IsTarget scalar := by
  unfold targetType
  cases t.fields.find? (·.name.text = column) with
  | none => simp
  | some field =>
    simp only [Option.some.injEq, exists_eq_left', FieldDeclaration.isTarget_iff]
    cases declaredType field.type with
    | error problem => simp
    | ok d =>
      obtain ⟨array, name⟩ := d
      cases array with
      | true => simp
      | false =>
        cases firstNamed MarkKind.unique.name field.directives with
        | none => simp
        | some unique =>
          cases hs : Scalar.ofName? name with
          | none =>
            have hname : name ≠ scalar.text := by
              rintro rfl
              rw [Scalar.ofName?_text] at hs
              cases hs
            simp [hs, hname]
          | some s =>
            obtain rfl := Scalar.text_of_ofName? hs
            simp [Scalar.ofName?_text, Scalar.text_inj]

theorem referencedType_eq_ok_iff {directive : Directive} {table column : String} {scalar : Scalar} :
    referencedType catalog directive table column = .ok scalar ↔
      ∃ target, catalog.table? table = some target ∧
        ∃ field, target.value.fields.find? (·.name.text = column) = some field ∧ field.IsTarget scalar := by
  unfold referencedType
  cases catalog.table? table with
  | none => simp
  | some target =>
    simp only [Option.some.injEq, exists_eq_left', ← targetType_eq_ok_some_iff]
    cases targetType target.value column with
    | error cause => simp
    | ok found => cases found <;> simp

/-- A reference to a column comes from a check that found its type, and the column has this type. -/
theorem referencedType_of_reference {table : String} {field : FieldDeclaration} {column : Column}
    (h : resolveColumn catalog table field = .ok column) {target name : String}
    (href : column.reference = some ⟨target, some name⟩) :
    ∃ directive scalar, referencedType catalog directive target name = .ok scalar ∧ column.type = .scalar scalar := by
  obtain ⟨marks, c, type, reference, -, -, happly, rfl⟩ := resolveColumn_eq_ok_iff.1 h
  obtain rfl : reference = some ⟨target, some name⟩ := href
  rcases applyRef_eq_ok_iff.1 happly with ⟨-, -, hnone⟩ | ⟨directive, said, t, scalar, -, -, hcheck, htype, hreference⟩
  · -- Without a directive the reference, if there is one, names no column.
    cases htarget : c.target <;> simp [htarget] at hnone
  · cases hreference
    exact ⟨directive, scalar, hcheck, htype⟩

/-! ### The target in the schema -/

/-- A column as the target of references that take a scalar for its type.  Where this is the name of the table, the
column refers to the table instead, as a row of it unless it has a reference directive of its own. -/
structure Column.IsTarget (column : Column) (table : String) (scalar : Scalar) : Prop where
  unique : column.unique = true
  single : column.array = false
  plain : scalar.text ≠ table → column.type = .scalar scalar ∧ column.reference = none
  own : scalar.text = table → ∃ name, column.reference = some ⟨table, name⟩ ∧ (name = none → column.type = .row)

/-- A field that passes the check of references resolves into a target. -/
theorem Syntax.FieldDeclaration.IsTarget.resolves {table : String} {field : FieldDeclaration} {column : Column}
    {scalar : Scalar} (hfield : field.IsTarget scalar) (h : resolveColumn catalog table field = .ok column) :
    column.IsTarget table scalar := by
  obtain ⟨marks, c, type, reference, hmarks, hc, happly, rfl⟩ := resolveColumn_eq_ok_iff.1 h
  obtain ⟨hdeclared, hunique⟩ := FieldDeclaration.isTarget_iff.1 hfield
  obtain ⟨name, hdeclares, hmeans⟩ := classify_eq_ok_iff.1 hc
  obtain ⟨harray, rfl⟩ := hdeclares.unique (declaredType_eq_ok_iff.1 hdeclared)
  refine ⟨?_, harray, fun hne => ?_, fun howns => ?_⟩
  · rw [← hasKind_eq_isSome_firstNamed hmarks] at hunique
    exact hunique
  · obtain ⟨htype, htarget⟩ := hmeans.unique (.scalar scalar hne)
    rcases applyRef_eq_ok_iff.1 happly with ⟨-, rfl, rfl⟩ | ⟨_, _, _, _, -, hsome, -⟩
    · exact ⟨htype, by rw [htarget]; rfl⟩
    · rw [htarget] at hsome
      cases hsome
  · rw [howns] at hmeans
    obtain ⟨htype, htarget⟩ := hmeans.unique .own
    rcases applyRef_eq_ok_iff.1 happly with ⟨-, rfl, rfl⟩ | ⟨_, column, _, _, -, hsome, -, -, rfl⟩
    · exact ⟨none, by rw [htarget]; rfl, fun _ => htype⟩
    · rw [htarget] at hsome
      cases hsome
      exact ⟨some column, rfl, by simp⟩

/-! ### References in a schema -/

/-- What a reference of a column leads to in a schema. -/
theorem reference_leads_to_target {sources : List Source} {schema : Schema} (h : analyze sources = .ok schema)
    {table : Table} (ht : table ∈ schema.tables) {column : Column} (hc : column ∈ table.columns)
    {target name : String} (href : column.reference = some ⟨target, some name⟩) :
    ∃ found scalar t, schema.table? target = some t ∧ t.columns.find? (·.name = nameOf name) = some found ∧
      (t.column? name = if name = placeholder then none else some found) ∧
      column.type = .scalar scalar ∧ found.IsTarget target scalar := by
  obtain ⟨documents, -, -, hresolves⟩ := analyze_eq_ok_iff.1 h
  obtain ⟨declaration, -, htable⟩ := exists_of_forall₂_of_mem hresolves.tables ht
  obtain ⟨-, -, hcolumns⟩ := resolveTable_eq_ok_iff.1 htable
  obtain ⟨field, -, hcolumn⟩ := exists_of_forall₂_of_mem (resolveFields_forall₂ hcolumns) hc
  obtain ⟨directive, scalar, hcheck, htype⟩ := referencedType_of_reference hcolumn href
  -- The check found a field of a declared table; both have their counterparts in the schema.
  obtain ⟨targetDeclaration, hdeclaration, targetField, hfield, his⟩ := referencedType_eq_ok_iff.1 hcheck
  obtain ⟨t, hfindTable, hresolve⟩ := hresolves.table?_eq_some hdeclaration
  obtain ⟨-, -, hfields⟩ := resolveTable_eq_ok_iff.1 hresolve
  obtain ⟨found, hfindColumn, hfound⟩ := find?_columns_eq_some hfields hfield
  refine ⟨found, scalar, t, hfindTable, hfindColumn, ?_, htype, ?_⟩
  · rw [column?_eq hresolve, hfindColumn]
  · rw [← (Catalog.table?_eq_some hdeclaration).2]
    exact his.resolves hfound

/-- A reference across documents, to a table that is declared behind it. -/
theorem reference_leads_to_target_across_documents :
    ∃ sources schema, analyze sources = .ok schema ∧
      ∃ table ∈ schema.tables, ∃ column ∈ table.columns, column.reference = some ⟨"A", some "id"⟩ ∧
        ∃ found scalar t, schema.table? "A" = some t ∧ t.columns.find? (·.name = nameOf "id") = some found ∧
          (t.column? "id" = if "id" = placeholder then none else some found) ∧
          column.type = .scalar scalar ∧ found.IsTarget "A" scalar := by
  let sources : List Source :=
    [.numbered 1 "type B \x7b a: [A] @ref(column: \"id\") \x7d", .numbered 2 "type A \x7b id: i32 @unique \x7d"]
  let column : Column := ⟨some "a", none, true, .scalar .i32, false, false, some ⟨"A", some "id"⟩, none, none⟩
  let target : Column := ⟨some "id", none, false, .scalar .i32, true, false, none, none, none⟩
  have h : analyze sources = .ok ⟨[⟨"B", [], [column]⟩, ⟨"A", [], [target]⟩], []⟩ := by decide +kernel
  exact ⟨sources, _, h, ⟨"B", [], [column]⟩, .head _, column, .head _, rfl,
    reference_leads_to_target h (.head _) (.head _) rfl⟩

/-- Whoever follows a reference to a column finds a unique scalar, of the type of the column with the reference. -/
def Schema.ReferencesSound (schema : Schema) : Prop :=
  ∀ table ∈ schema.tables, ∀ column ∈ table.columns, ∀ target name, column.reference = some ⟨target, some name⟩ →
    ∃ t found scalar, schema.table? target = some t ∧ t.column? name = some found ∧ found.unique = true ∧
      found.array = false ∧ found.reference = none ∧ found.type = .scalar scalar ∧ column.type = found.type

/-- A reference to a placeholder finds nothing, and one into a table with the name of a scalar finds a row of it. -/
theorem references_not_sound :
    (∃ schema, analyze [.numbered 1 "type A \x7b _: i32 @unique b: A @ref(column: \"_\") \x7d"] = .ok schema ∧
        ¬ schema.ReferencesSound) ∧
      ∃ schema, analyze [.numbered 1 "type i32 \x7b x: i32 @unique y: i32 @ref(column: \"x\") \x7d"] = .ok schema ∧
        ¬ schema.ReferencesSound := by
  constructor
  · let unnamed : Column := ⟨none, none, false, .scalar .i32, true, false, none, none, none⟩
    let b : Column := ⟨some "b", none, false, .scalar .i32, false, false, some ⟨"A", some "_"⟩, none, none⟩
    refine ⟨⟨[⟨"A", [], [unnamed, b]⟩], []⟩, by decide +kernel, fun hsound => ?_⟩
    obtain ⟨t, found, scalar, htable, hcolumn, -⟩ := hsound _ (.head _) b (.tail _ (.head _)) "A" "_" rfl
    cases htable
    cases hcolumn
  · let x : Column := ⟨some "x", none, false, .row, true, false, some ⟨"i32", none⟩, none, none⟩
    let y : Column := ⟨some "y", none, false, .scalar .i32, false, false, some ⟨"i32", some "x"⟩, none, none⟩
    refine ⟨⟨[⟨"i32", [], [x, y]⟩], []⟩, by decide +kernel, fun hsound => ?_⟩
    obtain ⟨t, found, scalar, htable, hcolumn, -, -, hreference, -⟩ :=
      hsound _ (.head _) y (.tail _ (.head _)) "i32" "x" rfl
    cases htable
    cases hcolumn
    cases hreference

end TableSchema
