import TableSchema.Proofs.Arrangement
import TableSchema.Proofs.Export

/-!
# A schema mirrors its declarations

What a schema says apart from types and references is written in the declarations, and a reader of them can tell it
without the catalog: which tables, columns and enumerations there are, in which order, and what the directives of each
say.  `Column.Mirrors`, `Table.Mirrors` and `Schema.Mirrors` tell it from the declarations, where of several directives
of one name the first counts (`FirstSays`).

Main statement: a schema mirrors the definitions of its documents (`schema_mirrors`).
-/

namespace TableSchema

open Syntax Analysis

/-! ### The first directive of a name -/

/-- What the first directive of a kind says, if there is one. -/
inductive FirstSays {α : Type} (kind : MarkKind) (mark : α → Mark) (directives : List Directive) : Option α → Prop
  | absent (h : firstNamed kind.name directives = none) : FirstSays kind mark directives none
  | present {d : Directive} {a : α} (h : firstNamed kind.name directives = some d) (hsaid : d.Says (mark a)) :
    FirstSays kind mark directives (some a)

/-- The extension that a mark gives for a single file. -/
def Mark.extension? : Mark → Option String
  | .file extension => some extension
  | _ => none

/-- The extensions that a mark gives for a group of files. -/
def Mark.extensions? : Mark → Option (List String)
  | .files extensions => some extensions
  | _ => none

/-- The tags that a mark gives. -/
def Mark.tags? : Mark → Option (List String)
  | .tags texts => some texts
  | _ => none

/-- The number that a mark gives to the first enumerator. -/
def Mark.indexing? : Mark → Option (Fin 2)
  | .indexing first => some first
  | _ => none

section FirstSays

variable {α : Type} {kind : MarkKind} {mark : α → Mark} {site : Site} {directives : List Directive}
  {marks : List Marked}

/-- A directive of another name in front changes nothing. -/
theorem FirstSays.cons {said : Option α} (h : FirstSays kind mark directives said) {d : Directive}
    (hname : d.name.text ≠ kind.name) : FirstSays kind mark (d :: directives) said := by
  have hskip : firstNamed kind.name (d :: directives) = firstNamed kind.name directives :=
    List.find?_cons_of_neg (by simpa using hname)
  cases h with
  | absent hnone => exact .absent (hskip.trans hnone)
  | present hfirst hsaid => exact .present (hskip.trans hfirst) hsaid

/-- The first directive of a kind says one thing only. -/
theorem FirstSays.unique {said said' : Option α} (hmark : Function.Injective mark)
    (h : FirstSays kind mark directives said) (h' : FirstSays kind mark directives said') : said = said' := by
  cases h with
  | absent hnone =>
    cases h' with
    | absent => rfl
    | present hfirst' => cases hnone.symm.trans hfirst'
  | present hfirst hsaid =>
    cases h' with
    | absent hnone' => cases hfirst.symm.trans hnone'
    | present hfirst' hsaid' =>
      obtain rfl := Option.some.inj (hfirst.symm.trans hfirst')
      rw [hmark (hsaid.unique hsaid')]

/-- The first mark that has something to pick is that of the first directive with its name. -/
theorem firstSays_findSome? (pick : Mark → Option α) (hpick : ∀ m a, pick m = some a → m = mark a)
    (hkind : ∀ m, (pick m).isSome = true ↔ m.kind = kind) (h : readMarks site directives = .ok marks) :
    FirstSays kind mark directives (marks.findSome? fun a => pick a.mark) := by
  have hsaid := readMarks_eq_ok_iff.1 h
  clear h
  induction hsaid with
  | nil => exact .absent rfl
  | @cons d a directives marks hd _ ih =>
    obtain ⟨-, hsaid, -⟩ := hd
    cases hp : pick a.mark with
    | some value =>
      rw [List.findSome?_cons, hp]
      have hname : d.name.text = kind.name := by
        rw [hsaid.name, (hkind a.mark).1 (by rw [hp]; rfl)]
      have hfirst : firstNamed kind.name (d :: directives) = some d :=
        List.find?_cons_of_pos (by simpa using hname)
      exact .present hfirst (hpick _ _ hp ▸ hsaid)
    | none =>
      rw [List.findSome?_cons, hp]
      refine ih.cons fun hname => ?_
      have hsome := (hkind a.mark).2 (MarkKind.name_injective (hsaid.name.symm.trans hname))
      rw [hp] at hsome
      cases hsome

theorem firstFile_says (h : readMarks site directives = .ok marks) :
    FirstSays .file .file directives (firstFile marks) := by
  refine firstSays_findSome? Mark.extension? (fun m extension hm => ?_) (fun m => ?_) h
  · cases m <;> simp_all [Mark.extension?]
  · cases m <;> simp [Mark.extension?, Mark.kind]

theorem firstFiles_says (h : readMarks site directives = .ok marks) :
    FirstSays .files .files directives (firstFiles marks) := by
  refine firstSays_findSome? Mark.extensions? (fun m extensions hm => ?_) (fun m => ?_) h
  · cases m <;> simp_all [Mark.extensions?]
  · cases m <;> simp [Mark.extensions?, Mark.kind]

theorem firstIndexing_says (h : readMarks site directives = .ok marks) :
    FirstSays .indexing .indexing directives (firstIndexing marks) := by
  refine firstSays_findSome? Mark.indexing? (fun m first hm => ?_) (fun m => ?_) h
  · cases m <;> simp_all [Mark.indexing?]
  · cases m <;> simp [Mark.indexing?, Mark.kind]

theorem firstTags_says (h : readMarks site directives = .ok marks) :
    ∃ said, FirstSays .tags .tags directives said ∧ firstTags marks = said.getD [] := by
  refine ⟨_, firstSays_findSome? Mark.tags? (fun m tags hm => ?_) (fun m => ?_) h, rfl⟩
  · cases m <;> simp_all [Mark.tags?]
  · cases m <;> simp [Mark.tags?, Mark.kind]

end FirstSays

/-! ### Columns and tables -/

/-- A column that says what its field is declared with. -/
structure Column.Mirrors (column : Column) (field : FieldDeclaration) : Prop where
  name : column.name = if field.name.text = placeholder then none else some field.name.text
  description : column.description = field.description
  array : column.array = true ↔ ∃ start item, field.type = .list start item
  unique : column.unique = true ↔ ∃ d ∈ field.directives, d.name.text = MarkKind.unique.name
  localized : column.localized = true ↔ ∃ d ∈ field.directives, d.name.text = MarkKind.localized.name
  file : FirstSays .file .file field.directives column.file
  files : FirstSays .files .files field.directives column.files
  reserved : column.toJson.member? "until" = some .null

/-- A table whose tags and columns are those of its declaration, in order. -/
structure Table.Mirrors (table : Table) (t : TableDeclaration) : Prop where
  name : table.name = t.name.text
  tags : ∃ said, FirstSays .tags .tags t.directives said ∧ table.tags = said.getD []
  columns : List.Forall₂ Column.Mirrors table.columns t.fields

/-- A schema with the tables and the enumerations of definitions, in order. -/
structure Schema.Mirrors (schema : Schema) (definitions : List Definition) : Prop where
  tables : List.Forall₂ Table.Mirrors schema.tables (tableDeclarations definitions)
  enumerations : List.Forall₂ (fun enumeration e => enumeration.name = e.name.text) schema.enumerations
    (enumerationDeclarations definitions)

theorem Syntax.TypeExpr.Declares.array_eq_true_iff {type : TypeExpr} {array : Bool} {name : String}
    (h : type.Declares array name) : array = true ↔ ∃ start item, type = .list start item := by
  cases h with
  | single start _ => simp
  | list start inner name => simp

theorem hasKind_eq_true_iff {site : Site} {directives : List Directive} {marks : List Marked}
    (h : readMarks site directives = .ok marks) (kind : MarkKind) :
    hasKind kind marks = true ↔ ∃ d ∈ directives, d.name.text = kind.name := by
  rw [hasKind_eq_isSome_firstNamed h, isSome_firstNamed_iff]

section Resolution

variable {catalog : Catalog}

theorem mirrors_of_resolveColumn {table : String} {field : FieldDeclaration} {column : Column}
    (h : resolveColumn catalog table field = .ok column) : column.Mirrors field := by
  obtain ⟨marks, c, type, reference, hmarks, hc, -, rfl⟩ := resolveColumn_eq_ok_iff.1 h
  obtain ⟨name, hdeclares, -⟩ := classify_eq_ok_iff.1 hc
  exact {
    name := rfl
    description := rfl
    array := hdeclares.array_eq_true_iff
    unique := hasKind_eq_true_iff hmarks .unique
    localized := hasKind_eq_true_iff hmarks .localized
    file := firstFile_says hmarks
    files := firstFiles_says hmarks
    reserved := rfl }

theorem mirrors_of_resolveTable {t : TableDeclaration} {table : Table} (h : resolveTable catalog t = .ok table) :
    table.Mirrors t := by
  obtain ⟨hname, htags, hcolumns⟩ := resolveTable_eq_ok_iff.1 h
  obtain ⟨marks, hmarks, htags⟩ := map_eq_ok_iff.1 htags
  refine ⟨hname, htags ▸ firstTags_says hmarks, ?_⟩
  exact (resolveFields_forall₂ hcolumns).flip.imp fun _ _ hcolumn => mirrors_of_resolveColumn hcolumn

end Resolution

/-! ### Schemas -/

/-- The schema of documents mirrors their definitions, one by one and in order. -/
theorem schema_mirrors {sources : List Source} {schema : Schema} (h : analyze sources = .ok schema) :
    ∃ documents, sources.mapM parse = .ok documents ∧ schema.Mirrors (documents.flatMap (·.definitions)) := by
  obtain ⟨documents, hparse, -, hresolves⟩ := analyze_eq_ok_iff.1 h
  refine ⟨documents, hparse, ?_, ?_⟩
  · rw [← map_value_flatMap_definitionsOf, ← map_value_tables_declared, List.forall₂_map_right_iff]
    exact hresolves.tables.flip.imp fun _ _ htable => mirrors_of_resolveTable htable
  · rw [← map_value_flatMap_definitionsOf, ← map_value_enumerations_declared, List.forall₂_map_right_iff]
    exact hresolves.enumerations.flip.imp fun _ _ henumeration => name_of_resolveEnumeration henumeration

/-- An empty description, an empty list of extensions, a placeholder, and directives that come twice. -/
theorem schema_mirrors_repeated_directives :
    ∃ sources schema, analyze sources = .ok schema ∧
      ∃ documents, sources.mapM parse = .ok documents ∧ schema.Mirrors (documents.flatMap (·.definitions)) := by
  let sources : List Source := [
    .numbered 1 "type A @tags(list: [\"t\", \"s\"]) @tags(list: [\"u\"]) \x7b \"\" _: [B] @files(ext: []) \x7d",
    .numbered 2 "enum E @indexing(first: 1) type B \x7b x: E @file(ext: \"a\") @localized @file(ext: \"b\") \x7d"]
  let unnamed : Column := ⟨none, some "", true, .foreignRow, false, false, some ⟨"B", none⟩, none, some []⟩
  let x : Column := ⟨some "x", none, false, .enumRow, false, true, some ⟨"E", none⟩, some "a", none⟩
  have h : analyze sources = .ok ⟨[⟨"A", ["t", "s"], [unnamed]⟩, ⟨"B", [], [x]⟩], [⟨"E", 1, []⟩]⟩ := by decide +kernel
  exact ⟨sources, _, h, schema_mirrors h⟩

end TableSchema
