import TableSchema.Proofs.Extracts
import TableSchema.Proofs.Shape
import TableSchema.Proofs.Spans

/-!
# What a column shows

A column shows its type, in brackets if it is an array, and its reference: the table, with the column behind a dot if
there is one.  Both texts can be read back.  A type can whatever the column is.  For a reference it takes that tables
and enumerations are called by names, which the parser guarantees (`isName_of_mem_schema`): a name is never empty, as
the text of no reference is, and it holds no dot, so that the first dot is the one in front of the column.  What stands
behind this dot may be any text.

Main statement: columns that show the same type have the same type, and columns that show the same reference have the
same reference, also if they come from different schemas (`shown_texts_faithful`).
-/

namespace TableSchema

open Syntax Analysis

/-! ### Types -/

/-- No type has a bracket in front, so a bracket tells of an array. -/
theorem ColumnType.head?_text_ne (type : ColumnType) : type.text.toList.head? ≠ some '[' := by
  cases type with
  | scalar s => cases s <;> decide
  | _ => decide

/-- Whether a column that shows a text for its type is an array, and its type. -/
def Column.typeOfText? (text : String) : Option (Bool × ColumnType) :=
  match text.toList with
  | '[' :: item => (true, ·) <$> ColumnType.ofText? (String.ofList item.dropLast)
  | _ => (false, ·) <$> ColumnType.ofText? text

theorem Column.typeOfText?_typeText (column : Column) :
    typeOfText? column.typeText = some (column.array, column.type) := by
  unfold typeText
  cases column.array with
  | true =>
    -- reading drops the two brackets again
    have hchars : ("[" ++ column.type.text ++ "]").toList = '[' :: (column.type.text.toList ++ [']']) := by
      simp [String.toList_append]
    rw [if_pos rfl, typeOfText?, hchars]
    show (true, ·) <$> ColumnType.ofText? (String.ofList (column.type.text.toList ++ [']']).dropLast) = _
    rw [List.dropLast_concat, String.ofList_toList, ColumnType.ofText?_text]
    rfl
  | false =>
    rw [if_neg Bool.false_ne_true, typeOfText?]
    split
    · rename_i item hitem
      have hhead : column.type.text.toList.head? = some '[' := by
        rw [hitem]
        rfl
      exact absurd hhead column.type.head?_text_ne
    · rw [ColumnType.ofText?_text]
      rfl

/-! ### References -/

/-- The reference of a column that shows a text for it. -/
def Column.referenceOfText (text : String) : Option Reference :=
  if text = "" then none
  else match text.toList.dropWhile (· ≠ '.') with
    | [] => some ⟨text, none⟩
    | _ :: column => some ⟨String.ofList (text.toList.takeWhile (· ≠ '.')), some (String.ofList column)⟩

theorem Syntax.IsName.dot_notMem {name : String} (h : IsName name) : '.' ∉ name.toList :=
  fun hdot => absurd (h.forall_isNameContinue '.' hdot) (by decide)

theorem Syntax.IsName.ne_empty {name : String} (h : IsName name) : name ≠ "" := by
  rintro rfl
  exact h.toList_ne_nil rfl

theorem Column.referenceOfText_table {table : String} (h : IsName table) :
    referenceOfText table = some ⟨table, none⟩ := by
  have hnone : table.toList.dropWhile (· ≠ '.') = [] :=
    List.dropWhile_eq_nil_iff.2 fun c hc => decide_eq_true fun heq => h.dot_notMem (heq ▸ hc)
  rw [referenceOfText, if_neg h.ne_empty, hnone]

theorem Column.referenceOfText_column {table : String} (h : IsName table) (column : String) :
    referenceOfText (table ++ "." ++ column) = some ⟨table, some column⟩ := by
  have hchars : (table ++ "." ++ column).toList = table.toList ++ '.' :: column.toList := by
    simp [String.toList_append]
  have hne : table ++ "." ++ column ≠ "" := by
    intro hempty
    rw [hempty] at hchars
    simp at hchars
  obtain ⟨htable, hcolumn⟩ := Extract.takeWhile_ne_append h.dot_notMem column.toList
  rw [referenceOfText, if_neg hne, hchars, htable, hcolumn]
  dsimp only
  rw [String.ofList_toList, String.ofList_toList]

/-- A reference to what is called by a name is read back. -/
theorem Column.referenceOfText_referenceText {column : Column}
    (h : ∀ reference, column.reference = some reference → IsName reference.table) :
    referenceOfText column.referenceText = column.reference := by
  unfold referenceText
  cases hreference : column.reference with
  | none => rfl
  | some reference =>
    obtain ⟨table, target⟩ := reference
    have hname : IsName table := h _ hreference
    cases target with
    | none => exact referenceOfText_table hname
    | some target => exact referenceOfText_column hname target

-- only the first dot divides the text, so that a dot in the column does no harm
example : Column.referenceOfText "Items.a.b" = some ⟨"Items", some "a.b"⟩ := by decide

/-! ### Names in a schema -/

section Names

variable {sources : List Source} {schema : Schema}

/-- Tables and enumerations of parsed documents are called by names. -/
theorem exists_name_of_mem_definitions {documents : List Document} (hparse : sources.mapM parse = .ok documents)
    (hkinds : ∀ d ∈ documents.flatMap (·.definitions), (∃ t, d = .table t) ∨ ∃ e, d = .enumeration e)
    {d : Definition} (hd : d ∈ documents.flatMap (·.definitions)) : ∃ name, d.name? = some name ∧ IsName name := by
  obtain ⟨document, hdocument, hmem⟩ := List.mem_flatMap.1 hd
  obtain ⟨source, -, hsource⟩ := exists_of_forall₂_of_mem (mapM_eq_ok_iff.1 hparse) hdocument
  exact names_of_parse hsource (fun d hd => hkinds d (List.mem_flatMap.2 ⟨document, hdocument, hd⟩)) d hmem

/-- The tables and enumerations of a schema are called by names. -/
theorem isName_of_mem_schema (h : analyze sources = .ok schema) :
    (∀ table ∈ schema.tables, IsName table.name) ∧ ∀ e ∈ schema.enumerations, IsName e.name := by
  obtain ⟨documents, hparse, hwell, hresolves⟩ := analyze_eq_ok_iff.1 h
  constructor
  · intro table htable
    have hdeclared := hresolves.mem_tableNames_iff.2 ⟨table, htable, rfl⟩
    obtain ⟨t, ht, hname⟩ := mem_tableNames_declared.1 hdeclared
    rw [map_value_flatMap_definitionsOf] at ht
    obtain ⟨name, hgiven, his⟩ := exists_name_of_mem_definitions hparse hwell.declarations ht
    cases hgiven
    rwa [← hname]
  · intro enumeration henumeration
    have hdeclared := hresolves.mem_enumerationNames_iff.2 ⟨enumeration, henumeration, rfl⟩
    obtain ⟨e, he, hname⟩ := mem_enumerationNames_declared.1 hdeclared
    rw [map_value_flatMap_definitionsOf] at he
    obtain ⟨name, hgiven, his⟩ := exists_name_of_mem_definitions hparse hwell.declarations he
    cases hgiven
    rwa [← hname]

/-- What a column of a schema refers to is called by a name. -/
theorem isName_of_reference (h : analyze sources = .ok schema) {table : Table} (ht : table ∈ schema.tables)
    {column : Column} (hc : column ∈ table.columns) {reference : Reference}
    (hreference : column.reference = some reference) : IsName reference.table := by
  obtain ⟨documents, -, -, hresolves⟩ := analyze_eq_ok_iff.1 h
  obtain ⟨field, hcolumn⟩ := hresolves.exists_field ht hc
  have hshape := hasShape_of_resolveColumn hresolves hcolumn
  obtain ⟨htables, henumerations⟩ := isName_of_mem_schema h
  rcases hshape.names_declared ht hreference with ⟨other, hother, heq⟩ | ⟨e, he, heq⟩
  · rw [← heq]
    exact htables other hother
  · rw [← heq]
    exact henumerations e he

end Names

/-! ### Columns of two schemas -/

/-- Columns of any two schemas that show the same type are of the same type, and both are arrays or neither is; and if
they show the same reference, they have the same reference. -/
theorem shown_texts_faithful {sources sources' : List Source} {schema schema' : Schema}
    (h : analyze sources = .ok schema) (h' : analyze sources' = .ok schema') {table table' : Table}
    (ht : table ∈ schema.tables) (ht' : table' ∈ schema'.tables) {column column' : Column}
    (hc : column ∈ table.columns) (hc' : column' ∈ table'.columns) :
    (column.typeText = column'.typeText → column.array = column'.array ∧ column.type = column'.type) ∧
      (column.referenceText = column'.referenceText → column.reference = column'.reference) := by
  constructor
  · intro htext
    have hread := congrArg Column.typeOfText? htext
    rw [Column.typeOfText?_typeText, Column.typeOfText?_typeText, Option.some.injEq, Prod.mk.injEq] at hread
    exact hread
  · intro htext
    have hread := Column.referenceOfText_referenceText fun _ => isName_of_reference h ht hc
    have hread' := Column.referenceOfText_referenceText fun _ => isName_of_reference h' ht' hc'
    calc column.reference
        = Column.referenceOfText column.referenceText := hread.symm
      _ = Column.referenceOfText column'.referenceText := by rw [htext]
      _ = column'.reference := hread'

/-- Columns of two schemas that show the same: one refers to another table, and one to its own. -/
theorem shown_texts_faithful_across_schemas :
    ∃ sources sources' schema schema', analyze sources = .ok schema ∧ analyze sources' = .ok schema' ∧
      ∃ table ∈ schema.tables, ∃ table' ∈ schema'.tables, ∃ column ∈ table.columns, ∃ column' ∈ table'.columns,
        column ≠ column' ∧ column.typeText = "[i32]" ∧ column'.typeText = "[i32]" ∧
          column.referenceText = "A.id" ∧ column'.referenceText = "A.id" ∧
          (column.array = column'.array ∧ column.type = column'.type) ∧ column.reference = column'.reference := by
  let sources : List Source :=
    [.numbered 1 "type B \x7b a: [A] @ref(column: \"id\") \x7d", .numbered 2 "type A \x7b id: i32 @unique \x7d"]
  let sources' : List Source := [.numbered 1 "type A \x7b id: i32 @unique others: [A] @ref(column: \"id\") \x7d"]
  let id : Column := ⟨some "id", none, false, .scalar .i32, true, false, none, none, none⟩
  let a : Column := ⟨some "a", none, true, .scalar .i32, false, false, some ⟨"A", some "id"⟩, none, none⟩
  let others : Column := ⟨some "others", none, true, .scalar .i32, false, false, some ⟨"A", some "id"⟩, none, none⟩
  have h : analyze sources = .ok ⟨[⟨"B", [], [a]⟩, ⟨"A", [], [id]⟩], []⟩ := by decide +kernel
  have h' : analyze sources' = .ok ⟨[⟨"A", [], [id, others]⟩], []⟩ := by decide +kernel
  obtain ⟨htype, hreference⟩ :=
    shown_texts_faithful h h' (.head _) (.head _) (.head _) (.tail _ (.head _) : others ∈ [id, others])
  exact ⟨sources, sources', _, _, h, h', _, .head _, _, .head _, a, .head _, others, .tail _ (.head _), by decide,
    by decide, by decide, by decide, by decide, htype (by decide), hreference (by decide)⟩

end TableSchema
