import TableSchema.Model
import TableSchema.Text.Json

/-!
# Schemas as JSON

Every part of the model as a JSON object with its members in a fixed order.  A reference without a column has no
member for it; every other missing value is null.
-/

namespace TableSchema

open Text (Json)

/-- A list of texts. -/
def jsonTexts (texts : List String) : Json :=
  .array (texts.map .string)

/-- A reference as JSON. -/
def Reference.toJson (r : Reference) : Json :=
  .object <| ("table", .string r.table) :: (r.column.map fun name => ("column", Json.string name)).toList

/-- A column as JSON.  The member `until` is reserved and always null. -/
def Column.toJson (c : Column) : Json :=
  .object [
    ("name", .ofOption c.name),
    ("description", .ofOption c.description),
    ("array", .bool c.array),
    ("type", .string c.type.text),
    ("unique", .bool c.unique),
    ("localized", .bool c.localized),
    ("references", (c.reference.map Reference.toJson).getD .null),
    ("until", .null),
    ("file", .ofOption c.file),
    ("files", (c.files.map jsonTexts).getD .null)]

/-- A table as JSON. -/
def Table.toJson (t : Table) : Json :=
  .object [
    ("name", .string t.name),
    ("tags", jsonTexts t.tags),
    ("columns", .array (t.columns.map Column.toJson))]

/-- An enumeration as JSON. -/
def Enumeration.toJson (e : Enumeration) : Json :=
  .object [
    ("name", .string e.name),
    ("indexing", .number e.indexing),
    ("enumerators", .array (e.enumerators.map .ofOption))]

/-- A schema as JSON. -/
def Schema.toJson (s : Schema) : Json :=
  .object [
    ("tables", .array (s.tables.map Table.toJson)),
    ("enumerations", .array (s.enumerations.map Enumeration.toJson))]

/-- The JSON text of a schema, on one line or with an indent per level. -/
def Schema.exportText (s : Schema) (indent : Option Nat) : String :=
  s.toJson.render indent

/-- The indent of an exported file. -/
def Schema.defaultIndent : Option Nat := some 2

end TableSchema
