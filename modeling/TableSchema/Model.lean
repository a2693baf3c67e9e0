/-!
# The schema model

The result of an analysis: tables with their columns, and enumerations.  Lookups go by name and take the first hit;
a column or enumerator without a name is never found.
-/

namespace TableSchema

/-- The types that a declaration can name directly. -/
inductive Scalar
  | bool
  | string
  | i16
  | i32
  | f32
deriving DecidableEq

namespace Scalar

/-- How a scalar type is written. -/
def text : Scalar → String
  | bool => "bool"
  | string => "string"
  | i16 => "i16"
  | i32 => "i32"
  | f32 => "f32"

/-- Every scalar type. -/
def all : List Scalar := [bool, string, i16, i32, f32]

/-- The scalar type with a name. -/
def ofName? (name : String) : Option Scalar :=
  all.find? (·.text == name)

theorem ofName?_text (s : Scalar) : ofName? s.text = some s := by
  cases s <;> decide

theorem text_of_ofName? {name : String} {s : Scalar} (h : ofName? name = some s) : s.text = name := by
  simpa using List.find?_some h

end Scalar

/-- The type of a column: a scalar, a row of the same table, a row of another table, an enumerator, or an item of an
array of unknown type. -/
inductive ColumnType
  | scalar (s : Scalar)
  | row
  | foreignRow
  | enumRow
  | array
deriving DecidableEq

/-- How a column type is written. -/
def ColumnType.text : ColumnType → String
  | scalar s => s.text
  | row => "row"
  | foreignRow => "foreignrow"
  | enumRow => "enumrow"
  | array => "array"

/-- The column type with a name. -/
def ColumnType.ofText? (text : String) : Option ColumnType :=
  [row, foreignRow, enumRow, array].find? (·.text == text) <|> scalar <$> Scalar.ofName? text

theorem ColumnType.ofText?_text (type : ColumnType) : ofText? type.text = some type := by
  cases type with
  | scalar s => cases s <;> decide
  | _ => decide

/-- What a column refers to: a table or an enumeration, and possibly one column of a table. -/
structure Reference where
  table : String
  column : Option String
deriving DecidableEq

/-- A column of a table.  A placeholder has no name. -/
structure Column where
  name : Option String
  description : Option String
  array : Bool
  type : ColumnType
  unique : Bool
  localized : Bool
  reference : Option Reference
  file : Option String
  files : Option (List String)
deriving DecidableEq

/-- A table with its tags and its columns in order. -/
structure Table where
  name : String
  tags : List String
  columns : List Column
deriving DecidableEq

/-- An enumeration: the number of its first enumerator, 0 or 1, and the enumerators in order.  A placeholder has no
name. -/
structure Enumeration where
  name : String
  indexing : Fin 2
  enumerators : List (Option String)
deriving DecidableEq

/-- A whole schema. -/
structure Schema where
  tables : List Table
  enumerations : List Enumeration
deriving DecidableEq

/-- The first column with a name. -/
def Table.column? (t : Table) (name : String) : Option Column :=
  t.columns.find? (·.name = some name)

/-- The first table with a name. -/
def Schema.table? (s : Schema) (name : String) : Option Table :=
  s.tables.find? (·.name = name)

/-- The first enumeration with a name. -/
def Schema.enumeration? (s : Schema) (name : String) : Option Enumeration :=
  s.enumerations.find? (·.name = name)

/-- The type of a column as it is shown: in brackets if the column is an array. -/
def Column.typeText (c : Column) : String :=
  if c.array then "[" ++ c.type.text ++ "]" else c.type.text

/-- The reference of a column as it is shown: the table, with the column behind a dot if there is one. -/
def Column.referenceText (c : Column) : String :=
  match c.reference with
  | none => ""
  | some ⟨table, none⟩ => table
  | some ⟨table, some column⟩ => table ++ "." ++ column

end TableSchema
