import TableSchema.Catalog
import TableSchema.Model

/-!
# Types of columns

A declared type is a name or a list of a name.  `classify` finds what the name means: the enclosing table itself, a
row of any table, an item of unknown type, a scalar, another table, or an enumeration, in this order.
-/

namespace TableSchema

open Syntax

/-- The name that stands for no name, and inside a list for no type. -/
def placeholder : String := "_"

/-- The name of a row of any table. -/
def anyRow : String := "rid"

/-- A declared type: a name, possibly in a list. -/
structure DeclaredType where
  array : Bool
  name : String
deriving DecidableEq

/-- Reads a type as a name or a list of a name.  The placeholder stands in a list only. -/
def declaredType : TypeExpr → Except TypeProblem DeclaredType
  | .named start name =>
    if name = placeholder then .error (.placeholder (.named start name)) else .ok ⟨false, name⟩
  | .list _ (.named _ name) => .ok ⟨true, name⟩
  | type => .error (.malformed type)

/-- The type of a column, and the table or enumeration that it refers to. -/
structure Classification where
  array : Bool
  type : ColumnType
  target : Option String
deriving DecidableEq

/-- What a name means as a type inside a table. -/
def meaning? (catalog : Catalog) (table name : String) : Option (ColumnType × Option String) :=
  if name = table then some (.row, some table)
  else if name = anyRow then some (.foreignRow, none)
  else if name = placeholder then some (.array, none)
  else if let some scalar := Scalar.ofName? name then some (.scalar scalar, none)
  else if (catalog.table? name).isSome then some (.foreignRow, some name)
  else if (catalog.enumeration? name).isSome then some (.enumRow, some name)
  else none

/-- Classifies a declared type inside a table. -/
def classify (catalog : Catalog) (table : String) (type : TypeExpr) : Except Problem Classification :=
  match declaredType type with
  | .error problem => .error (.declaredType problem)
  | .ok declared =>
    match meaning? catalog table declared.name with
    | some (columnType, target) => .ok ⟨declared.array, columnType, target⟩
    | none => .error (.unresolvedType type declared.name)

end TableSchema
