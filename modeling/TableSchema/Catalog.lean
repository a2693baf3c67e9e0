import TableSchema.Problem
import TableSchema.Text.Quoted

/-!
# The catalog of declarations

Every table and every enumeration that was declared, in order and by name.  Tables and enumerations have name spaces
of their own.  Registering goes definition by definition and stops at the first one that is neither or whose name is
taken; what was registered before it stays.
-/

namespace TableSchema

open Syntax

/-- Something declared in a source. -/
structure Sourced (α : Type) where
  source : Source
  value : α
deriving DecidableEq

/-- The declared tables and enumerations. -/
structure Catalog where
  tables : List (Sourced TableDeclaration)
  enumerations : List (Sourced EnumerationDeclaration)
deriving DecidableEq

/-- The definitions of a document, each with its source. -/
def definitionsOf (d : Document) : List (Sourced Definition) :=
  d.definitions.map (⟨d.source, ·⟩)

namespace Catalog

/-- A catalog without declarations. -/
def empty : Catalog := ⟨[], []⟩

/-- The first table with a name. -/
def table? (c : Catalog) (name : String) : Option (Sourced TableDeclaration) :=
  c.tables.find? (·.value.name.text = name)

/-- The first enumeration with a name. -/
def enumeration? (c : Catalog) (name : String) : Option (Sourced EnumerationDeclaration) :=
  c.enumerations.find? (·.value.name.text = name)

/-- The names of the tables in order. -/
def tableNames (c : Catalog) : List String :=
  c.tables.map (·.value.name.text)

/-- The names of the enumerations in order. -/
def enumerationNames (c : Catalog) : List String :=
  c.enumerations.map (·.value.name.text)

/-- Adds a definition behind the others.  A name that is taken keeps its first meaning. -/
def register (c : Catalog) (d : Sourced Definition) : Except Problem Catalog :=
  match d.value with
  | .table t =>
    if t.name.text ∈ c.tableNames then .error (.duplicateTable t.name)
    else .ok { c with tables := c.tables ++ [⟨d.source, t⟩] }
  | .enumeration e =>
    if e.name.text ∈ c.enumerationNames then .error (.duplicateEnumeration e.name)
    else .ok { c with enumerations := c.enumerations ++ [⟨d.source, e⟩] }
  | .other .. => .error (.unsupportedDefinition d.value)

/-- Adds definitions up to the first that cannot be added, and gives the problem with it. -/
def registerAll (c : Catalog) : List (Sourced Definition) → Catalog × Option (Sourced Problem)
  | [] => (c, none)
  | d :: rest =>
    match c.register d with
    | .error problem => (c, some ⟨d.source, problem⟩)
    | .ok c => c.registerAll rest

/-- Adds the definitions of a document. -/
def add (c : Catalog) (d : Document) : Catalog × Option (Sourced Problem) :=
  c.registerAll (definitionsOf d)

/-- The names in a catalog as a text. -/
def summary (c : Catalog) : String :=
  "SymbolTable(tables=" ++ Text.quotedList c.tableNames ++ ", enumerations="
    ++ Text.quotedList c.enumerationNames ++ ")"

end Catalog

end TableSchema
