import TableSchema.Syntax.Source

/-!
# Schema documents

The definitions of a document as far as tables and enumerations need them.  Every node knows the offset at which it
starts in its source, and a document holds that source once for all its nodes.

Types and enumerations are kept whole.  Any other definition is only recognised: its kind, name and extent are kept.
Of the value of an argument the items of a list are kept, but not what is inside an item or an object.
-/

namespace TableSchema.Syntax

/-- A name and where it starts. -/
structure Name where
  start : Nat
  text : String
deriving DecidableEq, Inhabited

/-- The values that no directive takes. -/
inductive OtherValue
  | float
  | boolean
  | null
  | enumerator
  | list
  | object
  | variableUse
deriving DecidableEq

/-- A value without its inside.  An integer is kept as it is spelled. -/
inductive Literal
  | string (start : Nat) (text : String)
  | int (start : Nat) (digits : String)
  | other (start : Nat) (kind : OtherValue)
deriving DecidableEq

/-- The value of an argument: a list of values, or a single one. -/
inductive Value
  | literal (value : Literal)
  | list (start : Nat) (items : List Literal)
deriving DecidableEq

/-- A named argument. -/
structure Argument where
  name : Name
  value : Value
deriving DecidableEq

/-- A directive, which starts at its `@`. -/
structure Directive where
  start : Nat
  name : Name
  arguments : List Argument
deriving DecidableEq

/-- The declared type of a field. -/
inductive TypeExpr
  | named (start : Nat) (name : String)
  | list (start : Nat) (item : TypeExpr)
  | nonNull (inner : TypeExpr)
deriving DecidableEq

/-- The argument of a field, or the field of an input type. -/
structure InputValue where
  start : Nat
  description : Option String
  name : Name
  type : TypeExpr
  default : Option Value
  directives : List Directive
deriving DecidableEq

/-- The declaration of a field.  It starts at its description, if it has one. -/
structure FieldDeclaration where
  start : Nat
  description : Option String
  name : Name
  arguments : List InputValue
  type : TypeExpr
  directives : List Directive
deriving DecidableEq

/-- The declaration of a table. -/
structure TableDeclaration where
  start : Nat
  stop : Nat
  description : Option String
  name : Name
  interfaces : List Name
  directives : List Directive
  fields : List FieldDeclaration
deriving DecidableEq

/-- The declaration of an enumerator. -/
structure EnumeratorDeclaration where
  start : Nat
  description : Option String
  name : Name
  directives : List Directive
deriving DecidableEq

/-- The declaration of an enumeration. -/
structure EnumerationDeclaration where
  start : Nat
  stop : Nat
  description : Option String
  name : Name
  directives : List Directive
  values : List EnumeratorDeclaration
deriving DecidableEq

/-- What a definition can be, apart from a table or an enumeration. -/
inductive OtherDefinition
  | operation
  | fragment
  | schema
  | scalar
  | interface
  | union
  | input
  | directive
  | schemaExtension
  | scalarExtension
  | tableExtension
  | interfaceExtension
  | unionExtension
  | enumerationExtension
  | inputExtension
deriving DecidableEq

/-- A definition of a document. -/
inductive Definition
  | table (d : TableDeclaration)
  | enumeration (d : EnumerationDeclaration)
  | other (kind : OtherDefinition) (name : Option String) (start stop : Nat)
deriving DecidableEq

/-- A parsed document. -/
structure Document where
  source : Source
  definitions : List Definition
deriving DecidableEq

/-! ### Nodes -/

/-- The kinds of nodes that a report can point at. -/
inductive NodeKind
  | name
  | argument
  | directive
  | field
  | namedType
  | listType
  | nonNullType
  | string
  | int
  | list
  | value (kind : OtherValue)
  | table
  | enumeration
  | definition (kind : OtherDefinition)
deriving DecidableEq

/-- A place in a document: what stands there and where it starts. -/
structure Node where
  kind : NodeKind
  start : Nat
deriving DecidableEq

namespace OtherValue

/-- How a kind of value is called. -/
def text : OtherValue → String
  | float => "float_value"
  | boolean => "boolean_value"
  | null => "null_value"
  | enumerator => "enum_value"
  | list => "list_value"
  | object => "object_value"
  | variableUse => "variable"

end OtherValue

namespace OtherDefinition

/-- How a kind of definition is called. -/
def text : OtherDefinition → String
  | operation => "operation_definition"
  | fragment => "fragment_definition"
  | schema => "schema_definition"
  | scalar => "scalar_type_definition"
  | interface => "interface_type_definition"
  | union => "union_type_definition"
  | input => "input_object_type_definition"
  | directive => "directive_definition"
  | schemaExtension => "schema_extension"
  | scalarExtension => "scalar_type_extension"
  | tableExtension => "object_type_extension"
  | interfaceExtension => "interface_type_extension"
  | unionExtension => "union_type_extension"
  | enumerationExtension => "enum_type_extension"
  | inputExtension => "input_object_type_extension"

end OtherDefinition

/-- How a kind of node is called. -/
def NodeKind.text : NodeKind → String
  | name => "name"
  | argument => "argument"
  | directive => "directive"
  | field => "field_definition"
  | namedType => "named_type"
  | listType => "list_type"
  | nonNullType => "non_null_type"
  | string => "string_value"
  | int => "int_value"
  | list => "list_value"
  | value kind => kind.text
  | table => "object_type_definition"
  | enumeration => "enum_type_definition"
  | definition kind => kind.text

/-- A name as a node. -/
def Name.node (n : Name) : Node := ⟨.name, n.start⟩

/-- A value as a node. -/
def Literal.node : Literal → Node
  | string start _ => ⟨.string, start⟩
  | int start _ => ⟨.int, start⟩
  | other start kind => ⟨.value kind, start⟩

/-- The value of an argument as a node. -/
def Value.node : Value → Node
  | literal value => value.node
  | list start _ => ⟨.list, start⟩

/-- A value as it appears inside a list, where the items of a list are lost. -/
def Value.asItem : Value → Literal
  | literal value => value
  | list start _ => .other start .list

/-- An argument as a node. -/
def Argument.node (a : Argument) : Node := ⟨.argument, a.name.start⟩

/-- A directive as a node. -/
def Directive.node (d : Directive) : Node := ⟨.directive, d.start⟩

/-- The offset at which a type starts. -/
def TypeExpr.start : TypeExpr → Nat
  | named start _ => start
  | list start _ => start
  | nonNull inner => inner.start

/-- A type as a node. -/
def TypeExpr.node (t : TypeExpr) : Node :=
  match t with
  | named .. => ⟨.namedType, t.start⟩
  | list .. => ⟨.listType, t.start⟩
  | nonNull _ => ⟨.nonNullType, t.start⟩

/-- The declaration of a field as a node. -/
def FieldDeclaration.node (f : FieldDeclaration) : Node := ⟨.field, f.start⟩

/-- The declaration of an enumeration as a node. -/
def EnumerationDeclaration.node (d : EnumerationDeclaration) : Node := ⟨.enumeration, d.start⟩

namespace Definition

/-- The name of a definition, if it has one. -/
def name? : Definition → Option String
  | table d => some d.name.text
  | enumeration d => some d.name.text
  | other _ name _ _ => name

/-- The offset at which a definition starts. -/
def start : Definition → Nat
  | table d => d.start
  | enumeration d => d.start
  | other _ _ start _ => start

/-- The offset behind the last token of a definition. -/
def stop : Definition → Nat
  | table d => d.stop
  | enumeration d => d.stop
  | other _ _ _ stop => stop

/-- A definition as a node. -/
def node (d : Definition) : Node :=
  match d with
  | table t => ⟨.table, t.start⟩
  | enumeration e => ⟨.enumeration, e.start⟩
  | other kind _ start _ => ⟨.definition kind, start⟩

end Definition

end TableSchema.Syntax
