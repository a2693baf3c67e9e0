import TableSchema.Syntax.Document
import TableSchema.Text.Quoted

/-!
# What can be wrong with a schema

Every reason to refuse a well-formed document, with the nodes that show it.  `Problem.kind`, `Problem.message` and
`Problem.nodes` say how it is reported.  A `Fault` is such a problem, or one of the two things that break the work off
and are not reported.
-/

namespace TableSchema

open Syntax

/-- The kinds of problems, as they are reported. -/
inductive ProblemKind
  | malformedSyntax
  | unsupportedDefinition
  | duplicateDefinition
  | unknownDirective
  | unknownArgument
  | duplicateArgument
  | missingArgument
  | invalidArgument
  | emptyList
  | invalidType
  | placeholderType
  | unresolvedType
  | duplicateColumn
  | columnNotFound
  | columnInvalid
  | columnArray
  | columnNotUnique
  | columnNotScalar
  | missingIndexing
  | duplicateEnumerator
deriving DecidableEq

/-- How a kind of problem is called. -/
def ProblemKind.text : ProblemKind → String
  | malformedSyntax => "syntax"
  | unsupportedDefinition => "unsupported_definition"
  | duplicateDefinition => "duplicate_definition"
  | unknownDirective => "unknown_directive"
  | unknownArgument => "unknown_argument"
  | duplicateArgument => "duplicate_argument"
  | missingArgument => "missing_argument"
  | invalidArgument => "invalid_argument"
  | emptyList => "empty_list"
  | invalidType => "invalid_type"
  | placeholderType => "placeholder_type"
  | unresolvedType => "unresolved_type"
  | duplicateColumn => "duplicate_column"
  | columnNotFound => "referenced_column_not_found"
  | columnInvalid => "referenced_column_invalid"
  | columnArray => "referenced_column_array"
  | columnNotUnique => "referenced_column_not_unique"
  | columnNotScalar => "referenced_column_not_scalar"
  | missingIndexing => "missing_indexing"
  | duplicateEnumerator => "duplicate_enumerator"

/-- A declared type that is not a name or a list of a name, or a bare placeholder. -/
inductive TypeProblem
  | malformed (type : TypeExpr)
  | placeholder (type : TypeExpr)
deriving DecidableEq

/-- Why a column cannot be the target of a reference. -/
inductive TargetProblem
  | declaredType (problem : TypeProblem)
  | array (type : TypeExpr)
  | notUnique (field : FieldDeclaration)
  | notScalar (type : TypeExpr)
deriving DecidableEq

/-- What an argument should have been. -/
inductive Expectation
  | string
  | extensions
  | tags
  | indexBase
deriving DecidableEq

/-- What a directive says when its argument is missing. -/
inductive Parameter
  | referencedColumn
  | extension
  | extensions
  | indexBase
  | tags
deriving DecidableEq

/-- A reason to refuse a document.  The source of an invalid target is kept, as it can be another one. -/
inductive Problem
  | unsupportedDefinition (definition : Definition)
  | duplicateTable (name : Name)
  | duplicateEnumeration (name : Name)
  | unknownDirective (name : Name)
  | argumentsRefused (first : Argument) (others : List Argument)
  | missingArgument (directive : Directive) (parameter : Parameter)
  | unknownArgument (name : Name)
  | duplicateArgument (name : Name)
  | unexpectedValue (node : Node) (expected : Expectation)
  | noTags (node : Node)
  | declaredType (problem : TypeProblem)
  | unresolvedType (type : TypeExpr) (name : String)
  | duplicateColumn (name : Name)
  | columnNotFound (directive : Directive) (table column : String)
  | invalidTarget (directive : Directive) (source : Source) (cause : TargetProblem)
  | missingIndexing (enumeration : EnumerationDeclaration)
  | duplicateEnumerator (name : Name)
deriving DecidableEq

/-- How a type problem is reported. -/
def TypeProblem.kind : TypeProblem → ProblemKind
  | malformed _ => .invalidType
  | placeholder _ => .placeholderType

/-- The message of a type problem. -/
def TypeProblem.message : TypeProblem → String
  | malformed _ => "Valid type expected."
  | placeholder _ => "Unknown type is only allowed inside an array."

/-- The type that a type problem is about. -/
def TypeProblem.node : TypeProblem → Node
  | malformed type => type.node
  | placeholder type => type.node

namespace TargetProblem

/-- How a problem with a target is reported. -/
def kind : TargetProblem → ProblemKind
  | declaredType problem => problem.kind
  | array _ => .columnArray
  | notUnique _ => .columnNotUnique
  | notScalar _ => .columnNotScalar

/-- The message of a problem with a target. -/
def message : TargetProblem → String
  | declaredType problem => problem.message
  | array _ => "Cannot refer to a column with an array type."
  | notUnique _ => "Values in the referenced column must be unique."
  | notScalar _ => "Cannot refer to a column with a non-scalar type."

/-- The declared type of the target, or the whole field when it is not unique. -/
def node : TargetProblem → Node
  | declaredType problem => problem.node
  | array type => type.node
  | notUnique field => field.node
  | notScalar type => type.node

end TargetProblem

/-- The message about a value that is not what it should be. -/
def Expectation.message : Expectation → String
  | string => "String expected."
  | extensions => "List of extensions expected."
  | tags => "List of tags expected."
  | indexBase => "Integer 0 or 1 expected."

/-- The message about a missing argument. -/
def Parameter.message : Parameter → String
  | referencedColumn => "Missing referenced column name."
  | extension => "Missing file extension."
  | extensions => "Missing file extensions."
  | indexBase => "Missing first enumerator index."
  | tags => "Missing list of tags."

namespace Problem

/-- How a problem is reported. -/
def kind : Problem → ProblemKind
  | unsupportedDefinition _ => .unsupportedDefinition
  | duplicateTable _ => .duplicateDefinition
  | duplicateEnumeration _ => .duplicateDefinition
  | unknownDirective _ => .unknownDirective
  | argumentsRefused .. => .unknownArgument
  | missingArgument .. => .missingArgument
  | unknownArgument _ => .unknownArgument
  | duplicateArgument _ => .duplicateArgument
  | unexpectedValue .. => .invalidArgument
  | noTags _ => .emptyList
  | declaredType problem => problem.kind
  | unresolvedType .. => .unresolvedType
  | duplicateColumn _ => .duplicateColumn
  | columnNotFound .. => .columnNotFound
  | invalidTarget .. => .columnInvalid
  | missingIndexing _ => .missingIndexing
  | duplicateEnumerator _ => .duplicateEnumerator

/-- The message of a problem. -/
def message : Problem → String
  | unsupportedDefinition _ => "Unsupported definition."
  | duplicateTable _ => "Table with this name has already been defined."
  | duplicateEnumeration _ => "Enum with this name has already been defined."
  | unknownDirective name => s!"Unknown directive \"{name.text}\"."
  | argumentsRefused .. => "Directive doesn't accept arguments."
  | missingArgument _ parameter => parameter.message
  | unknownArgument name => s!"Unknown argument \"{name.text}\"."
  | duplicateArgument name => s!"Duplicate argument \"{name.text}\"."
  | unexpectedValue _ expected => expected.message
  | noTags _ => "At least one tag should be in the list."
  | declaredType problem => problem.message
  | unresolvedType _ name => s!"Can't find referenced table/enum \"{name}\"."
  | duplicateColumn name => s!"Duplicate column name \"{name.text}\"."
  | columnNotFound _ table column => s!"Can't find column \"{column}\" in table \"{table}\"."
  | invalidTarget .. => "An error occurred while validating the referenced column."
  | missingIndexing _ => "`indexing` directive is required for enums."
  | duplicateEnumerator name => s!"Duplicate enumerator \"{name.text}\"."

/-- The nodes that show a problem: one, except that refused arguments are all shown. -/
def nodes : Problem → List Node
  | unsupportedDefinition definition => [definition.node]
  | duplicateTable name => [name.node]
  | duplicateEnumeration name => [name.node]
  | unknownDirective name => [name.node]
  | argumentsRefused first others => first.node :: others.map Argument.node
  | missingArgument directive _ => [directive.node]
  | unknownArgument name => [name.node]
  | duplicateArgument name => [name.node]
  | unexpectedValue node _ => [node]
  | noTags node => [node]
  | declaredType problem => [problem.node]
  | unresolvedType type _ => [type.node]
  | duplicateColumn name => [name.node]
  | columnNotFound directive _ _ => [directive.node]
  | invalidTarget directive _ _ => [directive.node]
  | missingIndexing enumeration => [enumeration.node]
  | duplicateEnumerator name => [name.node]

end Problem

/-! ### Faults -/

/-- Why a declaration does not resolve: a problem of the author, or something that is not reported as one.  That is a
reference on a field whose type names no table and no enumeration, or an integer with too many digits to be read. -/
inductive Fault
  | problem (p : Problem)
  | refWithoutTable (field : String)
  | integerTooLong (digits : Nat)
deriving DecidableEq

/-- The message about a reference on a field without a table. -/
def refWithoutTableMessage (field : String) : String :=
  "@ref on field " ++ Text.quoted field ++ " without a referenced table"

end TableSchema
