import TableSchema.Syntax.Document
import TableSchema.Syntax.Lexer

/-!
# The grammar of schema documents

`parse` reads a source as a document.  The parser stands on a current token; going on to the next one brings up a
lexical error that lies there.  Selection sets, list and object values and list types may nest 200 levels deep; the
parsers of these take the number of levels that are left, and recurse on it.
-/

namespace TableSchema.Syntax

/-! ### Parsers -/

/-- Where a parser stands: the current token, what follows it, and the end of the last token that was consumed. -/
structure Cursor where
  current : Token
  following : List Token
  error : Option SyntaxError
  lastStop : Nat

/-- A parser moves a cursor or fails. -/
abbrev Parser (α : Type) := StateT Cursor (Except SyntaxError) α

namespace Parser

/-- The current token. -/
def current : Parser Token :=
  return (← get).current

/-- Fails at a token. -/
def failAt {α : Type} (t : Token) (fault : SyntaxFault) : Parser α :=
  throw ⟨t.start, fault⟩

/-- Fails at the current token, which cannot stand there. -/
def unexpected {α : Type} : Parser α := do
  let t ← current
  failAt t (.unexpected t.lexeme)

/-- The token after the current one.  A lexical error there fails. -/
def lookahead : Parser Token := do
  let c ← get
  match c.following, c.error with
  | t :: _, _ => return t
  | [], some e => throw e
  | [], none => return c.current

/-- Consumes the current token. -/
def advance : Parser Unit := do
  let next ← lookahead
  modify fun c => { c with current := next, following := c.following.tail, lastStop := c.current.stop }

/-- Whether the current token is a punctuator. -/
def at? (p : Punctuator) : Parser Bool :=
  return (← current).lexeme == .punctuator p

/-- Consumes a punctuator if it is there. -/
def skip? (p : Punctuator) : Parser Bool := do
  let found ← at? p
  if found then advance
  return found

/-- Consumes a punctuator, which must be there. -/
def expect (p : Punctuator) : Parser Unit := do
  unless ← skip? p do
    let t ← current
    failAt t (.expectedPunctuator p t.lexeme)

/-- Consumes a keyword if it is there. -/
def skipKeyword? (word : String) : Parser Bool := do
  let found := (← current).lexeme == .name word
  if found then advance
  return found

/-- Consumes a keyword, which must be there. -/
def expectKeyword (word : String) : Parser Unit := do
  unless ← skipKeyword? word do
    let t ← current
    failAt t (.expectedKeyword word t.lexeme)

/-- Consumes a name, which must be there. -/
def name : Parser Name := do
  let t ← current
  match t.lexeme with
  | .name text => advance; return ⟨t.start, text⟩
  | found => failAt t (.expectedName found)

/-- Whether the current token is a name. -/
def atName : Parser Bool := do
  match (← current).lexeme with
  | .name _ => return true
  | _ => return false

/-- Consumes a description if it is there. -/
def description? : Parser (Option String) := do
  match (← current).lexeme with
  | .string value => advance; return some value
  | .blockString value => advance; return some value
  | _ => return none

/-- Repeats a parser until a punctuator.  Each item consumes a token, so that the tokens left bound the repetitions. -/
def repeatUntil {α : Type} (item : Parser α) (close : Punctuator) : Nat → Parser (List α)
  | 0 => unexpected
  | budget + 1 => do
    if ← skip? close then return []
    let first ← item
    let others ← repeatUntil item close budget
    return first :: others

/-- The number of tokens from the current one on. -/
def budget : Parser Nat :=
  return (← get).following.length + 2

/-- Any number of items between two punctuators. -/
def any {α : Type} (opening : Punctuator) (item : Parser α) (close : Punctuator) : Parser (List α) := do
  expect opening
  repeatUntil item close (← budget)

/-- At least one item between two punctuators. -/
def many {α : Type} (opening : Punctuator) (item : Parser α) (close : Punctuator) : Parser (List α) := do
  expect opening
  let first ← item
  let others ← repeatUntil item close (← budget)
  return first :: others

/-- At least one item between two punctuators, or nothing if the first of them is missing. -/
def optionalMany {α : Type} (opening : Punctuator) (item : Parser α) (close : Punctuator) : Parser (List α) := do
  if ← at? opening then many opening item close else return []

/-- Items each behind a separator, as many as there are. -/
def separated {α : Type} (separator : Punctuator) (item : Parser α) : Nat → Parser (List α)
  | 0 => unexpected
  | budget + 1 => do
    if ← skip? separator then
      let first ← item
      let others ← separated separator item budget
      return first :: others
    return []

/-- At least one item, with a separator between them and possibly one in front. -/
def delimited {α : Type} (separator : Punctuator) (item : Parser α) : Parser (List α) := do
  discard <| skip? separator
  let first ← item
  let others ← separated separator item (← budget)
  return first :: others

/-! ### Values, directives and types -/

/-- The number of levels that may nest. -/
def maxDepth : Nat := 200

/-- Consumes the current token as a value that starts there. -/
def leaf (value : Nat → Literal) : Parser Value := do
  let t ← current
  advance
  return .literal (value t.start)

/-- A variable in place of a value.  A constant cannot hold one. -/
def variableValue (constant : Bool) : Parser Value := do
  let t ← current
  advance
  if constant then
    match (← current).lexeme with
    | .name text => failAt t (.variableInConstant text)
    | _ => failAt t (.unexpected t.lexeme)
  else
    discard name
    return .literal (.other t.start .variableUse)

/-- A field of an object value. -/
def objectField (value : Parser Value) : Parser Unit := do
  discard name
  expect .colon
  discard value

/-- A value in brackets or braces, whose items are read by `value`. -/
def bracketed (value : Parser Value) : Parser Value := do
  let t ← current
  if ← at? .leftBracket then
    let items ← any .leftBracket value .rightBracket
    return .list t.start (items.map Value.asItem)
  else
    discard <| any .leftBrace (objectField value) .rightBrace
    return .literal (.other t.start .object)

/-- A value that is neither a list nor an object. -/
def plainValue (constant : Bool) : Parser Value := do
  match (← current).lexeme with
  | .int digits => leaf (.int · digits)
  | .float _ => leaf (.other · .float)
  | .string text => leaf (.string · text)
  | .blockString text => leaf (.string · text)
  | .name "true" => leaf (.other · .boolean)
  | .name "false" => leaf (.other · .boolean)
  | .name "null" => leaf (.other · .null)
  | .name _ => leaf (.other · .enumerator)
  | .punctuator .dollar => variableValue constant
  | _ => unexpected

/-- Fails at the current token for lack of levels. -/
def tooDeep {α : Type} : Parser α := do
  failAt (← current) .nestedTooDeeply

/-- A value with `depth` levels left. -/
def value (constant : Bool) : Nat → Parser Value
  | 0 => do
    if (← at? .leftBracket) || (← at? .leftBrace) then tooDeep
    plainValue constant
  | depth + 1 => do
    if (← at? .leftBracket) || (← at? .leftBrace) then bracketed (value constant depth)
    else plainValue constant

/-- An argument: a name, a colon and a value. -/
def argument (constant : Bool) (depth : Nat) : Parser Argument := do
  let name ← name
  expect .colon
  return ⟨name, ← value constant depth⟩

/-- Arguments in parentheses, if there are any. -/
def arguments (constant : Bool) (depth : Nat) : Parser (List Argument) :=
  optionalMany .leftParen (argument constant depth) .rightParen

/-- A directive. -/
def directive (constant : Bool) (depth : Nat) : Parser Directive := do
  let t ← current
  expect .atSign
  let name ← name
  return ⟨t.start, name, ← arguments constant depth⟩

/-- Repeats a parser as long as a punctuator stands in front. -/
def whileAt {α : Type} (p : Punctuator) (item : Parser α) : Nat → Parser (List α)
  | 0 => unexpected
  | budget + 1 => do
    if ← at? p then
      let first ← item
      let others ← whileAt p item budget
      return first :: others
    return []

/-- Directives, as many as there are. -/
def directives (constant : Bool) (depth : Nat) : Parser (List Directive) := do
  whileAt .atSign (directive constant depth) (← budget)

/-- The directives of a definition, whose arguments are constants. -/
def constantDirectives : Parser (List Directive) :=
  directives true maxDepth

/-- A type with the exclamation mark behind it, if it is there. -/
def markedNonNull (t : TypeExpr) : Parser TypeExpr :=
  return if ← skip? .bang then .nonNull t else t

/-- A name as a type. -/
def namedType : Parser TypeExpr := do
  let n ← name
  markedNonNull (.named n.start n.text)

/-- A type with `depth` levels of lists left. -/
def typeExpr : Nat → Parser TypeExpr
  | 0 => do
    if ← skip? .leftBracket then tooDeep
    namedType
  | depth + 1 => do
    let t ← current
    if ← skip? .leftBracket then
      let item ← typeExpr depth
      expect .rightBracket
      markedNonNull (.list t.start item)
    else namedType

/-- A type. -/
def type : Parser TypeExpr :=
  typeExpr maxDepth

/-! ### Operations and fragments -/

/-- A selection of a selection set; `nested` reads a selection set below it. -/
def selection (depth : Nat) (nested : Parser Unit) : Parser Unit := do
  if ← skip? .ellipsis then
    if ← skipKeyword? "on" then
      discard name
      discard <| directives false depth
      nested
    else if ← atName then
      discard name
      discard <| directives false depth
    else
      discard <| directives false depth
      nested
  else
    discard name
    if ← skip? .colon then discard name
    discard <| arguments false depth
    discard <| directives false depth
    if ← at? .leftBrace then nested

/-- A selection set with `depth` levels left. -/
def selectionSet : Nat → Parser Unit
  | 0 => tooDeep
  | depth + 1 => discard <| many .leftBrace (selection depth (selectionSet depth)) .rightBrace

/-- Reads an optional part that a punctuator announces. -/
def after? {α : Type} (p : Punctuator) (part : Parser α) : Parser (Option α) := do
  if ← skip? p then return some (← part) else return none

/-- The definition of a variable of an operation. -/
def variableDefinition : Parser Unit := do
  discard description?
  expect .dollar
  discard name
  expect .colon
  discard type
  discard <| after? .equals (value true maxDepth)
  discard constantDirectives

/-- The kinds of operations. -/
def operationTypes : List String := ["query", "mutation", "subscription"]

/-- A kind of operation. -/
def operationType : Parser Unit := do
  let t ← current
  let n ← name
  unless n.text ∈ operationTypes do failAt t (.unexpected t.lexeme)

/-- An operation; gives its name. -/
def operation : Parser (Option String) := do
  if ← at? .leftBrace then
    selectionSet maxDepth
    return none
  discard description?
  operationType
  let n ← if ← atName then some <$> name else pure none
  discard <| optionalMany .leftParen variableDefinition .rightParen
  discard <| directives false maxDepth
  selectionSet maxDepth
  return n.map (·.text)

/-- A fragment; gives its name, which is not `on`. -/
def fragment : Parser (Option String) := do
  discard description?
  expectKeyword "fragment"
  if (← current).lexeme.text? = some "on" then unexpected
  let n ← name
  expectKeyword "on"
  discard name
  discard <| directives false maxDepth
  selectionSet maxDepth
  return some n.text

/-! ### Definitions of types -/

/-- An argument of a field or a field of an input type. -/
def inputValue : Parser InputValue := do
  let t ← current
  let description ← description?
  let name ← name
  expect .colon
  let type ← type
  let default ← after? .equals (value true maxDepth)
  return ⟨t.start, description, name, type, default, ← constantDirectives⟩

/-- A field of a table or an interface. -/
def fieldDeclaration : Parser FieldDeclaration := do
  let t ← current
  let description ← description?
  let name ← name
  let arguments ← optionalMany .leftParen inputValue .rightParen
  expect .colon
  let type ← type
  return ⟨t.start, description, name, arguments, type, ← constantDirectives⟩

/-- Fields in braces, if there are any. -/
def fields : Parser (List FieldDeclaration) :=
  optionalMany .leftBrace fieldDeclaration .rightBrace

/-- The interfaces behind `implements`, if there are any. -/
def interfaces : Parser (List Name) := do
  if ← skipKeyword? "implements" then delimited .ampersand name else return []

/-- An enumerator.  Three names are reserved, also when a string spells them. -/
def enumerator : Parser EnumeratorDeclaration := do
  let t ← current
  let description ← description?
  let found := (← current)
  if found.lexeme.text? ∈ [some "true", some "false", some "null"] then
    failAt found (.reservedValue found.lexeme)
  let name ← name
  return ⟨t.start, description, name, ← constantDirectives⟩

/-- Enumerators in braces, if there are any. -/
def enumerators : Parser (List EnumeratorDeclaration) :=
  optionalMany .leftBrace enumerator .rightBrace

/-- The members of a union behind an equals sign, if there are any. -/
def members : Parser (List Name) := do
  if ← skip? .equals then delimited .pipe name else return []

/-- The kind of an operation and its type, in a schema definition. -/
def rootOperation : Parser Unit := do
  operationType
  expect .colon
  discard name

/-- The places where a directive can stand. -/
def directiveLocations : List String :=
  ["QUERY", "MUTATION", "SUBSCRIPTION", "FIELD", "FRAGMENT_DEFINITION", "FRAGMENT_SPREAD", "VARIABLE_DEFINITION",
    "INLINE_FRAGMENT", "SCHEMA", "SCALAR", "OBJECT", "FIELD_DEFINITION", "ARGUMENT_DEFINITION", "INTERFACE", "UNION",
    "ENUM", "ENUM_VALUE", "INPUT_OBJECT", "INPUT_FIELD_DEFINITION", "DIRECTIVE_DEFINITION"]

/-- A place where a directive can stand. -/
def directiveLocation : Parser Unit := do
  let t ← current
  let n ← name
  unless n.text ∈ directiveLocations do failAt t (.unexpected t.lexeme)

/-- The keywords of definitions in a type system. -/
inductive TypeKeyword
  | schema
  | scalar
  | type
  | interface
  | union
  | enum
  | input
deriving DecidableEq

/-- How a keyword is written. -/
def TypeKeyword.text : TypeKeyword → String
  | schema => "schema"
  | scalar => "scalar"
  | type => "type"
  | interface => "interface"
  | union => "union"
  | enum => "enum"
  | input => "input"

/-- The keyword that a word is. -/
def TypeKeyword.of? (word : String) : Option TypeKeyword :=
  [schema, scalar, type, interface, union, enum, input].find? (·.text == word)

/-- A definition of a type system.  It may start with a description. -/
def typeDefinition (keyword : TypeKeyword) : Parser Definition := do
  let start := (← current).start
  let description ← description?
  expectKeyword keyword.text
  match keyword with
  | .schema =>
    discard constantDirectives
    discard <| many .leftBrace rootOperation .rightBrace
    return .other .schema none start (← get).lastStop
  | .scalar =>
    let n ← name
    discard constantDirectives
    return .other .scalar (some n.text) start (← get).lastStop
  | .type =>
    let n ← name
    let interfaces ← interfaces
    let directives ← constantDirectives
    let fields ← fields
    return .table ⟨start, (← get).lastStop, description, n, interfaces, directives, fields⟩
  | .interface =>
    let n ← name
    discard interfaces
    discard constantDirectives
    discard fields
    return .other .interface (some n.text) start (← get).lastStop
  | .union =>
    let n ← name
    discard constantDirectives
    discard members
    return .other .union (some n.text) start (← get).lastStop
  | .enum =>
    let n ← name
    let directives ← constantDirectives
    let values ← enumerators
    return .enumeration ⟨start, (← get).lastStop, description, n, directives, values⟩
  | .input =>
    let n ← name
    discard constantDirectives
    discard <| optionalMany .leftBrace inputValue .rightBrace
    return .other .input (some n.text) start (← get).lastStop

/-- Fails unless one of the optional parts of an extension is there. -/
def requirePart (present : Bool) : Parser Unit := do
  unless present do unexpected

/-- An extension of a definition, which has at least one of its optional parts. -/
def extension (keyword : TypeKeyword) : Parser Definition := do
  let start := (← current).start
  expectKeyword "extend"
  expectKeyword keyword.text
  match keyword with
  | .schema =>
    let directives ← constantDirectives
    let operations ← optionalMany .leftBrace rootOperation .rightBrace
    requirePart (!directives.isEmpty || !operations.isEmpty)
    return .other .schemaExtension none start (← get).lastStop
  | .scalar =>
    let n ← name
    let directives ← constantDirectives
    requirePart (!directives.isEmpty)
    return .other .scalarExtension (some n.text) start (← get).lastStop
  | .type => fieldsExtension .tableExtension start
  | .interface => fieldsExtension .interfaceExtension start
  | .union =>
    let n ← name
    let directives ← constantDirectives
    let members ← members
    requirePart (!directives.isEmpty || !members.isEmpty)
    return .other .unionExtension (some n.text) start (← get).lastStop
  | .enum =>
    let n ← name
    let directives ← constantDirectives
    let values ← enumerators
    requirePart (!directives.isEmpty || !values.isEmpty)
    return .other .enumerationExtension (some n.text) start (← get).lastStop
  | .input =>
    let n ← name
    let directives ← constantDirectives
    let values ← optionalMany .leftBrace inputValue .rightBrace
    requirePart (!directives.isEmpty || !values.isEmpty)
    return .other .inputExtension (some n.text) start (← get).lastStop
where
  /-- The extension of a definition that has interfaces and fields. -/
  fieldsExtension (kind : OtherDefinition) (start : Nat) : Parser Definition := do
    let n ← name
    let interfaces ← interfaces
    let directives ← constantDirectives
    let fields ← fields
    requirePart (!interfaces.isEmpty || !directives.isEmpty || !fields.isEmpty)
    return .other kind (some n.text) start (← get).lastStop

/-- The definition of a directive. -/
def directiveDefinition : Parser Definition := do
  let start := (← current).start
  discard description?
  expectKeyword "directive"
  expect .atSign
  let n ← name
  discard <| optionalMany .leftParen inputValue .rightParen
  discard <| skipKeyword? "repeatable"
  expectKeyword "on"
  discard <| delimited .pipe directiveLocation
  return .other .directive (some n.text) start (← get).lastStop

/-- An operation or fragment as a definition. -/
def executable (kind : OtherDefinition) (body : Parser (Option String)) : Parser Definition := do
  let start := (← current).start
  let name ← body
  return .other kind name start (← get).lastStop

/-- A definition.  A description in front is looked past to find the keyword. -/
def definition : Parser Definition := do
  if ← at? .leftBrace then return ← executable .operation operation
  let t ← current
  let described := match t.lexeme with
    | .string _ => true
    | .blockString _ => true
    | _ => false
  let keyword ← if described then lookahead else pure t
  match keyword.lexeme with
  | .punctuator .leftBrace => failAt t .descriptionOnShorthand
  | .name word =>
    if let some k := TypeKeyword.of? word then typeDefinition k
    else if word = "directive" then directiveDefinition
    else if word ∈ operationTypes then executable .operation operation
    else if word = "fragment" then executable .fragment fragment
    else if described then failAt t .descriptionOnUnknown
    else if word = "extend" then
      let next ← lookahead
      match next.lexeme with
      | .name extended =>
        match TypeKeyword.of? extended with
        | some k => extension k
        | none => failAt next (.unexpected next.lexeme)
      | found => failAt next (.unexpected found)
    else failAt t (.unexpected t.lexeme)
  | found => failAt keyword (.unexpected found)

/-- Definitions up to the end of the text. -/
def definitionsToEnd : Nat → Parser (List Definition)
  | 0 => unexpected
  | budget + 1 => do
    if (← current).lexeme = .endOfText then return []
    let first ← definition
    let others ← definitionsToEnd budget
    return first :: others

/-- A document: at least one definition up to the end of the text. -/
def document : Parser (List Definition) := do
  let first ← definition
  let others ← definitionsToEnd (← budget)
  return first :: others

end Parser

/-- Reads a source as a document. -/
def parse (source : Source) : Except SyntaxError Document := do
  match tokenize source.body with
  | ⟨[], some e⟩ => throw e
  | ⟨[], none⟩ => return ⟨source, []⟩
  | ⟨first :: following, error⟩ =>
    let definitions ← Parser.document.run' ⟨first, following, error, 0⟩
    return ⟨source, definitions⟩

end TableSchema.Syntax
