import TableSchema.Text.CodePoint

/-!
# Faults of literals

Why a line is no expression, and why an expression stands for no constant, each with its wording.
-/

namespace TableSchema.Literal

/-- The form of an expression. -/
inductive Form
  | name (text : String)
  | constant (text : String)
  | member
  | call
  | operation
  | logical
  | comparison
  | conditional
  | tuple
  | dictionary
  | set
  | formatted
deriving DecidableEq

namespace Form

/-- A text or a number. -/
def literal : Form :=
  .constant "literal"

/-- How a form is called. -/
def text : Form → String
  | name _ => "name"
  | constant text => text
  | member => "attribute"
  | call => "function call"
  | operation => "expression"
  | logical => "expression"
  | comparison => "comparison"
  | conditional => "conditional expression"
  | tuple => "tuple"
  | dictionary => "dict literal"
  | set => "set display"
  | formatted => "f-string expression"

/-- Whether an expression of a form can stand between two operators of numbers. -/
def isOperand : Form → Bool
  | logical => false
  | comparison => false
  | conditional => false
  | _ => true

end Form

/-- The ways to write a number. -/
inductive NumberSort
  | decimal
  | hexadecimal
  | octal
  | binary
  | imaginary
deriving DecidableEq

/-- How a way to write a number is called. -/
def NumberSort.text : NumberSort → String
  | decimal => "decimal"
  | hexadecimal => "hexadecimal"
  | octal => "octal"
  | binary => "binary"
  | imaginary => "imaginary"

/-- Why a line is no expression.  The faults of tokens come first. -/
inductive SyntaxFault
  | strayCharacter (c : Char)
  | invalidNumber (sort : NumberSort)
  | invalidDigit (sort : NumberSort) (c : Char)
  | leadingZeros
  | unclosedText (triple : Bool)
  | behindBackslash
  | tooDeep
  | unmatched (closing : Char)
  | mismatched (closing opening : Char)
  | neverClosed (opening : Char)
  | textOfBytes
  | mixedTexts
  | plain
  | missingComma
  | missingElse
  | singleEqualsSign
  | assigned (form : Form)
  | assignedInside (form : Form)
  | starAlone
  | doubleStarAlone
  | nothingBehindStar
  | missingColon
  | missingValue
  | starredValue
  | starBehindUnpacked
  | positionalBehind (unpacked : Bool)
  | constantAsKeyword (text : String)
  | expressionAsKeyword
  | missingParentheses (name : String)
deriving DecidableEq

/-- The wording of a fault in a line. -/
def SyntaxFault.message : SyntaxFault → String
  | strayCharacter c => s!"invalid character '{c}' (U+{(Text.hexDigits 4 c.toNat).map Char.toUpper})"
  | invalidNumber sort => s!"invalid {sort.text} literal"
  | invalidDigit sort c => s!"invalid digit '{c}' in {sort.text} literal"
  | leadingZeros =>
    "leading zeros in decimal integer literals are not permitted; use an 0o prefix for octal integers"
  | unclosedText triple =>
    (if triple then "unterminated triple-quoted" else "unterminated") ++ " string literal (detected at line 1)"
  | behindBackslash => "unexpected character after line continuation character"
  | tooDeep => "too many nested parentheses"
  | unmatched closing => s!"unmatched '{closing}'"
  | mismatched closing opening =>
    s!"closing parenthesis '{closing}' does not match opening parenthesis '{opening}'"
  | neverClosed opening => s!"'{opening}' was never closed"
  | textOfBytes => "bytes can only contain ASCII literal characters"
  | mixedTexts => "cannot mix bytes and nonbytes literals"
  | plain => "invalid syntax"
  | missingComma => "invalid syntax. Perhaps you forgot a comma?"
  | missingElse => "expected 'else' after 'if' expression"
  | singleEqualsSign => "invalid syntax. Maybe you meant '==' or ':=' instead of '='?"
  | assigned form => s!"cannot assign to {form.text} here. Maybe you meant '==' instead of '='?"
  | assignedInside form => s!"cannot use assignment expressions with {form.text}"
  | starAlone => "cannot use starred expression here"
  | doubleStarAlone => "cannot use double starred expression here"
  | nothingBehindStar => "Invalid star expression"
  | missingColon => "':' expected after dictionary key"
  | missingValue => "expression expected after dictionary key and ':'"
  | starredValue => "cannot use a starred expression in a dictionary value"
  | starBehindUnpacked => "iterable argument unpacking follows keyword argument unpacking"
  | positionalBehind unpacked =>
    "positional argument follows keyword argument" ++ if unpacked then " unpacking" else ""
  | constantAsKeyword text => s!"cannot assign to {text}"
  | expressionAsKeyword => "expression cannot contain assignment, perhaps you meant \"==\"?"
  | missingParentheses name => s!"Missing parentheses in call to '{name}'. Did you mean {name}(...)?"

/-- Why an expression stands for no constant. -/
inductive ValueFault
  | malformed
  | malformedKey
  | noKey (type : String)
deriving DecidableEq

/-- The wording of a fault in an expression. -/
def ValueFault.message : ValueFault → String
  | malformed => "malformed node or string on line 1"
  | malformedKey => "malformed node or string: None"
  | noKey type => s!"unhashable type: '{type}'"

/-- Why a line stands for no constant: it is no expression, or one of another kind. -/
inductive Fault
  | notExpression (fault : SyntaxFault)
  | noConstant (fault : ValueFault)
deriving DecidableEq

end TableSchema.Literal
