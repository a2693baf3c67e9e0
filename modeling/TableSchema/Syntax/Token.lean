import TableSchema.Syntax.Source

/-!
# Tokens

What the text of a schema document is made of, and everything that can be wrong with its syntax.
-/

namespace TableSchema.Syntax

open Text

/-- The punctuators. -/
inductive Punctuator
  | bang
  | dollar
  | ampersand
  | leftParen
  | rightParen
  | ellipsis
  | colon
  | equals
  | atSign
  | leftBracket
  | rightBracket
  | leftBrace
  | pipe
  | rightBrace
deriving DecidableEq

/-- How a punctuator is written. -/
def Punctuator.text : Punctuator → String
  | bang => "!"
  | dollar => "$"
  | ampersand => "&"
  | leftParen => "("
  | rightParen => ")"
  | ellipsis => "..."
  | colon => ":"
  | equals => "="
  | atSign => "@"
  | leftBracket => "["
  | rightBracket => "]"
  | leftBrace => "\x7b"
  | pipe => "|"
  | rightBrace => "\x7d"

/-- The punctuator that a character is by itself. -/
def Punctuator.ofChar? : Char → Option Punctuator
  | '!' => some bang
  | '$' => some dollar
  | '&' => some ampersand
  | '(' => some leftParen
  | ')' => some rightParen
  | ':' => some colon
  | '=' => some equals
  | '@' => some atSign
  | '[' => some leftBracket
  | ']' => some rightBracket
  | '\x7b' => some leftBrace
  | '|' => some pipe
  | '\x7d' => some rightBrace
  | _ => none

/-- What a token is.  Strings carry their value, numbers their spelling. -/
inductive Lexeme
  | punctuator (p : Punctuator)
  | name (text : String)
  | int (digits : String)
  | float (digits : String)
  | string (value : String)
  | blockString (value : String)
  | endOfText
deriving DecidableEq

/-- How a lexeme is called in messages. -/
def Lexeme.describe : Lexeme → String
  | punctuator p => s!"'{p.text}'"
  | name text => s!"Name '{text}'"
  | int digits => s!"Int '{digits}'"
  | float digits => s!"Float '{digits}'"
  | string value => s!"String '{value}'"
  | blockString value => s!"BlockString '{value}'"
  | endOfText => "<EOF>"

/-- The text that a lexeme carries, if any. -/
def Lexeme.text? : Lexeme → Option String
  | name text => some text
  | int digits => some digits
  | float digits => some digits
  | string value => some value
  | blockString value => some value
  | punctuator _ => none
  | endOfText => none

/-- A lexeme and the offsets at which it starts and stops. -/
structure Token where
  start : Nat
  stop : Nat
  lexeme : Lexeme
deriving DecidableEq

/-- How a character is called in messages; `none` is the end of the text. -/
def describeChar : Option Char → String
  | none => "<EOF>"
  | some c =>
    if 0x20 ≤ c.toNat ∧ c.toNat ≤ 0x7e then s!"'{c}'"
    else "U+" ++ (hexDigits 4 c.toNat).toUpper

/-- What can be wrong with the syntax of a text. -/
inductive SyntaxFault
  | unexpectedCharacter (c : Option Char)
  | digitAfterZero (c : Option Char)
  | digitExpected (c : Option Char)
  | unterminatedString
  | unknownEscape (text : String)
  | badCodePoint (text : String)
  | expectedPunctuator (p : Punctuator) (found : Lexeme)
  | expectedName (found : Lexeme)
  | expectedKeyword (word : String) (found : Lexeme)
  | unexpected (found : Lexeme)
  | descriptionOnShorthand
  | descriptionOnUnknown
  | variableInConstant (name : String)
  | reservedValue (found : Lexeme)
  | nestedTooDeeply
deriving DecidableEq

/-- The wording of a fault. -/
def SyntaxFault.describe : SyntaxFault → String
  | unexpectedCharacter (some '\x27') =>
    "Unexpected single quote character ('), did you mean to use a double quote (\")?"
  | unexpectedCharacter c => s!"Unexpected character: {describeChar c}."
  | digitAfterZero c => s!"Invalid number, unexpected digit after 0: {describeChar c}."
  | digitExpected c => s!"Invalid number, expected digit but got: {describeChar c}."
  | unterminatedString => "Unterminated string."
  | unknownEscape text => s!"Invalid character escape sequence: '{text}'."
  | badCodePoint text => s!"Invalid Unicode escape sequence: '{text}'."
  | expectedPunctuator p found => s!"Expected '{p.text}', found {found.describe}."
  | expectedName found => s!"Expected Name, found {found.describe}."
  | expectedKeyword word found => s!"Expected '{word}', found {found.describe}."
  | unexpected found => s!"Unexpected {found.describe}."
  | descriptionOnShorthand => "Unexpected description, descriptions are not supported on shorthand queries."
  | descriptionOnUnknown => "Unexpected description, only GraphQL definitions support descriptions."
  | variableInConstant name => s!"Unexpected variable '${name}' in constant value."
  | reservedValue found => s!"{found.describe} is reserved and cannot be used for an enum value."
  | nestedTooDeeply => "Document is nested too deeply. Parsing aborted."

/-- A fault and the offset at which it shows. -/
structure SyntaxError where
  position : Nat
  fault : SyntaxFault
deriving DecidableEq

/-- The message of a syntax error. -/
def SyntaxError.message (e : SyntaxError) : String :=
  "Syntax Error: " ++ e.fault.describe

end TableSchema.Syntax
