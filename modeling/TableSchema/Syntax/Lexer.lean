import TableSchema.Syntax.Token

/-!
# Reading tokens

`readLexeme` reads one lexeme at the start of a text and says how many characters it takes; `tokenize` repeats it
over a whole body, skipping blanks and comments, up to the end of the text or the first lexical error.
-/

namespace TableSchema.Syntax

open Text

/-- Whether a name can start with a character. -/
def isNameStart (c : Char) : Bool :=
  c.isAlpha || c == '_'

/-- Whether a name can go on with a character. -/
def isNameContinue (c : Char) : Bool :=
  c.isAlphanum || c == '_'

/-- The value of a hexadecimal digit. -/
def hexValue? (c : Char) : Option Nat :=
  if c.isDigit then some (c.toNat - '0'.toNat)
  else if 'a' ≤ c ∧ c ≤ 'f' then some (c.toNat - 'a'.toNat + 10)
  else if 'A' ≤ c ∧ c ≤ 'F' then some (c.toNat - 'A'.toNat + 10)
  else none

/-- The number that hexadecimal digits stand for, if all of them are such digits. -/
def hexNumber? (digits : List Char) : Option Nat :=
  digits.foldlM (fun n c => (n * 16 + ·) <$> hexValue? c) 0

/-! ### Numbers -/

/-- The number of digits at the start of a text, which must be at least one. -/
def readDigits (position : Nat) (text : List Char) : Except SyntaxError Nat :=
  let count := (text.takeWhile Char.isDigit).length
  if count = 0 then .error ⟨position, .digitExpected text.head?⟩ else .ok count

/-- The length of the whole part of a number without its sign.  A zero stands alone. -/
def readWhole (position : Nat) (text : List Char) : Except SyntaxError Nat :=
  if text.head? = some '0' then
    let next := text[1]?
    if next.any Char.isDigit then .error ⟨position + 1, .digitAfterZero next⟩ else .ok 1
  else readDigits position text

/-- The length of the fraction at the start of a text, zero if there is none. -/
def readFraction (position : Nat) (text : List Char) : Except SyntaxError Nat :=
  if text.head? = some '.' then (1 + ·) <$> readDigits (position + 1) text.tail else .ok 0

/-- The length of the exponent at the start of a text, zero if there is none. -/
def readExponent (position : Nat) (text : List Char) : Except SyntaxError Nat :=
  if text.head? = some 'e' ∨ text.head? = some 'E' then
    let sign := if text[1]? = some '+' ∨ text[1]? = some '-' then 1 else 0
    (1 + sign + ·) <$> readDigits (position + 1 + sign) (text.drop (1 + sign))
  else .ok 0

/-- Reads a number.  Neither a dot nor the start of a name may follow it. -/
def readNumber (position : Nat) (text : List Char) : Except SyntaxError (Lexeme × Nat) := do
  let sign := if text.head? = some '-' then 1 else 0
  let whole ← readWhole (position + sign) (text.drop sign)
  let fraction ← readFraction (position + sign + whole) (text.drop (sign + whole))
  let exponent ← readExponent (position + sign + whole + fraction) (text.drop (sign + whole + fraction))
  let length := sign + whole + fraction + exponent
  let next := text[length]?
  if next.any fun c => c == '.' || isNameStart c then
    throw ⟨position + length, .digitExpected next⟩
  let digits := String.ofList (text.take length)
  return (if fraction + exponent = 0 then .int digits else .float digits, length)

/-! ### Strings -/

/-- Whether a number is a code point other than a surrogate. -/
def isScalarValue (n : Nat) : Bool :=
  n < 0xd800 || (0xdfff < n && n ≤ 0x10ffff)

/-- Reads the rest of an escape in braces, `text`, after its opening and `size - 3` digits of value `code`.  Gives the
character and the size of the escape, or the size at which it fails. -/
def readBracedEscape (size code : Nat) : List Char → Except Nat (Char × Nat)
  | [] => .error size
  | c :: rest =>
    if 12 ≤ size then .error size
    else if c == '\x7d' then
      if 5 ≤ size + 1 ∧ isScalarValue code then .ok (Char.ofNat code, size + 1) else .error (size + 1)
    else match hexValue? c with
      | some digit => readBracedEscape (size + 1) (code * 16 + digit) rest
      | none => .error (size + 1)

/-- The number that the four digits of an escape at the start of a text stand for. -/
def readFourDigits (text : List Char) : Option Nat :=
  if text.length < 4 then none else hexNumber? (text.take 4)

/-- Reads an escape of four digits behind `\u`, or two of them that are a surrogate pair. -/
def readFixedEscape (digits : List Char) : Option (Char × Nat) := do
  let code ← readFourDigits digits
  if isScalarValue code then return (Char.ofNat code, 6)
  guard (code < 0xdc00 ∧ digits[4]? = some '\\' ∧ digits[5]? = some 'u')
  let trailing ← readFourDigits (digits.drop 6)
  guard (0xdc00 ≤ trailing ∧ trailing ≤ 0xdfff)
  return (Char.ofNat (0x10000 + (code - 0xd800) * 0x400 + (trailing - 0xdc00)), 12)

/-- The character that a one-letter escape stands for. -/
def simpleEscape? : Char → Option Char
  | '\x22' => some '\x22'
  | '\\' => some '\\'
  | '/' => some '/'
  | 'b' => some '\x08'
  | 'f' => some '\x0c'
  | 'n' => some '\n'
  | 'r' => some '\r'
  | 't' => some '\t'
  | _ => none

/-- Reads an escape.  `rest` is the text behind its backslash; the size counts the backslash. -/
def readEscape (position : Nat) (rest : List Char) : Except SyntaxError (Char × Nat) :=
  let spelling (size : Nat) := String.ofList ('\\' :: rest.take (size - 1))
  match rest with
  | 'u' :: '\x7b' :: digits =>
    match readBracedEscape 3 0 digits with
    | .ok result => .ok result
    | .error size => .error ⟨position, .badCodePoint (spelling size)⟩
  | 'u' :: digits =>
    match readFixedEscape digits with
    | some result => .ok result
    | none => .error ⟨position, .badCodePoint (spelling 6)⟩
  | c :: _ =>
    match simpleEscape? c with
    | some value => .ok (value, 2)
    | none => .error ⟨position, .unknownEscape (spelling 2)⟩
  | [] => .error ⟨position, .unknownEscape (spelling 2)⟩

/-- Reads a string behind its opening mark: its value and its length with the closing mark. -/
def readString (position : Nat) : List Char → Except SyntaxError (List Char × Nat)
  | [] => .error ⟨position, .unterminatedString⟩
  | '\x22' :: _ => .ok ([], 1)
  | '\\' :: rest =>
    match readEscape position rest with
    | .error e => .error e
    | .ok (c, size) =>
      (fun (value, length) => (c :: value, size + length)) <$> readString (position + size) (rest.drop (size - 1))
  | c :: rest =>
    if isNewline c then .error ⟨position, .unterminatedString⟩
    else (fun (value, length) => (c :: value, length + 1)) <$> readString (position + 1) rest
termination_by text => text.length
decreasing_by all_goals simp only [List.length_cons, List.length_drop]; omega

/-! ### Block strings -/

/-- The number of spaces and tabs at the start of a line. -/
def leadingBlanks (line : List Char) : Nat :=
  (line.takeWhile fun c => c == ' ' || c == '\t').length

/-- Whether a line holds nothing but spaces and tabs. -/
def isBlankLine (line : List Char) : Bool :=
  leadingBlanks line == line.length

/-- The value of the lines of a block string: without the indent that all lines but the first have in common, and
without blank lines at both ends. -/
def dedent (lines : List (List Char)) : List (List Char) :=
  let indents := ((lines.drop 1).filter (!isBlankLine ·)).map leadingBlanks
  let stripped := match indents.min? with
    | some indent => lines.take 1 ++ (lines.drop 1).map (·.drop indent)
    | none => lines
  let marked := (lines.zip stripped).dropWhile (isBlankLine ·.1)
  (marked.reverse.dropWhile (isBlankLine ·.1)).reverse.map (·.2)

/-- Reads a block string behind its opening marks: the text up to the closing marks, and the length with them. -/
def readBlockText : List Char → Option (List Char × Nat)
  | [] => none
  | '\x22' :: '\x22' :: '\x22' :: _ => some ([], 3)
  | '\\' :: '\x22' :: '\x22' :: '\x22' :: rest =>
    (fun (text, length) => ('\x22' :: '\x22' :: '\x22' :: text, length + 4)) <$> readBlockText rest
  | c :: rest => (fun (text, length) => (c :: text, length + 1)) <$> readBlockText rest

/-- The value of a block string, whose lines are joined by `\n`. -/
def blockValue (text : List Char) : String :=
  "\n".intercalate ((dedent (splitLines text)).map String.ofList)

/-! ### Tokens -/

/-- Reads the lexeme that starts with a character and gives its length, which is at least one. -/
def readLexeme (position : Nat) (c : Char) (rest : List Char) : Except SyntaxError (Lexeme × Nat) :=
  if let some p := Punctuator.ofChar? c then .ok (.punctuator p, 1)
  else if isNameStart c then
    let name := c :: rest.takeWhile isNameContinue
    .ok (.name (String.ofList name), name.length)
  else if c.isDigit || c == '-' then readNumber position (c :: rest)
  else if c == '\x22' then
    match rest with
    | '\x22' :: '\x22' :: text =>
      match readBlockText text with
      | some (value, length) => .ok (.blockString (blockValue value), length + 3)
      | none => .error ⟨position + 1 + rest.length, .unterminatedString⟩
    | _ => (fun (value, length) => (.string (String.ofList value), length + 1)) <$> readString (position + 1) rest
  else if c == '.' && rest.take 2 == ['.', '.'] then .ok (.punctuator .ellipsis, 3)
  else .error ⟨position, .unexpectedCharacter (some c)⟩

/-- Whether a character between tokens means nothing. -/
def isIgnored (c : Char) : Bool :=
  c == ' ' || c == '\t' || c == ',' || c == '\ufeff' || isNewline c

/-- Skips ignored characters and comments.  Gives the position and the text of the next token. -/
def skipIgnored (inComment : Bool) (position : Nat) : List Char → Nat × List Char
  | [] => (position, [])
  | c :: rest =>
    if isNewline c then skipIgnored false (position + 1) rest
    else if inComment then skipIgnored true (position + 1) rest
    else if c == '#' then skipIgnored true (position + 1) rest
    else if isIgnored c then skipIgnored false (position + 1) rest
    else (position, c :: rest)

theorem length_skipIgnored_le (inComment : Bool) (position : Nat) (text : List Char) :
    (skipIgnored inComment position text).2.length ≤ text.length := by
  induction text generalizing inComment position with
  | nil => simp [skipIgnored]
  | cons c rest ih =>
    unfold skipIgnored
    repeat' split
    all_goals first | exact Nat.le_succ_of_le (ih _ _) | simp

/-- The tokens of a text, and the lexical error behind them.  Without an error the last token is the end of the
text. -/
structure Tokens where
  tokens : List Token
  error : Option SyntaxError

/-- Puts a token in front. -/
def Tokens.cons (t : Token) (ts : Tokens) : Tokens :=
  ⟨t :: ts.tokens, ts.error⟩

/-- The tokens of a text that begins at a position. -/
def tokenizeAt (position : Nat) (text : List Char) : Tokens :=
  match _h : skipIgnored false position text with
  | (start, []) => ⟨[⟨start, start, .endOfText⟩], none⟩
  | (start, c :: rest) =>
    match readLexeme start c rest with
    | .error e => ⟨[], some e⟩
    | .ok (lexeme, length) =>
      .cons ⟨start, start + length, lexeme⟩ (tokenizeAt (start + length) (rest.drop (length - 1)))
termination_by text.length
decreasing_by
  have := length_skipIgnored_le false position text
  simp only [_h, List.length_cons] at this
  simp only [List.length_drop]
  omega

/-- The tokens of a body. -/
def tokenize (body : String) : Tokens :=
  tokenizeAt 0 body.toList

end TableSchema.Syntax
