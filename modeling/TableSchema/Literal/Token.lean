import TableSchema.Literal.Fault
import TableSchema.Text.Numeral
import TableSchema.Text.WordCharacter

/-!
# Tokens of literals

A literal is an expression of one line that stands for a constant: numbers, texts and names of constants, in tuples,
sets and dictionaries.  `tokens` cuts a line into its tokens.  The last one is the end of the line, or a fault that
lies there.
-/

namespace TableSchema.Literal

open Text

/-- What a token is.  A fault is decisive if it counts before every fault in front of it. -/
inductive Kind
  | name (text : String)
  | number (imaginary : Bool)
  | text (bytes formatted : Bool) (fault : Option SyntaxFault)
  | mark (text : String)
  | stop
  | fault (fault : SyntaxFault) (decisive : Bool)
deriving DecidableEq

/-- A token, and how many parentheses are open behind it. -/
structure Token where
  kind : Kind
  depth : Nat
deriving DecidableEq

/-- Whether a character can stand in a name.  Others than those of ASCII are looked at when the name is complete. -/
def isNamePart (c : Char) : Bool :=
  c.isAlphanum || c == '_' || 0x80 ≤ c.toNat

/-- The first character that a name must not hold: one that is no word character, or a digit in front. -/
def strayPart? (name : List Char) : Option Char :=
  match name with
  | [] => none
  | c :: rest => if isWord c && (digitValue? c).isNone then rest.find? (!isWord ·) else some c

/-! ### Numbers -/

/-- Passes over digits with single underscores between them.  Fails with the text behind an underscore that no digit
follows. -/
def skipDigits (isDigit : Char → Bool) : List Char → Except (List Char) (List Char)
  | '_' :: c :: rest => if isDigit c then skipDigits isDigit rest else .error (c :: rest)
  | ['_'] => .error []
  | c :: rest => if isDigit c then skipDigits isDigit rest else .ok (c :: rest)
  | [] => .ok []

/-- Whether a word that may stand directly behind a number is there.  The shortest ones need not end there. -/
def atWordBehindNumber (text : List Char) : Bool :=
  let has (word : String) := word.toList.isPrefixOf text
  let hasWhole (word : String) := has word && !(text.drop word.length).head?.any isNamePart
  ["if", "in", "is"].any has || ["and", "else", "for", "not", "or"].any hasWhole

/-- Makes sure that a number ends where a text follows.  Only names of ASCII run on. -/
def endNumber (sort : NumberSort) (rest : List Char) : Except SyntaxFault (List Char) :=
  let runsOn := rest.head?.any (fun c => isNamePart c && c.toNat < 0x80) && !atWordBehindNumber rest
  if runsOn then .error (.invalidNumber sort) else .ok rest

/-- Reads the digits of a number with a base that is not ten. -/
def readBased (sort : NumberSort) (isDigit : Char → Bool) (text : List Char) : Except SyntaxFault (List Char) :=
  let refuse (rest : List Char) : Except SyntaxFault (List Char) :=
    match rest with
    | c :: _ => .error (if c.isDigit then .invalidDigit sort c else .invalidNumber sort)
    | [] => .error (.invalidNumber sort)
  let digits := if text.head? = some '_' then text.tail else text
  if digits.head?.any isDigit then
    match skipDigits isDigit digits with
    | .ok rest => if rest.head?.any Char.isDigit then refuse rest else endNumber sort rest
    | .error rest => refuse rest
  else refuse digits

/-- Reads decimal digits behind the first one. -/
def readDecimals (text : List Char) : Except SyntaxFault (List Char) :=
  (skipDigits Char.isDigit text).mapError fun _ => .invalidNumber .decimal

/-- Reads what may follow the digits of a number: an exponent, and the sign of the imaginary. -/
def readTail (text : List Char) : Except SyntaxFault (Bool × List Char) := do
  let imaginary? (rest : List Char) : Except SyntaxFault (Bool × List Char) :=
    match rest with
    | 'j' :: rest => (true, ·) <$> endNumber .imaginary rest
    | 'J' :: rest => (true, ·) <$> endNumber .imaginary rest
    | rest => (false, ·) <$> endNumber .decimal rest
  match text with
  | e :: rest =>
    if e = 'e' ∨ e = 'E' then
      let signed := rest.head? = some '+' ∨ rest.head? = some '-'
      let digits := if signed then rest.tail else rest
      if digits.head?.any Char.isDigit then imaginary? (← readDecimals digits)
      else if signed then .error (.invalidNumber .decimal)
      else (false, ·) <$> endNumber .decimal text
    else imaginary? text
  | [] => return (false, [])

/-- Reads what may follow the integer part of a number. -/
def readFraction (text : List Char) : Except SyntaxFault (Bool × List Char) := do
  match text with
  | '.' :: rest => readTail (← if rest.head?.any Char.isDigit then readDecimals rest else .ok rest)
  | _ => readTail text

/-- Reads a number: whether it is imaginary, and the text behind it. -/
def readNumber (text : List Char) : Except SyntaxFault (Bool × List Char) := do
  match text with
  | '0' :: c :: rest =>
    if c = 'x' ∨ c = 'X' then
      (false, ·) <$> readBased .hexadecimal (fun c => c.isDigit || ('a' ≤ c.toLower && c.toLower ≤ 'f')) rest
    else if c = 'o' ∨ c = 'O' then (false, ·) <$> readBased .octal (fun c => '0' ≤ c && c ≤ '7') rest
    else if c = 'b' ∨ c = 'B' then (false, ·) <$> readBased .binary (fun c => c = '0' || c = '1') rest
    else
      let behind ← readDecimals (c :: rest)
      let digits := (c :: rest).take (rest.length + 1 - behind.length)
      if digits.any (fun c => c.isDigit && c != '0') && !behind.head?.any ['.', 'e', 'E', 'j', 'J'].contains then
        .error .leadingZeros
      else readFraction behind
  | '.' :: _ => readFraction text
  | _ => readFraction (← readDecimals text)

/-! ### Texts -/

/-- The text behind a closing quotation mark, which is as long as the opening one.  A backslash takes the character
behind it along. -/
def closeText (mark : Char) (triple : Bool) : List Char → Option (List Char)
  | [] => none
  | '\\' :: _ :: rest => closeText mark triple rest
  | c :: rest =>
    if c ≠ mark then closeText mark triple rest
    else if !triple then some rest
    else match rest with
      | d :: e :: behind => if d = mark ∧ e = mark then some behind else closeText mark triple rest
      | _ => none

/-- Reads a text behind the letters in front of it. -/
def readQuoted (letters : List Char) (mark : Char) (text : List Char) : Except SyntaxFault (Kind × List Char) :=
  let triple := text.take 2 = [mark, mark]
  let inside := if triple then text.drop 2 else text
  match closeText mark triple inside with
  | none => .error (.unclosedText triple)
  | some rest =>
    let has (c : Char) := letters.any (·.toLower = c)
    let stray := has 'b' && (inside.take (inside.length - rest.length)).any (0x80 ≤ ·.toNat)
    let fault := if stray then some .textOfBytes else none
    .ok (.text (has 'b') (has 'f') fault, rest)

/-- The letters that may stand in front of a text. -/
def textLetters : List String :=
  ["b", "u", "r", "f", "br", "rb", "fr", "rf"]

/-- Reads a name, or a text with letters in front. -/
def readName (text : List Char) : Except SyntaxFault (Kind × List Char) :=
  let name := text.takeWhile isNamePart
  let rest := text.dropWhile isNamePart
  let quoted := textLetters.contains ((String.ofList name).map Char.toLower)
  match rest.head?, quoted with
  | some '\x27', true => readQuoted name '\x27' rest.tail
  | some '\x22', true => readQuoted name '\x22' rest.tail
  | _, _ =>
    match strayPart? name with
    | none => .ok (.name (String.ofList name), rest)
    | some c => .error (.strayCharacter c)

/-! ### Marks -/

/-- Marks of more than one character, the longer ones first. -/
def longMarks : List String := [
  "**=", "...", "//=", "<<=", ">>=", "!=", "%=", "&=", "**", "*=", "+=", "-=", "->", "//", "/=", ":=", "<<", "<=", "<>",
  "==", ">=", ">>", "@=", "^=", "|="]

/-- The parenthesis that closes another one. -/
def closing? (c : Char) : Option Char :=
  [('(', ')'), ('[', ']'), ('\x7b', '\x7d')].lookup c

/-- The most parentheses that may be open at once. -/
def maxDepth : Nat := 200

/-- The parentheses that are open behind a mark, the innermost one first. -/
def openBehind (opened : List Char) (mark : String) : Except SyntaxFault (List Char) :=
  match mark.toList with
  | [c] =>
    if (closing? c).isSome then
      if opened.length < maxDepth then .ok (c :: opened) else .error .tooDeep
    else if [')', ']', '\x7d'].contains c then
      match opened with
      | [] => .error (.unmatched c)
      | opening :: outer => if closing? opening = some c then .ok outer else .error (.mismatched c opening)
    else .ok opened
  | _ => .ok opened

/-- Reads a mark. -/
def readMark (c : Char) (rest : List Char) : Kind × List Char :=
  match longMarks.find? (·.toList.isPrefixOf (c :: rest)) with
  | some mark => (.mark mark, rest.drop (mark.length - 1))
  | none => (.mark c.toString, rest)

/-! ### Lines -/

/-- Reads a token, and gives the text behind it. -/
def readToken (c : Char) (rest : List Char) : Except SyntaxFault (Kind × List Char) :=
  if c.isDigit || (c == '.' && rest.head?.any Char.isDigit) then
    (fun (imaginary, behind) => (.number imaginary, behind)) <$> readNumber (c :: rest)
  else if isNamePart c then readName (c :: rest)
  else if c = '\x27' ∨ c = '\x22' then readQuoted [] c rest
  else .ok (readMark c rest)

/-- The tokens of a line.  `opened` are the parentheses that are open in front of it, the innermost one first. -/
def tokens (opened : List Char) (line : List Char) : List Token :=
  let ended := match opened with
    | [] => Kind.stop
    | opening :: _ => .fault (.neverClosed opening) false
  match line with
  | [] => [⟨ended, opened.length⟩]
  | c :: rest =>
    if c = ' ' then tokens opened rest
    else if c = '#' then [⟨ended, opened.length⟩]
    else if c = '\\' then [⟨.fault .behindBackslash false, opened.length⟩]
    else
      let found : Except SyntaxFault (Kind × List Char × List Char) := do
        let (kind, behind) ← readToken c rest
        match kind with
        | .mark mark => return (kind, behind, ← openBehind opened mark)
        | _ => return (kind, behind, opened)
      match found with
      | .error fault => [⟨.fault fault true, opened.length⟩]
      | .ok (kind, behind, opened) =>
        ⟨kind, opened.length⟩ :: if _h : behind.length ≤ rest.length then tokens opened behind else []
termination_by line.length
decreasing_by all_goals simp only [List.length_cons]; omega

end TableSchema.Literal
