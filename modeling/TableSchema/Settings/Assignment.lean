import TableSchema.Dictionary
import TableSchema.Text.Blank
import TableSchema.Text.Line

/-!
# Assignment files

An assignment file gives variables values, an assignment a line: a name, an equals sign and a value, which may stand
in quotation marks and then reach over several lines.  A line may start with `export`, and a number sign starts a
comment.  A line of another form is malformed: it gives no value, and a reader is told of it.  A value may use
variables as `$` and a name in braces.
-/

namespace TableSchema.Settings

open Text

/-- A name and the value that it is given, if it is given one. -/
structure Assignment where
  name : String
  value : Option String
deriving DecidableEq

/-- What a statement of an assignment file comes to. -/
inductive Statement
  | assignment (a : Assignment)
  | comment
  | malformed
deriving DecidableEq

/-- A blank that does not end the line. -/
def isInlineBlank (c : Char) : Bool :=
  isBlank c && c != '\n'

/-- Skips `export` and the blanks behind it. -/
def skipExport (text : List Char) : List Char :=
  match text with
  | 'e' :: 'x' :: 'p' :: 'o' :: 'r' :: 't' :: c :: rest =>
    if isInlineBlank c then rest.dropWhile isInlineBlank else text
  | _ => text

/-- The name that a line gives a value, and the text behind it.  A comment has none. -/
def readName (text : List Char) : Option (Option String × List Char) :=
  match text with
  | '#' :: _ => some (none, text)
  | '\x27' :: rest =>
    let inside := rest.takeWhile (· ≠ '\x27')
    match inside, rest.dropWhile (· ≠ '\x27') with
    | _ :: _, _ :: behind => some (some (String.ofList inside), behind)
    | _, _ => none
  | _ =>
    let isNameChar (c : Char) := c != '=' && c != '#' && !isBlank c
    let name := text.takeWhile isNameChar
    if name.isEmpty then none else some (some (String.ofList name), text.dropWhile isNameChar)

/-- The text up to the closing quotation mark and the text behind it.  A backslash takes the character behind it along,
which does not close then. -/
def closeQuote (mark : Char) : List Char → Option (List Char × List Char)
  | [] => none
  | '\\' :: c :: rest => (fun (inside, behind) => ('\\' :: c :: inside, behind)) <$> closeQuote mark rest
  | c :: rest =>
    if c = mark then some ([], rest)
    else (fun (inside, behind) => (c :: inside, behind)) <$> closeQuote mark rest

/-- The characters that letters stand for behind a backslash between double quotation marks. -/
def escapes : List (Char × Char) :=
  [('\\', '\\'), ('\x27', '\x27'), ('\x22', '\x22'), ('a', '\x07'), ('b', '\x08'), ('f', '\x0c'), ('n', '\n'),
    ('r', '\r'), ('t', '\t'), ('v', '\x0b')]

/-- Replaces escapes by what they stand for.  Others stay as they are. -/
def unescape (table : List (Char × Char)) : List Char → List Char
  | '\\' :: c :: rest =>
    match table.lookup c with
    | some value => value :: unescape table rest
    | none => '\\' :: unescape table (c :: rest)
  | c :: rest => c :: unescape table rest
  | [] => []

/-- The part of an unquoted value before a comment, which needs a blank in front. -/
def beforeComment : List Char → List Char
  | [] => []
  | c :: rest =>
    if isBlank c ∧ (rest.dropWhile isBlank).head? = some '#' then [] else c :: beforeComment rest

/-- The value behind an equals sign, and the text behind it.  A value that is not quoted ends with its line. -/
def readValue (text : List Char) : Option (String × List Char) :=
  match text.dropWhile isInlineBlank with
  | '\x27' :: rest =>
    (fun (inside, behind) => (String.ofList (unescape (escapes.take 2) inside), behind)) <$> closeQuote '\x27' rest
  | '\x22' :: rest =>
    (fun (inside, behind) => (String.ofList (unescape escapes inside), behind)) <$> closeQuote '\x22' rest
  | _ =>
    let line := text.takeWhile (· ≠ '\n')
    some (String.ofList (trim isBlank (beforeComment line)), text.dropWhile (· ≠ '\n'))

/-- The rest of the text behind the end of the line, which only a comment may precede. -/
def endLine (text : List Char) : Option (List Char) :=
  let afterBlanks := text.dropWhile isInlineBlank
  let behind := if afterBlanks.head? = some '#' then afterBlanks.dropWhile (· ≠ '\n') else afterBlanks
  match behind with
  | [] => some []
  | '\n' :: rest => some rest
  | _ => none

/-- The text behind the current line. -/
def nextLine (text : List Char) : List Char :=
  (text.dropWhile (· ≠ '\n')).drop 1

/-- Reads one statement, which starts with no blank, and gives the text behind it.  Behind the place where a statement
turns out to be malformed, the rest of that line is passed over. -/
def readStatement (text : List Char) : Statement × List Char :=
  match readName (skipExport text) with
  | none => (.malformed, nextLine (skipExport text))
  | some (name, behindName) =>
    let finish (value : Option String) (behind : List Char) : Statement × List Char :=
      match endLine behind with
      | some rest => (name.elim .comment fun name => .assignment ⟨name, value⟩, rest)
      | none => (.malformed, nextLine behind)
    match behindName.dropWhile isInlineBlank with
    | '=' :: rest =>
      match readValue rest with
      | some (value, behind) => finish (some value) behind
      | none => (.malformed, nextLine (rest.dropWhile isInlineBlank))
    | behind => finish none behind

/-- The statements of a text that starts on a line.  With each stands the line behind the one before it, on which the
blanks in front of it start.  Every statement makes the text shorter. -/
def readStatements (line : Nat) (text : List Char) : List (Nat × Statement) :=
  match text.dropWhile isBlank with
  | [] => []
  | c :: rest =>
    let (statement, behind) := readStatement (c :: rest)
    let next := line + (text.take (text.length - behind.length)).count '\n'
    (line, statement) :: if _h : behind.length < text.length then readStatements next behind else []
termination_by text.length

/-- The statements of an assignment file.  A mark of its byte order in front does not count. -/
def statements (file : String) : List (Nat × Statement) :=
  match normalizeNewlines file.toList with
  | '\uFEFF' :: text => readStatements 1 text
  | text => readStatements 1 text

/-- The assignments of a file in order. -/
def assignments (file : String) : List Assignment :=
  (statements file).filterMap fun
    | (_, .assignment a) => some a
    | _ => none

/-- The lines with which the malformed statements of a file stand. -/
def malformedLines (file : String) : List Nat :=
  ((statements file).filter (·.2 = .malformed)).map (·.1)

/-! ### Variables in values -/

/-- Reads a variable behind its dollar sign: its name, the value that it has if it is not set, and the number of
characters. -/
def readVariable : List Char → Option (String × String × Nat)
  | '\x7b' :: rest =>
    let name := rest.takeWhile fun c => c ≠ '\x7d' ∧ c ≠ ':'
    let found (default : List Char) (length : Nat) := some (String.ofList name, String.ofList default, length)
    match rest.drop name.length with
    | '\x7d' :: _ => found [] (name.length + 2)
    | ':' :: '-' :: behind =>
      let default := behind.takeWhile (· ≠ '\x7d')
      if default.length < behind.length then found default (name.length + default.length + 4) else none
    | _ => none
  | _ => none

/-- Replaces variables by their values.  `lookup` tells whether a variable is known, and its value if it has one. -/
def expandVariables (lookup : String → Option (Option String)) : List Char → List Char
  | [] => []
  | '$' :: rest =>
    match readVariable rest with
    | some (name, default, length) =>
      (((lookup name).getD (some default)).getD "").toList ++ expandVariables lookup (rest.drop length)
    | none => '$' :: expandVariables lookup rest
  | c :: rest => c :: expandVariables lookup rest
termination_by text => text.length
decreasing_by all_goals simp only [List.length_cons, List.length_drop]; omega

/-- The variables that assignments set, each with variables in its value replaced: by those before it, or else by those
of the environment. -/
def assignedVariables (environment : List (String × String)) (assignments : List Assignment) :
    List (String × Option String) :=
  assignments.foldl (fun known a =>
    let lookup (name : String) :=
      match Dictionary.find? name known with
      | some value => some value
      | none => (Dictionary.find? name environment).map some
    Dictionary.assign a.name (a.value.map fun v => String.ofList (expandVariables lookup v.toList)) known) []

end TableSchema.Settings
