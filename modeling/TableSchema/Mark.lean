import TableSchema.Problem
import TableSchema.Text.Numeral

/-!
# Marks

A mark is a directive that was checked: its name is one that may stand at its site, and its arguments give
what the directive says.  `readMarks` checks the directives of a site in order and keeps each beside its mark.
-/

namespace TableSchema

open Syntax

/-- What a directive can say. -/
inductive Mark
  | ref (column : String)
  | unique
  | localized
  | file (extension : String)
  | files (extensions : List String)
  | indexing (first : Fin 2)
  | tags (tags : List String)
deriving DecidableEq

/-- The directives that there are. -/
inductive MarkKind
  | ref
  | unique
  | localized
  | file
  | files
  | indexing
  | tags
deriving DecidableEq

/-- The name of a directive. -/
def MarkKind.name : MarkKind → String
  | ref => "ref"
  | unique => "unique"
  | localized => "localized"
  | file => "file"
  | files => "files"
  | indexing => "indexing"
  | tags => "tags"

/-- The directive that a mark comes from. -/
def Mark.kind : Mark → MarkKind
  | ref _ => .ref
  | unique => .unique
  | localized => .localized
  | file _ => .file
  | files _ => .files
  | indexing _ => .indexing
  | tags _ => .tags

/-- The places that take directives. -/
inductive Site
  | field
  | table
  | enumeration
deriving DecidableEq

/-- The directives that may stand at a site. -/
def Site.legal : Site → List MarkKind
  | field => [.ref, .unique, .localized, .file, .files]
  | table => [.tags]
  | enumeration => [.indexing]

/-- The directive with a name, if it may stand at a site. -/
def Site.kind? (site : Site) (name : String) : Option MarkKind :=
  site.legal.find? (·.name = name)

/-! ### Reading arguments -/

/-- A string. -/
def readLiteral : Literal → Except Fault String
  | .string _ text => .ok text
  | value => .error (.problem (.unexpectedValue value.node .string))

/-- A single string. -/
def readString : Value → Except Fault String
  | .literal value => readLiteral value
  | value => .error (.problem (.unexpectedValue value.node .string))

/-- A list of strings. -/
def readStrings (expected : Expectation) : Value → Except Fault (List String)
  | .list _ items => items.mapM readLiteral
  | value => .error (.problem (.unexpectedValue value.node expected))

/-- A list of at least one string. -/
def readTags : Value → Except Fault (List String)
  | .list start [] => .error (.problem (.noTags ⟨.list, start⟩))
  | value => readStrings .tags value

/-- The number that a spelling stands for, if it has no more digits than an integer may have. -/
def readInteger (spelling : String) : Except Fault Int :=
  if Text.maxDigits < Text.digitCount spelling then .error (.integerTooLong (Text.digitCount spelling))
  else .ok (Text.integerOf spelling)

/-- The number 0 or 1.  An integer is read before it is compared with them. -/
def readIndexBase : Value → Except Fault (Fin 2)
  | .literal (.int start spelling) => do
    let n ← readInteger spelling
    if n = 0 then return 0
    else if n = 1 then return 1
    else throw (.problem (.unexpectedValue ⟨.int, start⟩ .indexBase))
  | value => .error (.problem (.unexpectedValue value.node .indexBase))

/-- The only argument of a directive, which must have the given name.  Arguments are checked in order, each for its
name and then for its value, so that a second one fails whatever it holds. -/
def readArgument {α : Type} (directive : Directive) (parameter : Parameter) (name : String)
    (read : Value → Except Fault α) : Except Fault α :=
  match directive.arguments with
  | [] => .error (.problem (.missingArgument directive parameter))
  | first :: others =>
    if first.name.text ≠ name then .error (.problem (.unknownArgument first.name))
    else do
      let value ← read first.value
      match others with
      | [] => return value
      | second :: _ =>
        if second.name.text ≠ name then throw (.problem (.unknownArgument second.name))
        else throw (.problem (.duplicateArgument second.name))

/-- A directive without arguments. -/
def readNothing (directive : Directive) : Except Fault Unit :=
  match directive.arguments with
  | [] => .ok ()
  | first :: others => .error (.problem (.argumentsRefused first others))

/-- What a directive of a kind says. -/
def MarkKind.read (kind : MarkKind) (d : Directive) : Except Fault Mark :=
  match kind with
  | ref => .ref <$> readArgument d .referencedColumn "column" readString
  | unique => (fun _ => .unique) <$> readNothing d
  | localized => (fun _ => .localized) <$> readNothing d
  | file => .file <$> readArgument d .extension "ext" readString
  | files => .files <$> readArgument d .extensions "ext" (readStrings .extensions)
  | indexing => .indexing <$> readArgument d .indexBase "first" readIndexBase
  | tags => .tags <$> readArgument d .tags "list" readTags

/-! ### Checking directives -/

/-- A directive and what it says. -/
structure Marked where
  directive : Directive
  mark : Mark
deriving DecidableEq

/-- Checks a directive at a site. -/
def readMark (site : Site) (d : Directive) : Except Fault Marked :=
  match site.kind? d.name.text with
  | none => .error (.problem (.unknownDirective d.name))
  | some kind => (⟨d, ·⟩) <$> kind.read d

/-- Checks the directives of a site in order. -/
def readMarks (site : Site) (directives : List Directive) : Except Fault (List Marked) :=
  directives.mapM (readMark site)

/-- The first mark of a kind. -/
def firstOf (kind : MarkKind) (marks : List Marked) : Option Marked :=
  marks.find? (·.mark.kind = kind)

/-- The first directive with a name, whatever its arguments. -/
def firstNamed (name : String) (directives : List Directive) : Option Directive :=
  directives.find? (·.name.text = name)

/-- Whether there is a mark of a kind. -/
def hasKind (kind : MarkKind) (marks : List Marked) : Bool :=
  (firstOf kind marks).isSome

/-- The directive and the column of the first reference. -/
def firstRef (marks : List Marked) : Option (Directive × String) :=
  marks.findSome? fun a => match a.mark with
    | .ref column => some (a.directive, column)
    | _ => none

/-- The extension of the first single file. -/
def firstFile (marks : List Marked) : Option String :=
  marks.findSome? fun a => match a.mark with
    | .file extension => some extension
    | _ => none

/-- The extensions of the first group of files. -/
def firstFiles (marks : List Marked) : Option (List String) :=
  marks.findSome? fun a => match a.mark with
    | .files extensions => some extensions
    | _ => none

/-- The first number of the first enumerator. -/
def firstIndexing (marks : List Marked) : Option (Fin 2) :=
  marks.findSome? fun a => match a.mark with
    | .indexing first => some first
    | _ => none

/-- The tags of the first list of tags, none if there is no such list. -/
def firstTags (marks : List Marked) : List String :=
  (marks.findSome? fun a => match a.mark with
    | .tags tags => some tags
    | _ => none).getD []

end TableSchema
