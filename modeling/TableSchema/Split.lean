import TableSchema.Dictionary
import TableSchema.Text.WordCharacter

/-!
# Cutting tables out of a text

An extract is a piece of text of the form `type`, a space, a name, a header and a body in braces.  It is found without
regard to comments or strings: the name is the longest run of word characters, the header reaches to the next opening
brace and the body to the next closing one.  Extracts are taken from left to right and do not overlap.
-/

namespace TableSchema

open Text

/-- A piece of text that looks like the definition of a table. -/
structure Extract where
  name : List Char
  header : List Char
  body : List Char
deriving DecidableEq

namespace Extract

/-- What every extract starts with. -/
def opening : List Char := ['t', 'y', 'p', 'e', ' ']

/-- The text of an extract. -/
def chars (e : Extract) : List Char :=
  opening ++ e.name ++ e.header ++ '\x7b' :: e.body ++ ['\x7d']

/-- The extract behind an opening. -/
def afterOpening? (text : List Char) : Option Extract :=
  let name := text.takeWhile isWord
  let behindName := text.dropWhile isWord
  let header := behindName.takeWhile (· ≠ '\x7b')
  match name, behindName.dropWhile (· ≠ '\x7b') with
  | [], _ => none
  | _, [] => none
  | _, _ :: inside =>
    if '\x7d' ∈ inside then some ⟨name, header, inside.takeWhile (· ≠ '\x7d')⟩ else none

/-- The extract that a text starts with. -/
def at? : List Char → Option Extract
  | 't' :: 'y' :: 'p' :: 'e' :: ' ' :: rest => afterOpening? rest
  | _ => none

/-- The extracts of a text from left to right. -/
def all : List Char → List Extract
  | [] => []
  | c :: rest =>
    match at? (c :: rest) with
    | some e => e :: all (rest.drop (e.chars.length - 1))
    | none => all rest
termination_by text => text.length
decreasing_by all_goals simp only [List.length_cons, List.length_drop]; omega

/-- The name and the text of an extract. -/
def entry (e : Extract) : String × String :=
  (String.ofList e.name, String.ofList e.chars)

end Extract

/-- The text of every table in a text by name.  Names stand in the order of their first extracts, and the last extract
of a name counts. -/
def splitTables (text : String) : List (String × String) :=
  Dictionary.ofList ((Extract.all text.toList).map Extract.entry)

end TableSchema
