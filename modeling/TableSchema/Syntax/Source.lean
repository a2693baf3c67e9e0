import TableSchema.Text.CodePoint
import TableSchema.Text.Line

/-!
# Sources and their excerpts

A source is a named text, possibly cut out of a larger file at an origin.  `Source.excerpt` shows a place in it: the
name with the line and column, then the line itself between its neighbours with a caret below the column.  A line of
more than 120 characters is shown in pieces of 80 instead.
-/

namespace TableSchema.Syntax

open Text

/-- Where a text begins in the file that it was cut from.  Lines and columns count from 1. -/
structure Origin where
  line : Nat
  column : Nat
deriving DecidableEq

/-- Why two numbers are no origin. -/
inductive OriginError
  | line
  | column
deriving DecidableEq

/-- The wording of an origin error. -/
def OriginError.message : OriginError → String
  | line => "line in location_offset is 1-indexed and must be positive."
  | column => "column in location_offset is 1-indexed and must be positive."

/-- The origin at a line and column.  Both must be positive; the line is looked at first. -/
def Origin.of (line column : Int) : Except OriginError Origin :=
  if line ≤ 0 then .error .line
  else if column ≤ 0 then .error .column
  else .ok ⟨line.toNat, column.toNat⟩

/-- A named schema text. -/
structure Source where
  name : String
  body : String
  origin : Origin
deriving DecidableEq

/-- The name of a source that was given none. -/
def Source.defaultName : String := "GraphQL request"

/-- A whole text, which begins at its own first line. -/
def Source.ofText (name body : String) : Source :=
  ⟨name, body, ⟨1, 1⟩⟩

/-- The `position`th of several texts, named by its position. -/
def Source.numbered (position : Nat) (body : String) : Source :=
  .ofText s!"document {position}" body

/-- The location of an offset in the body, without regard to the origin. -/
def Source.location (s : Source) (offset : Nat) : Location :=
  locate s.body.toList offset

/-- Lines of an excerpt behind their labels, which are aligned on the right.  A label stands alone if its line is
empty. -/
def labelled (rows : List (String × List Char)) : List String :=
  let width := (rows.map fun row => row.1.length).foldl max 0
  rows.map fun (label, line) =>
    justifyRight width label ++ (if line.isEmpty then "" else " " ++ String.ofList line)

/-- A caret below a column. -/
def caret (column : Nat) : List Char :=
  (justifyRight column "^").toList

/-- A text cut into pieces of `width` characters. -/
def chunks (width : Nat) (text : List Char) : List (List Char) :=
  if text = [] ∨ width = 0 then [] else text.take width :: chunks width (text.drop width)
termination_by text.length
decreasing_by
  rename_i h
  have := List.length_pos_iff.2 fun h' => h (.inl h')
  simp only [List.length_drop]
  omega

/-- The labelled rows of an excerpt: `number` is the label of the line shown, `column` the column of the caret. -/
def excerptRows (previous : Option (List Char)) (line : List Char) (next : Option (List Char))
    (number column : Nat) : List (String × List Char) :=
  if line.length ≤ 120 then
    (previous.map fun text => (s!"{number - 1} |", text)).toList
      ++ [(s!"{number} |", line), ("|", caret column)]
      ++ (next.map fun text => (s!"{number + 1} |", text)).toList
  else
    let pieces := chunks 80 line
    let last := column / 80
    [(s!"{number} |", pieces.headD [])]
      ++ ((pieces.drop 1).take last).map (("|", ·))
      ++ [("|", caret (column % 80))]
      ++ (pieces[last + 1]?.map (("|", ·))).toList

/-- The excerpt that shows a location.  The origin shifts the line numbers, and the columns of the first line. -/
def Source.excerpt (s : Source) (place : Location) : String :=
  let padding := s.origin.column - 1
  let lines := splitLines (List.replicate padding ' ' ++ s.body.toList)
  let number := place.line + s.origin.line - 1
  let column := place.column + (if place.line = 1 then padding else 0)
  let index := place.line - 1
  let previous := if index = 0 then none else lines[index - 1]?
  let rows := excerptRows previous (lines[index]?.getD []) lines[index + 1]? number column
  "\n".intercalate (s!"{s.name}:{number}:{column}" :: labelled rows)

end TableSchema.Syntax
