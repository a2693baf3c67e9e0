import TableSchema.Terminal.Markup
import TableSchema.Terminal.Wrap

/-!
# Grids

A grid has a title, headers and rows.  Every column is as wide as its widest cell, with a space on both sides, and
the title is centred over the whole grid.  A grid that is too wide for the terminal loses width in its widest columns,
and what does not fit into a column goes on in the next line.
-/

namespace TableSchema.Terminal

open Text (cutAt isBlank trimEnd)

/-- A title, the headers of the columns, and rows with a cell for every column. -/
structure Grid where
  title : String
  headers : List String
  rows : List (List String)

namespace Grid

/-- Whether a character separates the parts of a cell that are measured. -/
def isSeparator (c : Char) : Bool :=
  c == '\n' || (0x1c ≤ c.toNat && c.toNat ≤ 0x1e) || c == '\u0085' || c == '\u2028' || c == '\u2029'

/-- The width that a cell asks for: that of its widest part, in which tabs count for nothing. -/
def cellWidth (text : List Char) : Nat :=
  ((cutAt isSeparator text).map width).foldl max 0

/-- The width that each column asks for, with a space on both sides, as far as the terminal has it. -/
def askedWidths (limit count : Nat) (rows : List (List (List Char))) : List Nat :=
  (List.range count).map fun k =>
    min limit ((rows.map fun row => cellWidth (row.getD k [])).foldl max 0 + 2)

/-- A quotient rounded to the nearest integer, and a half to the even one. -/
def roundedQuotient (a b : Nat) : Nat :=
  let below := a / b
  let twice := 2 * (a % b)
  if twice < b ∨ (twice = b ∧ below % 2 = 0) then below else below + 1

/-- Takes `excess` off the widths that are chosen, from each a rounded share of what is left but at most `most`.
`count` widths are chosen. -/
def takeOff (most : Nat) (chosen : Nat → Bool) (excess count : Nat) : List Nat → List Nat
  | [] => []
  | w :: rest =>
    if chosen w ∧ 0 < count then
      let share := min most (roundedQuotient excess count)
      (w - share) :: takeOff most chosen (excess - share) (count - 1) rest
    else w :: takeOff most chosen excess count rest

/-- Makes columns narrower until they fit: the widest ones shrink to the next width, as often as it takes, and at the
end all of them alike.  Each round makes the number of different widths smaller, so that `rounds` need not exceed
it. -/
def shrink (limit : Nat) : (rounds : Nat) → List Nat → List Nat
  | 0, widths => widths
  | rounds + 1, widths =>
    let excess := total widths - limit
    let widest := widths.foldl max 0
    let second := (widths.filter (· ≠ widest)).foldl max 0
    if excess = 0 then widths
    else
      let count := (widths.filter (· = widest)).length
      shrink limit rounds (takeOff (min excess (widest - second)) (· = widest) excess count widths)

/-- A line with the spaces behind it that it lacks to a width. -/
def filledUp (limit : Nat) (line : List Char) : List Char :=
  line ++ List.replicate (limit - width line) ' '

/-- A line of a cell with spaces behind it up to a width.  A joiner at the end of the line hides a space, and another
one makes up for it. -/
def padded (limit : Nat) (line : List Char) : List Char :=
  filledUp limit (filledUp limit line)

/-- The lines of a row between vertical bars.  Short cells are filled up, at the top if `bottom` holds. -/
def rowLines (bar : Char) (bottom : Bool) (widths : List Nat) (row : List (List (List Char))) : List (List Char) :=
  let height := (row.map List.length).foldl max 1
  (List.range height).map fun k =>
    let part (limit : Nat) (cell : List (List Char)) : List Char :=
      let line := if bottom then (List.replicate (height - cell.length) [] ++ cell).getD k [] else cell.getD k []
      ' ' :: padded limit line ++ [' ', bar]
    bar :: (widths.zip row).flatMap fun (limit, cell) => part limit cell

/-- A horizontal line between rows. -/
def rule (left line middle right : Char) (widths : List Nat) : List Char :=
  left :: (List.intercalate [middle] (widths.map fun limit => List.replicate (limit + 2) line)) ++ [right]

/-- The title, centred in a width.  What is left over goes to the right. -/
def titleLines (limit : Nat) (title : String) : List (List Char) :=
  (wrap .fold limit (display title.toList)).map fun line =>
    let line := trimEnd isBlank line
    filledUp limit (List.replicate ((limit - width line) / 2) ' ' ++ line)

/-- The widths of the columns for the texts of some rows, without the spaces on both sides. -/
def columnWidths (count : Nat) (rows : List (List (List Char))) : List Nat :=
  let limit := terminalWidth - (count + 1)
  (shrink limit (count + 1) (askedWidths limit count rows)).map (· - 2)

/-- The cells of a row, each as lines that fit into its column. -/
def wrapRow (widths : List Nat) (row : List (List Char)) : List (List (List Char)) :=
  (widths.zip row).map fun (limit, text) => wrap .ellipsis limit text

/-- The text of a grid. -/
def toString (g : Grid) : String :=
  let header := g.headers.map (display ·.toList)
  let rows := g.rows.map fun row => row.map (display ·.toList)
  let widths := columnWidths g.headers.length (header :: rows)
  let limit := total widths + 3 * widths.length + 1
  let body := rows.flatMap fun row => rowLines '│' false widths (wrapRow widths row)
  let all := titleLines limit g.title
    ++ [rule '┏' '━' '┳' '┓' widths] ++ rowLines '┃' true widths (wrapRow widths header)
    ++ [rule '┡' '━' '╇' '┩' widths] ++ body ++ [rule '└' '─' '┴' '┘' widths]
  String.ofList (all.flatMap (· ++ ['\n']))

end Grid

end TableSchema.Terminal
