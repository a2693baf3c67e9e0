import TableSchema.Terminal.Width
import TableSchema.Text.Blank
import TableSchema.Text.Cut

/-!
# Lines on a terminal

Tabs go on to the next multiple of eight cells.  A line that is too wide breaks before the first word that does not
fit.  A word that fits on no line is folded over several lines or cut off with an ellipsis.
-/

namespace TableSchema.Terminal

open Text (cutAt isBlank trimEnd)

/-- The width of the terminal. -/
def terminalWidth : Nat := 1000

/-- What becomes of a word that fits on no line. -/
inductive Overflow
  | fold
  | ellipsis
deriving DecidableEq

/-- Pieces of a line, which stood between tabs, with spaces in the stead of the tabs.  The line goes on in a
column. -/
def spaceTabs (column : Nat) : List (List Char) → List Char
  | [] => []
  | [piece] => piece
  | piece :: rest =>
    let behind := column + width (piece ++ [' '])
    let stop := (behind + 7) / 8 * 8
    piece ++ List.replicate (stop - behind + 1) ' ' ++ spaceTabs stop rest

/-- Writes tabs as spaces in a line. -/
def expandTabs (line : List Char) : List Char :=
  spaceTabs 0 (cutAt (· == '\t') line)

/-- Puts graphemes on lines of at most `limit` cells.  `used` cells of the first line are taken. -/
def chopGraphemes (limit used : Nat) : List Grapheme → List (List Char)
  | [] => [[]]
  | g :: rest =>
    let (fresh, used) := if limit < used + g.width then (true, g.width) else (false, used + g.width)
    match chopGraphemes limit used rest with
    | [] => [g.text]
    | line :: lines => (if fresh then [[]] else []) ++ (g.text ++ line) :: lines

/-- Cuts a text into pieces of at most `limit` cells. -/
def chop (limit : Nat) (text : List Char) : List (List Char) :=
  chopGraphemes limit 0 (graphemes text)

/-- The words of a line, each with the blanks behind it and the first one with those before it. -/
def words (text : List Char) : List (List Char) :=
  match _h : text.dropWhile isBlank with
  | [] => []
  | c :: rest =>
    let word := (c :: rest).takeWhile (!isBlank ·)
    let behind := rest.dropWhile (!isBlank ·)
    (text.takeWhile isBlank ++ word ++ behind.takeWhile isBlank) :: words (behind.dropWhile isBlank)
termination_by text.length
decreasing_by
  have h₁ := (List.dropWhile_suffix (l := text) isBlank).length_le
  have h₂ := (List.dropWhile_suffix (l := rest) fun c => !isBlank c).length_le
  have h₃ := (List.dropWhile_suffix (l := rest.dropWhile fun c => !isBlank c) isBlank).length_le
  simp only [_h, List.length_cons] at h₁
  omega

/-- A word that fits on no line, in pieces that stand on lines of their own. -/
def Overflow.pieces (overflow : Overflow) (limit : Nat) (word : List Char) : List (List Char) :=
  match overflow with
  | fold => chop limit word
  | ellipsis => [word]

/-- Puts words on lines of at most `limit` cells.  `line` is the line so far, and `used` the cells that it takes. -/
def fill (overflow : Overflow) (limit : Nat) (line : List Char) (used : Nat) : List (List Char) → List (List Char)
  | [] => [line]
  | word :: rest =>
    let needed := width (trimEnd isBlank word)
    if used + needed ≤ limit then fill overflow limit (line ++ word) (used + width word) rest
    else if limit < needed then
      let pieces := overflow.pieces limit word
      let full := if line = [] then pieces.dropLast else line :: pieces.dropLast
      let last := pieces.getLastD []
      full ++ fill overflow limit last (width last) rest
    else line :: fill overflow limit word (width word) rest

/-- A line without blanks at its end, as far as it has more than `limit` characters. -/
def trimExcess (limit : Nat) (line : List Char) : List Char :=
  let blanks := line.length - (trimEnd isBlank line).length
  line.take (line.length - min blanks (line.length - limit))

/-- The first graphemes, as far as they take `limit` cells.  A space stands for half a grapheme. -/
def cropGraphemes (limit : Nat) : List Grapheme → List Char
  | [] => []
  | g :: rest =>
    if limit = 0 then []
    else if g.width ≤ limit then g.text ++ cropGraphemes (limit - g.width) rest
    else [' ']

/-- The start of a text that takes `limit` cells. -/
def crop (limit : Nat) (text : List Char) : List Char :=
  cropGraphemes limit (graphemes text)

/-- A line cut off at `limit` cells. -/
def Overflow.cutOff (overflow : Overflow) (limit : Nat) (line : List Char) : List Char :=
  if width line ≤ limit then line
  else match overflow with
    | fold => crop limit line
    | ellipsis => crop (limit - 1) line ++ ['…']

/-- A line as lines of at most `limit` cells. -/
def wrapLine (overflow : Overflow) (limit : Nat) (line : List Char) : List (List Char) :=
  let expanded := expandTabs line
  let filled := match words expanded with
    | [] => [expanded]
    | ws => fill overflow limit [] 0 ws
  filled.map fun line => overflow.cutOff limit (trimExcess limit line)

/-- A text as lines of at most `limit` cells. -/
def wrap (overflow : Overflow) (limit : Nat) (text : List Char) : List (List Char) :=
  (cutAt (· == '\n') text).flatMap (wrapLine overflow limit)

/-- A text as it is printed, with a line ending at its end. -/
def printed (text : List Char) : String :=
  String.ofList ((wrap .fold terminalWidth text).flatMap (· ++ ['\n']))

end TableSchema.Terminal
