/-!
# Lines

A line ends at `\r\n`, `\n` or `\r` and at nothing else.  `splitLines` cuts a text there, `locate` finds the line
and column of an offset, and `normalizeNewlines` writes every ending as `\n`.  Offsets and columns count characters.

Main statement: a normalised text holds no `\r` (`not_mem_normalizeNewlines`).
-/

namespace TableSchema.Text

/-- Whether a character ends a line, alone or as a part of `\r\n`. -/
def isNewline (c : Char) : Bool :=
  c == '\n' || c == '\r'

/-- The lines of a text, without their endings.  There is one more line than there are endings. -/
def splitLines : List Char → List (List Char)
  | [] => [[]]
  | '\r' :: '\n' :: rest => [] :: splitLines rest
  | c :: rest =>
    if isNewline c then [] :: splitLines rest
    else match splitLines rest with
      | [] => [[c]]
      | line :: lines => (c :: line) :: lines

/-- Every line ending written as `\n`. -/
def normalizeNewlines : List Char → List Char
  | [] => []
  | '\r' :: '\n' :: rest => '\n' :: normalizeNewlines rest
  | c :: rest => (if c = '\r' then '\n' else c) :: normalizeNewlines rest

/-- A line and a column, both counted from 1. -/
structure Location where
  line : Nat
  column : Nat
deriving DecidableEq

/-- Moves from a location over `offset` characters of the text that follows it. -/
def Location.advance (at_ : Location) : List Char → Nat → Location
  | _, 0 => at_
  | '\r' :: '\n' :: rest, offset + 2 => advance ⟨at_.line + 1, 1⟩ rest offset
  | c :: rest, offset + 1 =>
    if isNewline c then advance ⟨at_.line + 1, 1⟩ rest offset
    else advance ⟨at_.line, at_.column + 1⟩ rest offset
  | [], offset => ⟨at_.line, at_.column + offset⟩

/-- The location of an offset in a text.  A line ending lies on the line that it ends. -/
def locate (text : List Char) (offset : Nat) : Location :=
  Location.advance ⟨1, 1⟩ text offset

theorem not_mem_normalizeNewlines (text : List Char) : '\r' ∉ normalizeNewlines text := by
  fun_induction normalizeNewlines text with
  | case1 => simp
  | case2 rest ih => simp [ih]
  | case3 c rest hne ih =>
    simp only [List.mem_cons, not_or]
    refine ⟨?_, ih⟩
    split
    · decide
    · rename_i h
      exact fun h' => h h'.symm

end TableSchema.Text
