import TableSchema.Text.Cut

/-!
# Paths

A path is a root and a list of parts.  Reading one drops empty parts and single dots and keeps double dots, so that
different spellings of a path show the same text.
-/

namespace TableSchema.Files

open Text (cutAt)

/-- Where a path starts: at the working directory, at the root, or at the root spelled with exactly two slashes. -/
inductive Anchor
  | relative
  | root
  | doubleRoot
deriving DecidableEq

/-- How an anchor is written. -/
def Anchor.text : Anchor → String
  | relative => ""
  | root => "/"
  | doubleRoot => "//"

/-- A path. -/
structure Path where
  anchor : Anchor
  parts : List String
deriving DecidableEq

/-- Whether a character stands between the parts of a path. -/
def isSlash (c : Char) : Bool :=
  c == '/'

/-- The parts that pieces of a path mean: empty ones and single dots mean nothing. -/
def meaningfulParts (pieces : List (List Char)) : List String :=
  (pieces.filter fun piece => piece ≠ [] ∧ piece ≠ ['.']).map String.ofList

namespace Path

/-- The anchor of a text: more than two slashes are as good as one. -/
def anchorOf (text : List Char) : Anchor :=
  match (text.takeWhile isSlash).length with
  | 0 => .relative
  | 2 => .doubleRoot
  | _ => .root

/-- Reads a path. -/
def ofString (text : String) : Path :=
  ⟨anchorOf text.toList, meaningfulParts (cutAt isSlash text.toList)⟩

/-- Writes a path.  The empty relative path is a dot. -/
def toString (p : Path) : String :=
  if p.anchor = .relative ∧ p.parts = [] then "."
  else p.anchor.text ++ "/".intercalate p.parts

/-- A path below another one. -/
def child (p : Path) (part : String) : Path :=
  { p with parts := p.parts ++ [part] }

/-- A path without its last part. -/
def parent (p : Path) : Path :=
  { p with parts := p.parts.dropLast }

/-- The order of paths of one anchor: by parts, and parts by code points. -/
def le (p q : Path) : Bool :=
  !decide (q.parts < p.parts)

end Path

end TableSchema.Files
