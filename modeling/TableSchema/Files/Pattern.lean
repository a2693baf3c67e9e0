import TableSchema.Files.Disk

/-!
# File patterns

A pattern selects paths below a directory.  Its parts are names, name patterns with `*`, `?` and character sets, and
`**` for a directory and all directories below it.  `Pattern.select` gives the paths in the order of the disk.
-/

namespace TableSchema.Files

/-- A piece of a name pattern. -/
inductive Piece
  | star
  | one
  | char (c : Char)
  | oneOf (ranges : List (Char × Char))
  | noneOf (ranges : List (Char × Char))
deriving DecidableEq

/-! ### Character sets -/

/-- The chunks of a character set between the hyphens of its ranges.  Such a hyphen stands behind at least `least`
characters of its chunk; one at the end belongs to the last chunk. -/
def setChunks (least : Nat) (text : List Char) : List (List Char) :=
  match _h : (text.drop least).dropWhile (· ≠ '-') with
  | [] => [text]
  | [_] => [text]
  | _ :: rest => text.take (text.length - rest.length - 1) :: setChunks 2 rest
termination_by text.length
decreasing_by
  have hle := (List.dropWhile_suffix (l := text.drop least) fun c => decide (c ≠ '-')).length_le
  rw [_h] at hle
  simp only [List.length_cons, List.length_drop] at hle ⊢
  omega

/-- Puts a chunk in front of others.  A range between them that is upside down is empty, and its ends are dropped. -/
def consChunk (chunk : List Char) : List (List Char) → List (List Char)
  | [] => [chunk]
  | next :: rest =>
    match chunk.getLast?, next.head? with
    | some low, some high =>
      if high < low then (chunk.dropLast ++ next.tail) :: rest else chunk :: next :: rest
    | _, _ => chunk :: next :: rest

/-- The characters of a set in order, with `none` for the hyphen of a range. -/
def setItems (text : List Char) : List (Option Char) :=
  let chunks := (setChunks (if text.head? = some '!' then 2 else 1) text).foldr consChunk []
  List.intercalate [none] (chunks.map (·.map some))

/-- The ranges of a character set.  A character by itself is a range. -/
def setRanges : List (Option Char) → List (Char × Char)
  | some low :: none :: some high :: rest => (low, high) :: setRanges rest
  | some c :: rest => (c, c) :: setRanges rest
  | none :: rest => ('-', '-') :: setRanges rest
  | [] => []

/-- A character set from what stands between its brackets.  An exclamation mark turns it around, also one that comes
to the front because an empty range was dropped before it. -/
def readSet (text : List Char) : Piece :=
  match setItems text with
  | some '!' :: items => .noneOf (setRanges items)
  | items => .oneOf (setRanges items)

/-- Splits a text behind an opening bracket at the closing one, which is not the first character of the set. -/
def closeSet (text : List Char) : Option (List Char × List Char) :=
  let first := if text.head? = some '!' then 2 else 1
  match (text.drop first).dropWhile (· ≠ ']') with
  | [] => none
  | _ :: behind => some (text.take (text.length - behind.length - 1), behind)

theorem length_closeSet_lt {text inside behind : List Char} (h : closeSet text = some (inside, behind)) :
    behind.length < text.length := by
  unfold closeSet at h
  have hle := (List.dropWhile_suffix (l := text.drop (if text.head? = some '!' then 2 else 1))
    fun c => decide (c ≠ ']')).length_le
  simp only at h
  split at h
  · simp at h
  · rename_i heq
    simp only [Option.some.injEq, Prod.mk.injEq] at h
    rw [heq, h.2] at hle
    simp only [List.length_cons, List.length_drop] at hle
    omega

/-- The pieces of a name pattern.  A bracket that is never closed stands for itself. -/
def pieces (text : List Char) : List Piece :=
  match text with
  | [] => []
  | '*' :: rest => .star :: pieces rest
  | '?' :: rest => .one :: pieces rest
  | '[' :: rest =>
    match _h : closeSet rest with
    | some (inside, behind) => readSet inside :: pieces behind
    | none => .char '[' :: pieces rest
  | c :: rest => .char c :: pieces rest
termination_by text.length
decreasing_by
  all_goals try have := length_closeSet_lt _h
  all_goals simp only [List.length_cons]
  all_goals omega

/-! ### Matching -/

/-- Whether one of some ranges holds a character. -/
def inCharRanges (ranges : List (Char × Char)) (c : Char) : Bool :=
  ranges.any fun (low, high) => low ≤ c && c ≤ high

/-- Whether a piece that stands for one character admits a character. -/
def Piece.admits : Piece → Char → Bool
  | star, _ => false
  | one, _ => true
  | char c, d => c == d
  | oneOf ranges, c => inCharRanges ranges c
  | noneOf ranges, c => !inCharRanges ranges c

/-- For every end of a list whether it holds a truth. -/
def orEnds : List Bool → List Bool
  | [] => []
  | b :: rest =>
    let ends := orEnds rest
    (b || ends.headD false) :: ends

/-- Whether pieces match the ends of a name, from the whole name to the empty end. -/
def matchEnds : List Piece → List Char → List Bool
  | [], name => name.map (fun _ => false) ++ [true]
  | .star :: rest, name => orEnds (matchEnds rest name)
  | piece :: rest, name =>
    List.zipWith (fun c behind => piece.admits c && behind) name (matchEnds rest name).tail ++ [false]

/-- Whether pieces match a whole name. -/
def matchPieces (ps : List Piece) (name : List Char) : Bool :=
  (matchEnds ps name).headD false

/-- A part of a pattern. -/
inductive PatternPart
  | name (text : String)
  | matching (pieces : List Piece)
  | anyDepth
deriving DecidableEq

/-- A pattern: its parts, and whether it selects directories only. -/
structure Pattern where
  parts : List PatternPart
  directoriesOnly : Bool
deriving DecidableEq

/-- Why a text is no pattern. -/
inductive PatternFault
  | empty
  | absolute
  | noParts
  | noDirectory
  | misplacedAnyDepth
deriving DecidableEq

/-- The wording of a pattern fault. -/
def PatternFault.message : PatternFault → String
  | empty => "Unacceptable pattern: ''"
  | absolute => "Non-relative patterns are unsupported"
  | noParts => "tuple index out of range"
  | noDirectory => "'_TerminatingSelector' object has no attribute 'select_from'"
  | misplacedAnyDepth => "Invalid pattern: '**' can only be an entire path component"

namespace Pattern

/-- Whether two stars stand beside each other. -/
def hasDoubleStar : List Char → Bool
  | '*' :: '*' :: _ => true
  | _ :: rest => hasDoubleStar rest
  | [] => false

/-- Reads a part of a pattern. -/
def readPart (text : String) : Except PatternFault PatternPart :=
  if text = "**" then .ok .anyDepth
  else if hasDoubleStar text.toList then .error .misplacedAnyDepth
  else if text.toList.any fun c => c = '*' ∨ c = '?' ∨ c = '[' then .ok (.matching (pieces text.toList))
  else .ok (.name text)

/-- Reads a pattern.  A slash at its end restricts it to directories, of which it must name one. -/
def ofString (text : String) : Except PatternFault Pattern :=
  let p := Path.ofString text
  let directoriesOnly := text.toList.getLast? = some '/'
  if text.isEmpty then .error .empty
  else if p.anchor ≠ .relative then .error .absolute
  else if p.parts.isEmpty then .error (if directoriesOnly then .noDirectory else .noParts)
  else (⟨·, directoriesOnly⟩) <$> p.parts.mapM readPart

/-- The children of the directory at a path. -/
def childrenOf (d : Disk) (p : Path) : List (String × Entry) :=
  match d.locate p with
  | .ok place => d.children place
  | .error _ => []

/-- The directories below the directory at a path, at any depth, and the path itself. -/
def directoriesFrom (d : Disk) (p : Path) : List Path :=
  match d.locate p with
  | .error _ => [p]
  | .ok place =>
    p :: (d.below place).filterMap fun (parts, entry) =>
      if entry = .directory then some { p with parts := p.parts ++ parts } else none

/-- The paths that parts of a pattern select below a path.  All but the last part lead to directories. -/
def selectParts (d : Disk) (directoriesOnly : Bool) : List PatternPart → Path → List Path
  | [], p => [p]
  | part :: rest, p =>
    let inner := directoriesOnly || !rest.isEmpty
    match part with
    | .name text =>
      let p := p.child text
      if if inner then d.isDirectory p else d.has p then selectParts d directoriesOnly rest p else []
    | .matching pieces =>
      ((childrenOf d p).filter fun (name, entry) =>
        (!inner || entry = .directory) && matchPieces pieces name.toList).flatMap fun (name, _) =>
          selectParts d directoriesOnly rest (p.child name)
    | .anyDepth => ((directoriesFrom d p).flatMap (selectParts d directoriesOnly rest)).eraseDups

/-- The paths that a pattern selects below the directory at a path. -/
def select (pattern : Pattern) (d : Disk) (directory : Path) : List Path :=
  selectParts d pattern.directoriesOnly pattern.parts directory

end Pattern

end TableSchema.Files
