import TableSchema.Dictionary
import TableSchema.Files.Path
import TableSchema.Text.Quoted

/-!
# Disks

A disk is a tree of files and directories, held as a list of entries by their location, and a working directory.  The
order of the entries is the order in which a directory lists its children; nothing but listings depends on it.
Operations fail as the operating system would, and keep what they had done before.
-/

namespace TableSchema.Files

/-- The parts that lead from the root to an entry. -/
abbrev Place := List String

/-- What can stand at a place. -/
inductive Entry
  | file (bytes : List UInt8)
  | directory
deriving DecidableEq

/-- How many bytes the name of an entry and a whole path can have, if there is a limit. -/
structure Limits where
  name : Option Nat
  path : Option Nat
deriving DecidableEq

namespace Limits

/-- No limits. -/
def unbounded : Limits := ⟨none, none⟩

/-- The limits of a usual file system. -/
def usual : Limits := ⟨some 255, some 4095⟩

end Limits

/-- The entries of a tree, the working directory and the limits.  The root is a directory without an entry. -/
structure Disk where
  entries : List (Place × Entry)
  workingDirectory : Place
  limits : Limits
deriving DecidableEq

/-- Why a file operation fails. -/
inductive FileFault
  | notFound
  | notDirectory
  | isDirectory
  | alreadyExists
  | nameTooLong
  | nullCharacter
deriving DecidableEq

/-- A fault and the path for which it arose. -/
structure FileError where
  fault : FileFault
  path : Path
deriving DecidableEq

/-- The number and the name of a fault. -/
def FileFault.description : FileFault → String
  | notFound => "[Errno 2] No such file or directory"
  | notDirectory => "[Errno 20] Not a directory"
  | isDirectory => "[Errno 21] Is a directory"
  | alreadyExists => "[Errno 17] File exists"
  | nameTooLong => "[Errno 36] File name too long"
  | nullCharacter => "embedded null byte"

/-- The message of an error, which names the path. -/
def FileError.message (e : FileError) : String :=
  if e.fault = .nullCharacter then e.fault.description
  else e.fault.description ++ ": " ++ Text.quoted e.path.toString

namespace Disk

/-- What stands at a place. -/
def get? (d : Disk) (place : Place) : Option Entry :=
  if place = [] then some .directory else Dictionary.find? place d.entries

/-- Whether a text is longer than a limit. -/
def exceeds (limit : Option Nat) (text : String) : Bool :=
  limit.any (· < text.utf8ByteSize)

/-- The place that a part leads to from a place, which must be a directory. -/
def enter (d : Disk) (place : Place) (part : String) : Except FileFault Place :=
  match d.get? place with
  | none => .error .notFound
  | some (.file _) => .error .notDirectory
  | some .directory =>
    if part = ".." then .ok place.dropLast
    else if exceeds d.limits.name part then .error .nameTooLong
    else .ok (place ++ [part])

/-- The place that a path leads to.  Nothing need stand there, but everything before it must be a directory. -/
def locate (d : Disk) (p : Path) : Except FileFault Place :=
  if p.parts.any (·.contains '\x00') then .error .nullCharacter
  else if exceeds d.limits.path p.toString then .error .nameTooLong
  else p.parts.foldlM d.enter (if p.anchor = .relative then d.workingDirectory else [])

/-- What stands at a path. -/
def look (d : Disk) (p : Path) : Except FileFault Entry :=
  match d.locate p with
  | .error fault => .error fault
  | .ok place =>
    match d.get? place with
    | none => .error .notFound
    | some entry => .ok entry

/-- Whether anything stands at a path. -/
def has (d : Disk) (p : Path) : Bool :=
  (d.look p).isOk

/-- Whether a directory stands at a path. -/
def isDirectory (d : Disk) (p : Path) : Bool :=
  match d.look p with
  | .ok .directory => true
  | _ => false

/-- The bytes of the file at a path. -/
def read (d : Disk) (p : Path) : Except FileError (List UInt8) :=
  match d.look p with
  | .error fault => .error ⟨fault, p⟩
  | .ok .directory => .error ⟨.isDirectory, p⟩
  | .ok (.file bytes) => .ok bytes

/-- The entries below a place, each with the parts that lead to it, in the order of the disk. -/
def below (d : Disk) (place : Place) : List (List String × Entry) :=
  d.entries.filterMap fun (p, entry) =>
    if place.isPrefixOf p && place.length < p.length then some (p.drop place.length, entry) else none

/-- The names in the directory at a place, with what they stand for, in the order of the disk. -/
def children (d : Disk) (place : Place) : List (String × Entry) :=
  (d.below place).filterMap fun (parts, entry) => match parts with
    | [name] => some (name, entry)
    | _ => none

/-- Puts an entry at a place, in the stead of what stood there. -/
def put (d : Disk) (place : Place) (entry : Entry) : Disk :=
  { d with entries := Dictionary.assign place entry d.entries }

/-- Only the place changes at which an entry is put.  The root is a directory for ever. -/
theorem get?_put (d : Disk) (place other : Place) (entry : Entry) :
    (d.put place entry).get? other = if other = place ∧ other ≠ [] then some entry else d.get? other := by
  unfold put get?
  by_cases hroot : other = []
  · simp [hroot]
  · rw [if_neg hroot, if_neg hroot, Dictionary.find?_assign]
    by_cases ho : other = place
    · rw [if_pos ho, if_pos ⟨ho, hroot⟩]
    · rw [if_neg ho, if_neg fun h => ho h.1]

/-- Puts an entry at a place, with all directories above it. -/
def insert (d : Disk) (place : Place) (entry : Entry) : Disk :=
  let parents := ((List.range place.length).drop 1).map place.take
  let d := parents.foldl (fun d parent => if (d.get? parent).isSome then d else d.put parent .directory) d
  if place = [] then d else d.put place entry

/-- A disk with the given entries, all directories above them, and the working directory. -/
def ofEntries (limits : Limits) (workingDirectory : Place) (entries : List (Place × Entry)) : Disk :=
  entries.foldl (fun d (place, entry) => d.insert place entry)
    ((Disk.mk [] workingDirectory limits).insert workingDirectory .directory)

/-- The files below the working directory, each with the parts that lead to it. -/
def files (d : Disk) : List (List String × List UInt8) :=
  (d.below d.workingDirectory).filterMap fun (parts, entry) => match entry with
    | .file bytes => some (parts, bytes)
    | .directory => none

end Disk

/-! ### Changes -/

/-- A change of a disk that may fail; what was done before a failure stays. -/
abbrev Change (ε α : Type) := ExceptT ε (StateM Disk) α

namespace Change

/-- Writes a file, in the stead of one that is there. -/
def writeFile (p : Path) (bytes : List UInt8) : Change FileError Unit := do
  let d ← getThe Disk
  match d.locate p with
  | .error fault => throw ⟨fault, p⟩
  | .ok place =>
    match d.get? place with
    | some .directory => throw ⟨.isDirectory, p⟩
    | _ => set (d.put place (.file bytes))

/-- Makes a directory where nothing stands yet. -/
def makeNew (p : Path) : Change FileError Unit := do
  let d ← getThe Disk
  match d.locate p with
  | .error fault => throw ⟨fault, p⟩
  | .ok place =>
    match d.get? place with
    | some _ => throw ⟨.alreadyExists, p⟩
    | none => set (d.put place .directory)

/-- Makes a directory unless it is there already. -/
def makeIfMissing (p : Path) : Change FileError Unit := do
  try makeNew p
  catch e =>
    if e.fault = .notFound ∨ e.fault = .nullCharacter then throw e
    unless (← getThe Disk).isDirectory p do throw e

/-- Makes a directory and all directories above it, as far as they are missing.  `depth` is the number of parts that
may still be taken off the path. -/
def makeAll (p : Path) : (depth : Nat) → Change FileError Unit
  | 0 => makeIfMissing p
  | depth + 1 => do
    try makeIfMissing p
    catch e =>
      if e.fault ≠ .notFound then throw e
      makeAll p.parent depth
      makeIfMissing p

/-- Makes a directory and all directories above it, as far as they are missing. -/
def makeDirectory (p : Path) : Change FileError Unit :=
  makeAll p p.parts.length

end Change

end TableSchema.Files
