import TableSchema.Files.Pattern
import TableSchema.Syntax.Source
import TableSchema.Text.Utf8

/-!
# Loading sources

Files are read as UTF-8 text with every line ending written as `\n`.  A directory stands for the files in it that a
pattern selects, sorted by the parts of their paths, so that the order of the disk does not show.
-/

namespace TableSchema.Files

open Syntax Text

/-- Why sources cannot be loaded. -/
inductive LoadError
  | file (e : FileError)
  | encoding (e : Utf8Error)
  | pattern (fault : PatternFault)
deriving DecidableEq

/-- The message of a load error. -/
def LoadError.message : LoadError → String
  | file e => e.message
  | encoding e => e.message
  | pattern fault => fault.message

/-- Reads bytes as text. -/
def textOf (bytes : List UInt8) : Except Utf8Error String :=
  (fun text => String.ofList (normalizeNewlines text)) <$> decodeUtf8 bytes

/-- The text of the file at a path. -/
def readText (d : Disk) (p : Path) : Except LoadError String := do
  let bytes ← (d.read p).mapError .file
  (textOf bytes).mapError .encoding

/-- The paths of the files that a path stands for. -/
def expand (d : Disk) (pattern : String) (p : Path) : Except LoadError (List Path) :=
  if d.isDirectory p then
    match Pattern.ofString pattern with
    | .error fault => .error (.pattern fault)
    | .ok pattern => .ok ((pattern.select d p).mergeSort Path.le)
  else .ok [p]

/-- The file at a path as a source that is named by the path. -/
def readSource (d : Disk) (p : Path) : Except LoadError Source :=
  (Source.ofText p.toString ·) <$> readText d p

/-- The sources that a path stands for. -/
def loadPath (d : Disk) (pattern : String) (p : Path) : Except LoadError (List Source) := do
  (← expand d pattern p).mapM (readSource d)

/-- The sources that paths stand for, in order. -/
def loadSources (d : Disk) (pattern : String) (paths : List Path) : Except LoadError (List Source) :=
  List.flatten <$> paths.mapM (loadPath d pattern)

/-- The pattern of schema files. -/
def defaultPattern : String := "*.graphql"

end TableSchema.Files
