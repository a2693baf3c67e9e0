import TableSchema.Files.Disk
import TableSchema.Split
import TableSchema.Text.Utf8

/-!
# One file per table

`writeSplit` cuts the tables out of a text and writes each into a file of its own, named by the table.
-/

namespace TableSchema.Files

/-- The file of a table in a directory. -/
def tableFile (directory : Path) (name : String) : Path :=
  directory.child (name ++ ".graphql")

/-- Writes one file per table into a directory, which is made if it is missing.  Gives the paths of the files. -/
def writeSplit (text : String) (directory : Path) : Change FileError (List Path) := do
  Change.makeDirectory directory
  (splitTables text).mapM fun (name, definition) => do
    let file := tableFile directory name
    Change.writeFile file (Text.encodeUtf8 definition.toList)
    return file

end TableSchema.Files
