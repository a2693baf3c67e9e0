import TableSchema.Command

/-!
# The program

A run is planned first.  The part of the file tree that the plan can look at is read into a disk, the plan is carried
out on the disk, and what it changed there is written back.
-/

namespace TableSchema.Main

open Files Command

/-- The variables of the environment that are set, out of those that set the program up. -/
def environment : IO (List (String × String)) := do
  let fields := ["schema_dir", "file_pattern", "max_workers", "log_level"]
  let names := fields.flatMap fun field =>
    let name := Settings.variableStart ++ field
    [name, name.map Char.toUpper]
  names.filterMapM fun name => return (← IO.getEnv name).map (name, ·)

/-- How a place is written. -/
def written (place : Place) : String :=
  "/" ++ "/".intercalate place

/-- The entry at a place, if there is one that can be read, and the names in it. -/
def entryAt (place : Place) : IO (Option Entry × List String) := do
  let here := (← IO.currentDir) / written place
  try
    if ← here.isDir then
      return (some .directory, (← here.readDir).toList.map (·.fileName))
    else
      return (some (.file (← IO.FS.readBinFile here).toList), [])
  catch _ => return (none, [])

/-- The entries at and below a place. -/
partial def tree (place : Place) : IO (List (Place × Entry)) := do
  let (entry, names) ← entryAt place
  let below ← names.mapM fun name => tree (place ++ [name])
  return (entry.map (place, ·)).toList ++ below.flatten

/-- The entries that a path leads to or through. -/
def entriesOf (workingPlace : Place) (p : Path) : IO (List (Place × Entry)) := do
  let start := if p.anchor = .relative then workingPlace else []
  let step (place : Place) (part : String) := if part = ".." then place.dropLast else place ++ [part]
  let places := (List.range p.parts.length).map fun k => (p.parts.take k).foldl step start
  let through ← places.filterMapM fun place => return (← entryAt place).1.map (place, ·)
  return through ++ (← tree (p.parts.foldl step start))

/-- The disk as far as some paths show it. -/
def readDisk (paths : List Path) : IO Disk := do
  let workingPlace := (Path.ofString (← IO.currentDir).toString).parts
  return Disk.ofEntries .usual workingPlace (← paths.mapM (entriesOf workingPlace)).flatten

/-- Writes what a run changed. -/
def writeChanges (before after : Disk) : IO Unit := do
  for (place, entry) in after.entries do
    if before.get? place ≠ some entry then
      match entry with
      | .directory => IO.FS.createDirAll (written place)
      | .file bytes => IO.FS.writeBinFile (written place) ⟨bytes.toArray⟩

/-- Tells what came of a run. -/
def tell (outcome : Outcome) : IO Unit := do
  for event in outcome.events do
    if outcome.level.rank ≤ event.level.rank then
      IO.eprintln s!"{event.level.text} {event.message}"
  IO.print outcome.output
  IO.eprint outcome.errors
  if let some crash := outcome.crash then
    IO.eprintln crash.message

/-- Plans and carries out a run.  Gives the exit code. -/
def run (arguments : List String) : IO UInt32 := do
  let environment ← environment
  let paths := match plan environment arguments (← readDisk [settingsFile]) with
    | .ok plan => plan.paths
    | .error _ => []
  let before ← readDisk (settingsFile :: paths)
  let outcome := Command.run environment arguments before
  writeChanges before outcome.disk
  tell outcome
  return outcome.exitCode.toUInt32

end TableSchema.Main

/-- Runs the program. -/
def main (arguments : List String) : IO UInt32 :=
  TableSchema.Main.run arguments
